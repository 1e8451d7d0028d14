import SchemaCase.Rename.Record
import SchemaCase.Terminal.Print
import SchemaCase.Terminal.Table

namespace SchemaCase.Command

def recordRow (record : Record) : List Text :=
  [record.scope.describe.toList, record.block, record.oldName, record.newName,
    (if record.mapped then "yes" else "kept").toList]

def renamesReport (records : List Record) : List Text :=
  if records.isEmpty then [Terminal.print "No declarations were renamed.".toList]
  else
    let titles := ["scope", "block", "original", "new name", "mapped"].map String.toList
    [Terminal.table titles (records.map recordRow),
      Terminal.print ('(' :: Text.ofNat records.length ++ " renames)".toList)]

end SchemaCase.Command
