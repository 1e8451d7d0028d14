import SchemaCase.Event
import SchemaCase.Schema.Block

namespace SchemaCase

def Line.typeToken? (line : Line) : Option Text :=
  (Text.readName? line.rest).map Prod.fst

def Line.renameType? (newName? : Text → Option Text) (line : Line) : Option Line :=
  if line.isField then do
    let (token, behind) ← Text.readName? line.rest
    let newName ← newName? token
    some { line with rest := newName ++ behind }.rebuild
  else none

namespace Block

def renameTypes (newName? : Text → Option Text) (block : Block) : Block :=
  { block with lines := block.lines.map fun line => (line.renameType? newName?).getD line }

def renamedTypeCount (newName? : Text → Option Text) (block : Block) : Nat :=
  block.lines.countP fun line => (line.renameType? newName?).isSome

def renameTypesEvents (newName? : Text → Option Text) (block : Block) : List Event :=
  let count := block.renamedTypeCount newName?
  if count = 0 then [] else [.referencesUpdated count block.name]

end Block

end SchemaCase
