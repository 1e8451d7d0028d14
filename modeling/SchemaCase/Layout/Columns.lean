import SchemaCase.Schema.Classification

/-! Lines that are set in columns: the fields of declarations and the settings of datasources and
generators. -/

namespace SchemaCase.Layout

open Source

def indent : Text :=
  "  ".toList

/-- Splits a type from what follows it, at the first blank outside of brackets; `depth` counts the
brackets that are open. -/
def typeAndRest (depth : Nat) : List Cell → Text × Text
  | [] => ([], [])
  | cell :: rest =>
      let c := cell.visible
      if depth == 0 && Text.isBlank c then ([], textOf (cell :: rest))
      else
        let depth :=
          if c == '(' || c == '[' then depth + 1
          else if c == ')' || c == ']' then depth - 1
          else depth
        let (type, attributes) := typeAndRest depth rest
        (cell.char :: type, attributes)

structure FieldRow where
  name : Text
  type : Text
  attributes : Text
  comment : Text
  deriving DecidableEq, Repr

namespace FieldRow

def ofLine (line : Line) : FieldRow :=
  let (code, comment) := codeAndComment line.rest
  let (type, attributes) := typeAndRest 0 (cells (Text.trim code))
  { name := line.fieldName.getD []
    type
    attributes := Text.trim attributes
    comment := Text.trim comment }

def render (nameWidth typeWidth : Nat) (columns : FieldRow) : Text :=
  let code := Text.trimEnd (indent ++ Text.padEnd nameWidth columns.name ++
    ' ' :: Text.padEnd typeWidth columns.type ++ ' ' :: columns.attributes)
  if columns.comment.isEmpty then code else code ++ ' ' :: columns.comment

/-- Neighbouring fields have their types and their attributes below each other. -/
def renderGroup (group : List FieldRow) : List Text :=
  let nameWidth := Text.widest (group.map (·.name))
  let typeWidth := Text.widest (group.map (·.type))
  group.map (render nameWidth typeWidth)

end FieldRow

structure Setting where
  key : Text
  value : Text
  deriving DecidableEq, Repr

namespace Setting

def read? (text : Text) : Option Setting := do
  let (key, behind) ← Text.readName? (Text.trimStart text)
  match Text.trimStart behind with
  | [] => none
  | c :: rest => if c == '=' then some { key, value := Text.trim rest } else none

/-- A line with a comment is no setting. -/
def ofLine? (line : Line) : Option Setting :=
  if (codeAndComment line.text).2.isEmpty then read? line.text else none

def render (keyWidth : Nat) (setting : Setting) : Text :=
  indent ++ Text.padEnd keyWidth setting.key ++ " = ".toList ++ setting.value

def renderGroup (group : List Setting) : List Text :=
  let keyWidth := Text.widest (group.map (·.key))
  group.map (render keyWidth)

end Setting

end SchemaCase.Layout
