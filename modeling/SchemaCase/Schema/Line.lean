import SchemaCase.Text.Basic

namespace SchemaCase

inductive LineKind
  | field
  | blockAttribute
  | comment
  | blank
  | other
  deriving DecidableEq, Repr

/-- One line and what was last read from it. The parts of a field stay as they are when the line
is later read as something else. -/
structure Line where
  text : Text
  terminator : Text := []
  kind : LineKind := .other
  indent : Text := []
  fieldName : Option Text := none
  gap : Text := []
  rest : Text := []
  attributeName : Option Text := none
  mapLiteral : Option Text := none
  deriving DecidableEq, Repr

namespace Line

def render (line : Line) : Text :=
  line.text ++ line.terminator

def isField (line : Line) : Bool :=
  line.kind == .field

def shownName (line : Line) : Text :=
  line.fieldName.getD "None".toList

/-- A field line takes its text from its parts; any other line keeps its text. -/
def rebuild (line : Line) : Line :=
  if line.isField then
    { line with text := line.indent ++ line.shownName ++ line.gap ++ line.rest }
  else line

/-- A line that ends in a line feed; a carriage return in front of that belongs to the
terminator. -/
def ofTerminated (piece : Text) : Line :=
  if piece.getLast? = some '\r' then
    { text := piece.dropLast, terminator := ['\r', '\n'] }
  else { text := piece, terminator := ['\n'] }

/-- All pieces but the last end in a line feed. -/
def ofPieces : List Text → List Line
  | [] => []
  | [last] => [{ text := last }]
  | piece :: next :: rest => ofTerminated piece :: ofPieces (next :: rest)

def ofBody (body : Text) : List Line :=
  ofPieces (Text.split '\n' body)

end Line

end SchemaCase
