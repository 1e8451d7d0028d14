import SchemaCase.Text.Basic

/-! What each character of a schema text belongs to: code, the contents of a string, or a comment.
Strings stand in double quotes, comments run from two slashes to the end of the line, and every
line starts as code. -/

namespace SchemaCase

inductive Region
  | code
  | string
  | comment
  deriving DecidableEq, Repr

namespace Source

/-- What a reader is inside of; `escape` is a string right after a backslash. -/
inductive Mode
  | code
  | string
  | escape
  | comment
  deriving DecidableEq, Repr

/-- The region of a character and the mode after it. Both quotes of a string are code, and a line
feed leaves strings and comments. -/
def Mode.step (mode : Mode) (c : Char) (next : Option Char) : Region × Mode :=
  if c == '\n' then (.code, .code)
  else
    match mode with
    | .comment => (.comment, .comment)
    | .escape => (.string, .string)
    | .string =>
        if c == '\\' then (.string, .escape)
        else if c == '"' then (.code, .code)
        else (.string, .string)
    | .code =>
        if c == '"' then (.code, .string)
        else if c == '/' && next == some '/' then (.comment, .comment)
        else (.code, .code)

structure Cell where
  char : Char
  region : Region
  deriving DecidableEq, Repr

/-- Code shows its character, all else shows a blank. -/
def Cell.visible (cell : Cell) : Char :=
  if cell.region = .code then cell.char else ' '

def Cell.isBrace (cell : Cell) : Bool :=
  cell.visible == '\x7b' || cell.visible == '\x7d'

def cellsFrom (mode : Mode) : Text → List Cell
  | [] => []
  | c :: rest =>
      let (region, next) := mode.step c rest.head?
      ⟨c, region⟩ :: cellsFrom next rest

def cells (text : Text) : List Cell :=
  cellsFrom .code text

def textOf (cells : List Cell) : Text :=
  cells.map (·.char)

/-- The text with string contents and comments blanked out; every offset keeps its meaning. -/
def mask (text : Text) : Text :=
  (cells text).map Cell.visible

def firstComment? (text : Text) : Option Nat :=
  (cells text).findIdx? fun cell => cell.region == .comment

def codeAndComment (text : Text) : Text × Text :=
  match firstComment? text with
  | some start => (text.take start, text.drop start)
  | none => (text, [])

end Source

end SchemaCase
