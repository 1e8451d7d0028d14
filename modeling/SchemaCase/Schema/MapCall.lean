import SchemaCase.Source.Region
import SchemaCase.Text.Alphanumeric
import SchemaCase.Text.Blank

/-! The database name that a `@map` or `@@map` call records. Calls are looked for in the code
only; their argument is read from the text as it stands. -/

namespace SchemaCase

open Source

namespace MapCall

/-- The contents of a string up to its closing quote; a backslash keeps the next character from
being one. -/
def literal? : Text → Option Text
  | [] => none
  | c :: rest =>
      if c == '"' then some []
      else if c == '\\' then
        match rest with
        | [] => none
        | escaped :: rest =>
            if escaped == '\n' then none
            else (literal? rest).map fun contents => c :: escaped :: contents
      else (literal? rest).map (c :: ·)

/-- Passes over `name:`, the label that a call may give its argument. -/
def skipLabel (text : Text) : Text :=
  match Text.after? "name".toList text with
  | none => text
  | some rest =>
      match Text.trimStart rest with
      | [] => text
      | c :: rest => if c == ':' then Text.trimStart rest else text

def literalArgument? (text : Text) : Option Text :=
  match skipLabel (Text.trimStart text) with
  | [] => none
  | c :: rest => if c == '"' then literal? rest else none

/-- The argument of a call whose opening parenthesis stands just before `text`; one that is no
string is given as it is written. -/
def argument (text : Text) : Text :=
  (literalArgument? text).getD (Text.trim (text.takeWhile (· != ')')))

def callAt? (word : Text) (cells : List Cell) : Option Text :=
  if (cells.take word.length).map Cell.visible = word then
    match (cells.drop word.length).dropWhile fun cell => Text.isBlank cell.visible with
    | [] => none
    | cell :: rest => if cell.visible == '(' then some (textOf rest) else none
  else none

/-- What follows the first call of `word`, where the character in front of it has to pass `admits`;
`previous` stands in front of the first cell. -/
def findCall? (admits : Option Char → Bool) (word : Text) (previous : Option Char) :
    List Cell → Option Text
  | [] => none
  | cell :: rest =>
      match if admits previous then callAt? word (cell :: rest) else none with
      | some argument => some argument
      | none => findCall? admits word (some cell.visible) rest

/-- The argument of the first `@map` call that is not part of a longer word. -/
def inline? (fragment : Text) : Option Text :=
  let admits := fun previous => !previous.any fun c => c == '@' || Text.isWordChar c
  (findCall? admits "@map".toList none (cells fragment)).map argument

def ofBlock? (line : Text) : Option Text :=
  (findCall? (fun _ => true) "@@map".toList none (cells line)).map argument

end MapCall

end SchemaCase
