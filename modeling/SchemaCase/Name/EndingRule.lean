import SchemaCase.Text.Basic

/-! Rules that change the end of a word: a pattern of letters, of which the first part is kept and
the second part is replaced. -/

namespace SchemaCase.Name

/-- The small ASCII letter that a letter is a form of. The long s, the kelvin sign and the dotted
and dotless forms of i count as well. -/
def foldLetter (c : Char) : Char :=
  if c.isUpper then c.toLower
  else if c == '\u017F' then 's'
  else if c == '\u212A' then 'k'
  else if c == '\u0130' || c == '\u0131' then 'i'
  else c

inductive Letter
  /-- A form of the given small letter. -/
  | like (letter : Char)
  /-- No form of any of the given small letters. -/
  | unlike (letters : Text)
  /-- One of the given characters and no other form of it. -/
  | among (chars : Text)
  deriving DecidableEq, Repr

def Letter.admits : Letter → Char → Bool
  | like letter, c => foldLetter c == letter
  | unlike letters, c => !letters.contains (foldLetter c)
  | among chars, c => chars.contains c

abbrev Letters := List Letter

namespace Letters

def spell (word : String) : Letters :=
  word.toList.map .like

def admits : Letters → Text → Bool
  | [], [] => true
  | letter :: letters, c :: rest => letter.admits c && admits letters rest
  | _, _ => false

end Letters

/-- Where in a word the pattern of a rule has to stand. -/
inductive Place
  | opening
  | ending
  | whole
  deriving DecidableEq, Repr

/-- Any of the kept parts, followed by any of the replaced parts, matches. -/
structure EndingRule where
  place : Place
  kept : List Letters
  replaced : List Letters
  replacement : Text

namespace EndingRule

def ofSpelling (place : Place) (kept replaced : List String) (replacement : String) :
    EndingRule :=
  ⟨place, kept.map Letters.spell, replaced.map Letters.spell, replacement.toList⟩

def ending (kept replaced : List String) (replacement : String) : EndingRule :=
  ofSpelling .ending kept replaced replacement

def whole (kept replaced : List String) (replacement : String) : EndingRule :=
  ofSpelling .whole kept replaced replacement

def opening (kept replaced : List String) (replacement : String) : EndingRule :=
  ofSpelling .opening kept replaced replacement

def patterns (rule : EndingRule) : List (Letters × Letters) :=
  rule.kept.flatMap fun kept => rule.replaced.map fun replaced => (kept, replaced)

def changeAt? (rule : EndingRule) (word : Text) (start : Nat) (kept replaced : Letters) :
    Option Text :=
  let stop := start + kept.length + replaced.length
  if (kept ++ replaced).admits ((word.take stop).drop start) then
    some (word.take (start + kept.length) ++ rule.replacement ++ word.drop stop)
  else none

def change? (rule : EndingRule) (word : Text) : Option Text :=
  rule.patterns.findSome? fun (kept, replaced) =>
    let width := kept.length + replaced.length
    match rule.place with
    | .opening => rule.changeAt? word 0 kept replaced
    | .ending =>
        if width ≤ word.length then rule.changeAt? word (word.length - width) kept replaced
        else none
    | .whole => if width = word.length then rule.changeAt? word 0 kept replaced else none

/-- A line feed at the end of a word has a word's end on both of its sides. -/
def inflect? (rule : EndingRule) (word : Text) : Option Text :=
  if rule.place ≠ .opening && word.getLast? = some '\n' then
    match rule.change? word.dropLast, rule.change? ['\n'] with
    | none, none => none
    | before, behind => some (before.getD word.dropLast ++ behind.getD ['\n'])
  else rule.change? word

end EndingRule

end SchemaCase.Name
