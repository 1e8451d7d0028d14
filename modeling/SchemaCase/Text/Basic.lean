namespace SchemaCase

/-- A sequence of code points; lengths, offsets and columns count its members. -/
abbrev Text := List Char

namespace Text

/-- The pieces between the separators: one more than there are separators. -/
def splitWhere (isSeparator : Char → Bool) : Text → List Text
  | [] => [[]]
  | c :: rest =>
      match splitWhere isSeparator rest with
      | [] => [[c]]
      | piece :: pieces =>
          if isSeparator c then [] :: piece :: pieces else (c :: piece) :: pieces

def split (separator : Char) (text : Text) : List Text :=
  splitWhere (· == separator) text

def join (separator : Text) : List Text → Text
  | [] => []
  | [text] => text
  | text :: next :: rest => text ++ separator ++ join separator (next :: rest)

def padEnd (width : Nat) (text : Text) : Text :=
  text ++ List.replicate (width - text.length) ' '

def after? (start text : Text) : Option Text :=
  if start.isPrefixOf text then some (text.drop start.length) else none

def widest (texts : List Text) : Nat :=
  texts.foldl (fun width text => max width text.length) 0

def replace (old new : Char) (text : Text) : Text :=
  text.map fun c => if c == old then new else c

def ofNat (n : Nat) : Text :=
  (Nat.repr n).toList

end Text

end SchemaCase
