import SchemaCase.Text.DecimalDigit
import SchemaCase.Text.Lowercase

/-! The words of a name. A word ends at every character that is no ASCII letter or digit, and
before a capital that starts a new word. -/

namespace SchemaCase.Name

/-- A capital starts a word behind a small letter or a digit, and behind a capital if a small
letter follows. -/
def startsWord (previous c : Char) (next : Option Char) : Bool :=
  c.isUpper &&
    (previous.isLower || Text.isDecimalDigit previous ||
      (previous.isUpper && next.any Char.isLower))

/-- Sets an underscore before every capital that starts a word; `previous` stands in front. -/
def separateFrom (previous : Option Char) : Text → Text
  | [] => []
  | c :: rest =>
      let separated := separateFrom (some c) rest
      if previous.any (startsWord · c rest.head?) then '_' :: c :: separated else c :: separated

/-- A name in small letters, with underscores for hyphens and between its words. -/
def separated (name : Text) : Text :=
  Text.lower (Text.replace '-' '_' (separateFrom none name))

def isWordLetter (c : Char) : Bool :=
  c.isDigit || c.isLower

def words (name : Text) : List Text :=
  (Text.splitWhere (fun c => !isWordLetter c) (separated name)).filter fun word => !word.isEmpty

end SchemaCase.Name
