import SchemaCase.Terminal.CellWidth
import SchemaCase.Terminal.EmojiNames
import SchemaCase.Text.Blank
import SchemaCase.Text.Lowercase

namespace SchemaCase.Terminal.Emoji

inductive Style
  | text
  | emoji
  deriving DecidableEq, Repr

namespace Style

def ending : Style → Text
  | text => "-text".toList
  | emoji => "-emoji".toList

def selector : Style → Char
  | text => '\uFE0E'
  | emoji => emojiSelector

end Style

def splitStyle (name : Text) : Text × Option Style :=
  match [Style.text, Style.emoji].find? fun style => style.ending.isSuffixOf name with
  | some style => (name.take (name.length - style.ending.length), some style)
  | none => (name, none)

def ofName? (name : Text) : Option Text :=
  let (name, style) := splitStyle name
  (names.lookup (String.ofList (Text.lower name))).map fun emoji =>
    emoji.toList ++ (style.map Style.selector).toList

/-- The text between a colon that was read and the next one, and what comes after that. -/
def readCode? (text : Text) : Option (Text × Text) :=
  match text.dropWhile fun c => c != ':' && !Text.isBlank c with
  | ':' :: rest => some (text.takeWhile fun c => c != ':' && !Text.isBlank c, rest)
  | _ => none

theorem readCode?_length {text name rest : Text} (h : readCode? text = some (name, rest)) :
    rest.length < text.length := by
  unfold readCode? at h
  split at h
  · next after hdrop =>
      have hlength : (':' :: after).length ≤ text.length := by
        rw [← hdrop]
        exact (List.dropWhile_sublist _).length_le
      cases h
      exact hlength
  · cases h

/-- Puts emoji for their names; a name that is not known stays as it is. -/
def expand : Text → Text
  | [] => []
  | c :: text =>
      if c = ':' then
        match _h : readCode? text with
        | some (name, rest) => (ofName? name).getD (':' :: name ++ [':']) ++ expand rest
        | none => c :: expand text
      else c :: expand text
termination_by text => text.length
decreasing_by
  · exact Nat.lt_succ_of_lt (readCode?_length _h)
  · exact Nat.lt_succ_self _
  · exact Nat.lt_succ_self _

end SchemaCase.Terminal.Emoji
