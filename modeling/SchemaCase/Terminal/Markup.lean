import SchemaCase.Terminal.Emoji

/-! Texts with tags in brackets, which say how the terminal is to colour what follows. Backslashes
in front of a tag make it part of the text. -/

namespace SchemaCase.Terminal.Markup

/-- Brackets that start with any other character are no tag. -/
def isTagStart (c : Char) : Bool :=
  c.isLower || c == '#' || c == '/' || c == '@'

def readTag? : Text → Option (Text × Text)
  | '[' :: c :: text =>
      if isTagStart c then
        let body := text.takeWhile fun c => c != '[' && c != ']'
        match text.drop body.length with
        | ']' :: rest => some ('[' :: c :: body ++ [']'], rest)
        | _ => none
      else none
  | _ => none

/-- A part of a text: what stands between tags, or a tag with the backslashes in front of it. -/
inductive Piece
  | literal (text : Text)
  | tag (backslashes : Nat) (brackets : Text)
  deriving DecidableEq, Repr

def readMarked? (text : Text) : Option (Piece × Text) :=
  let backslashes := (text.takeWhile (· == '\\')).length
  (readTag? (text.drop backslashes)).map fun (tag, rest) => (.tag backslashes tag, rest)

def splitMarked : Text → Text × Option (Piece × Text)
  | [] => ([], none)
  | c :: text =>
      match readMarked? (c :: text) with
      | some found => ([], some found)
      | none =>
          let (plain, found) := splitMarked text
          (c :: plain, found)

theorem readTag?_length {text tag rest : Text} (h : readTag? text = some (tag, rest)) :
    rest.length < text.length := by
  unfold readTag? at h
  split at h
  · next c text =>
      split at h
      · dsimp only at h
        split at h
        · next after hdrop =>
            have hlength := congrArg List.length hdrop
            cases h
            simp only [List.length_drop, List.length_cons] at hlength ⊢
            omega
        · cases h
      · cases h
  · cases h

theorem readMarked?_length {text rest : Text} {piece : Piece}
    (h : readMarked? text = some (piece, rest)) : rest.length < text.length := by
  unfold readMarked? at h
  obtain ⟨⟨tag, after⟩, hread, heq⟩ := Option.map_eq_some_iff.1 h
  cases heq
  have hlength := readTag?_length hread
  simp only [List.length_drop] at hlength
  omega

theorem splitMarked_length {text rest : Text} {piece : Piece}
    (h : (splitMarked text).2 = some (piece, rest)) : rest.length < text.length := by
  induction text with
  | nil => simp [splitMarked] at h
  | cons c text ih =>
      unfold splitMarked at h
      split at h
      · next found hread =>
          cases h
          exact readMarked?_length hread
      · have := ih h
        simp only [List.length_cons]
        omega

def pieces (text : Text) : List Piece :=
  .literal (splitMarked text).1 ::
    match _h : (splitMarked text).2 with
    | some (piece, rest) => piece :: pieces rest
    | none => []
termination_by text.length
decreasing_by exact splitMarked_length _h

/-- An escaped tag shows as it is. -/
def Piece.escape : Piece → Text
  | .literal text => text
  | .tag backslashes brackets => List.replicate (2 * backslashes + 1) '\\' ++ brackets

/-- A single backslash at the end would reach a tag behind the text. -/
def closeBackslash (text : Text) : Text :=
  if (text.reverse.takeWhile (· == '\\')).length = 1 then text ++ ['\\'] else text

def escape (text : Text) : Text :=
  closeBackslash ((pieces text).flatMap Piece.escape)

/-- A backslash in front of a bracket is not shown. -/
def dropEscapes : Text → Text
  | '\\' :: '[' :: text => '[' :: dropEscapes text
  | c :: text => c :: dropEscapes text
  | [] => []

/-- Two backslashes in front of a tag stand for one, a last one makes the tag a text. -/
def Piece.plain : Piece → Text
  | .literal text => Emoji.expand (dropEscapes text)
  | .tag backslashes brackets =>
      List.replicate (backslashes / 2) '\\' ++
        if backslashes % 2 = 1 then Emoji.expand brackets else []

/-- What the terminal shows of a text, its colours aside. -/
def plain (text : Text) : Text :=
  (pieces text).flatMap Piece.plain

end SchemaCase.Terminal.Markup
