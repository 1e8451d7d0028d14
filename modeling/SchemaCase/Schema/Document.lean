import SchemaCase.Schema.Block
import SchemaCase.Schema.ParseError
import SchemaCase.Source.Region

/-! Whole schemas: blocks and the text between them, read from a text and written back. Only the
code of a text counts; a brace in a string or a comment opens and closes nothing. -/

namespace SchemaCase

open Source

inductive Segment
  | passthrough (text : Text)
  | block (content : Block)
  deriving DecidableEq, Repr

namespace Segment

def render : Segment → Text
  | .passthrough text => text
  | .block content => content.render

def block? : Segment → Option Block
  | .passthrough _ => none
  | .block content => some content

def mapBlock (change : Block → Block) : Segment → Segment
  | .passthrough text => .passthrough text
  | .block content => .block (change content)

end Segment

structure Document where
  segments : List Segment
  deriving DecidableEq, Repr

namespace Document

def render (document : Document) : Text :=
  document.segments.flatMap Segment.render

def blocks (document : Document) : List Block :=
  document.segments.filterMap Segment.block?

def declarations (document : Document) : List Block :=
  document.blocks.filter Block.isDeclaration

def mapBlocks (change : Block → Block) (document : Document) : Document :=
  ⟨document.segments.map (Segment.mapBlock change)⟩

end Document

def readName? : List Cell → Option (Text × List Cell)
  | [] => none
  | cell :: rest =>
      if Text.isNameStart cell.visible then
        some (cell.char :: textOf (rest.takeWhile fun next => Text.isWordChar next.visible),
          rest.dropWhile fun next => Text.isWordChar next.visible)
      else none

def readInlineBlanks (cells : List Cell) : Text × List Cell :=
  (textOf (cells.takeWhile fun cell => Text.isInlineBlank cell.visible),
    cells.dropWhile fun cell => Text.isInlineBlank cell.visible)

/-- A header consists of a keyword, a name and an opening brace on one line; the result holds
what follows the brace. -/
def Header.read? (cells : List Cell) : Option (Header × List Cell) := do
  let (indent, cells) := readInlineBlanks cells
  let (keyword, cells) ← readName? cells
  let (gap, cells) := readInlineBlanks cells
  guard !gap.isEmpty
  let (name, cells) ← readName? cells
  let (trail, cells) := readInlineBlanks cells
  match cells with
  | [] => none
  | cell :: cells =>
      if cell.visible == '\x7b' then some ({ indent, keyword, gap, name, trail }, cells) else none

/-- The cells up to the brace that closes a block, and those behind it; `depth` counts the braces
that are open inside the block. -/
def splitBody : Nat → List Cell → Option (List Cell × List Cell)
  | _, [] => none
  | depth, cell :: rest =>
      if cell.visible == '\x7b' then
        (splitBody (depth + 1) rest).map fun (body, tail) => (cell :: body, tail)
      else if cell.visible == '\x7d' then
        match depth with
        | 0 => some ([], rest)
        | depth + 1 => (splitBody depth rest).map fun (body, tail) => (cell :: body, tail)
      else (splitBody depth rest).map fun (body, tail) => (cell :: body, tail)

def byteOrderMark : Char := '\uFEFF'

/-- A line starts behind a line feed, and behind a byte order mark that opens the text. -/
def endsLine (offset : Nat) (c : Char) : Bool :=
  c == '\n' || (offset == 0 && c == byteOrderMark)

/-- The cells in front of the next header, and those from the header on. A header starts a line;
`offset` is the place of the first cell in the whole text. -/
def splitGap (offset : Nat) (lineStart : Bool) : List Cell → List Cell × List Cell
  | [] => ([], [])
  | cell :: rest =>
      if lineStart && (Header.read? (cell :: rest)).isSome then ([], cell :: rest)
      else
        let (gap, tail) := splitGap (offset + 1) (endsLine offset cell.char) rest
        (cell :: gap, tail)

def Segment.ofGap (gap : List Cell) : List Segment :=
  if gap.isEmpty then [] else [.passthrough (textOf gap)]

theorem readName?_length {cells rest : List Cell} {name : Text}
    (h : readName? cells = some (name, rest)) : rest.length < cells.length := by
  cases cells with
  | nil => simp [readName?] at h
  | cons cell tail =>
      simp only [readName?] at h
      split at h
      · cases h
        exact Nat.lt_succ_of_le (List.dropWhile_sublist _).length_le
      · cases h

theorem readInlineBlanks_length (cells : List Cell) :
    (readInlineBlanks cells).2.length ≤ cells.length :=
  (List.dropWhile_sublist _).length_le

theorem Header.read?_length {cells rest : List Cell} {header : Header}
    (h : Header.read? cells = some (header, rest)) : rest.length < cells.length := by
  obtain ⟨⟨keyword, afterKeyword⟩, hkeyword, h⟩ := Option.bind_eq_some_iff.mp h
  obtain ⟨_, -, h⟩ := Option.bind_eq_some_iff.mp h
  obtain ⟨⟨name, afterName⟩, hname, h⟩ := Option.bind_eq_some_iff.mp h
  dsimp only at hname h
  have hindent := readInlineBlanks_length cells
  have hgap := readInlineBlanks_length afterKeyword
  have htrail := readInlineBlanks_length afterName
  have hkeyword : afterKeyword.length < (readInlineBlanks cells).2.length :=
    readName?_length hkeyword
  have hname : afterName.length < (readInlineBlanks afterKeyword).2.length :=
    readName?_length hname
  split at h
  · cases h
  · next hcells =>
      split at h
      · cases h
        simp only [hcells, List.length_cons] at htrail
        omega
      · cases h

theorem splitBody_length {depth : Nat} {cells body tail : List Cell}
    (h : splitBody depth cells = some (body, tail)) : tail.length < cells.length := by
  induction cells generalizing depth body with
  | nil => simp [splitBody] at h
  | cons cell rest ih =>
      simp only [splitBody] at h
      split at h
      · obtain ⟨⟨inner, _⟩, hinner, heq⟩ := Option.map_eq_some_iff.mp h
        cases heq
        exact Nat.lt_succ_of_lt (ih hinner)
      · split at h
        · split at h
          · cases h
            exact Nat.lt_succ_self _
          · obtain ⟨⟨inner, _⟩, hinner, heq⟩ := Option.map_eq_some_iff.mp h
            cases heq
            exact Nat.lt_succ_of_lt (ih hinner)
        · obtain ⟨⟨inner, _⟩, hinner, heq⟩ := Option.map_eq_some_iff.mp h
          cases heq
          exact Nat.lt_succ_of_lt (ih hinner)

theorem splitGap_length (offset : Nat) (lineStart : Bool) (cells : List Cell) :
    (splitGap offset lineStart cells).2.length ≤ cells.length := by
  induction cells generalizing offset lineStart with
  | nil => simp [splitGap]
  | cons cell rest ih =>
      simp only [splitGap]
      split
      · exact Nat.le_refl _
      · exact Nat.le_succ_of_le (ih _ _)

def segmentsFrom (text : Text) (offset : Nat) (lineStart : Bool) (cells : List Cell) :
    Except ParseError (List Segment) :=
  let gap := (splitGap offset lineStart cells).1
  match gap.findIdx? Cell.isBrace with
  | some index => .error (.strayBrace text (offset + index))
  | none =>
      match _hread : Header.read? (splitGap offset lineStart cells).2 with
      | none => .ok (Segment.ofGap gap)
      | some (header, rest) =>
          let start := offset + gap.length
          let keywordAt := start + header.indent.length
          match _hbody : splitBody 0 rest with
          | none => .error (.unclosedBlock text keywordAt header.keyword header.name)
          | some (body, tail) => do
              let block : Block :=
                { header with
                  kind := .ofKeyword header.keyword
                  lines := Line.ofBody (textOf body)
                  lineNumber := (positionAt text keywordAt).line }
              let segments ← segmentsFrom text
                (start + header.render.length + body.length + 1) false tail
              .ok (Segment.ofGap gap ++ .block block :: segments)
termination_by cells.length
decreasing_by
  have hgap := splitGap_length offset lineStart cells
  have hread := Header.read?_length _hread
  have hsplit := splitBody_length _hbody
  omega

/-- Reads a schema. Every brace of its code has to open or close a block or to stand, paired, in
the body of one. -/
def Document.parse (text : Text) : Except ParseError Document := do
  let segments ← segmentsFrom text 0 true (cells text)
  .ok ⟨segments⟩

end SchemaCase
