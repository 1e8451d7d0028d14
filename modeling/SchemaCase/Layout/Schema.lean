import SchemaCase.Layout.Body

/-! The canonical layout of a schema: two blanks of indentation, fields and settings in columns,
one empty line behind every block, and one line terminator throughout. -/

namespace SchemaCase.Layout

/-- A line of the layout; `closesBlock` marks the last line of a block. -/
structure OutputLine where
  text : Text
  closesBlock : Bool := false
  deriving DecidableEq, Repr

/-- Text between blocks loses the blanks at the ends of its lines, comments lose those in front
too. -/
def passthroughLine (text : Text) : OutputLine :=
  if "//".toList.isPrefixOf (Text.trimStart text) then { text := Text.trim text }
  else { text := Text.trimEnd text }

/-- What follows a closing brace on its line stays there, one blank behind it. -/
def appendPassthrough (output : List OutputLine) (text : Text) : List OutputLine :=
  let parts := Text.split '\n' text
  match output.getLast? with
  | none => parts.map passthroughLine
  | some last =>
      let behind := Text.trim (parts.headD [])
      let output :=
        if behind.isEmpty then output
        else output.dropLast ++ [{ last with text := last.text ++ ' ' :: behind }]
      output ++ parts.tail.map passthroughLine

/-- An empty line in front of a block gives way to it. -/
def appendBlock (output : List OutputLine) (block : Block) : List OutputLine :=
  let output :=
    match output.getLast? with
    | some last => if last.text.isEmpty then output.dropLast else output
    | none => output
  let lines := blockLines block
  output ++ lines.dropLast.map (fun text => { text := text }) ++
    lines.getLast?.toList.map fun text => { text := text, closesBlock := true }

def appendSegment (output : List OutputLine) : Segment → List OutputLine
  | .passthrough text => appendPassthrough output text
  | .block block => appendBlock output block

def spaceBlocks : List OutputLine → List Text
  | [] => []
  | [line] => [line.text]
  | line :: next :: rest =>
      if line.closesBlock && !next.text.isEmpty then
        line.text :: [] :: spaceBlocks (next :: rest)
      else line.text :: spaceBlocks (next :: rest)

def layoutLines (document : Document) : List Text :=
  collapseEmpty (spaceBlocks (document.segments.foldl appendSegment []))

def splitByteOrderMark : Text → Text × Text
  | [] => ([], [])
  | c :: rest => if c == byteOrderMark then ([c], rest) else ([], c :: rest)

theorem splitByteOrderMark_cases (text : Text) :
    (∃ rest, text = byteOrderMark :: rest ∧ splitByteOrderMark text = ([byteOrderMark], rest)) ∨
      text.head? ≠ some byteOrderMark ∧ splitByteOrderMark text = ([], text) := by
  cases text with
  | nil => exact .inr ⟨nofun, rfl⟩
  | cons c rest =>
      by_cases hmark : c = byteOrderMark
      · exact .inl ⟨rest, by rw [hmark], by simp [splitByteOrderMark, hmark]⟩
      · exact .inr ⟨by simpa using hmark, by simp [splitByteOrderMark, hmark]⟩

/-- A text with any carriage return in front of a line feed is laid out with such pairs. -/
def hasCarriageReturns : Text → Bool
  | '\r' :: '\n' :: _ => true
  | _ :: rest => hasCarriageReturns rest
  | [] => false

def lineTerminator (text : Text) : Text :=
  if hasCarriageReturns text then ['\r', '\n'] else ['\n']

def source (text : Text) : Except ParseError Document :=
  Document.parse (splitByteOrderMark text).2

def format (text : Text) : Except ParseError Text := do
  let (mark, content) := splitByteOrderMark text
  let document ← source text
  .ok (mark ++ (layoutLines document).flatMap (· ++ lineTerminator content))

end SchemaCase.Layout
