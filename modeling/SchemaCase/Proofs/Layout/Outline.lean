import SchemaCase.Proofs.Layout.Body
import SchemaCase.Proofs.Schema.Pieces

/-! Schemas as blocks with the text behind each of them. The layout of a schema is that of its
blocks and of the lines between them, one after the other. -/

namespace SchemaCase.Layout

open Source

def passthroughText (text : Text) : Text :=
  (passthroughLine text).text

theorem passthroughLine_eq (text : Text) :
    passthroughLine text = { text := passthroughText text } := by
  unfold passthroughText passthroughLine
  split <;> rfl

theorem passthroughText_comment {text : Text} (h : ['/', '/'] <+: Text.trim text) :
    passthroughText text = Text.trim text := by
  rw [Text.trim, Text.isPrefix_trimEnd Text.isBlank_slashes] at h
  have hslashes : "//".toList.isPrefixOf (Text.trimStart text) := List.isPrefixOf_iff_prefix.mpr h
  rw [passthroughText, passthroughLine, if_pos hslashes]

theorem passthroughText_other {text : Text} (h : ¬['/', '/'] <+: Text.trim text) :
    passthroughText text = Text.trimEnd text := by
  rw [Text.trim, Text.isPrefix_trimEnd Text.isBlank_slashes] at h
  have hslashes : ¬"//".toList.isPrefixOf (Text.trimStart text) :=
    mt List.isPrefixOf_iff_prefix.mp h
  rw [passthroughText, passthroughLine, if_neg hslashes]

theorem passthroughText_append_blanks (text : Text) {blanks : Text}
    (h : ∀ c ∈ blanks, Text.isBlank c) :
    passthroughText (text ++ blanks) = passthroughText text := by
  by_cases hcomment : ['/', '/'] <+: Text.trim text
  · rw [passthroughText_comment hcomment, passthroughText_comment, Text.trim_append_blanks _ h]
    rwa [Text.trim_append_blanks _ h]
  · rw [passthroughText_other hcomment, passthroughText_other, Text.trimEnd_append_blanks h]
    rwa [Text.trim_append_blanks _ h]

theorem passthroughText_passthroughText (text : Text) :
    passthroughText (passthroughText text) = passthroughText text := by
  by_cases hcomment : ['/', '/'] <+: Text.trim text
  · rw [passthroughText_comment hcomment, passthroughText_comment, Text.trim_trim]
    rwa [Text.trim_trim]
  · rw [passthroughText_other hcomment, passthroughText_other, Text.trimEnd_trimEnd]
    rwa [Text.trim_trimEnd]

theorem Linewise.passthroughText {β : Type} {f : Text → List β} (hf : Linewise f) (text : Text) :
    f (passthroughText text) = f text := by
  by_cases hcomment : ['/', '/'] <+: Text.trim text
  · rw [passthroughText_comment hcomment, hf.trim]
  · rw [passthroughText_other hcomment, hf.trimEnd]

theorem isShown_passthroughText {text : Text} (h : '\n' ∉ text) :
    IsShown (passthroughText text) := by
  by_cases hcomment : ['/', '/'] <+: Text.trim text
  · rw [passthroughText_comment hcomment]
    exact isShown_of_getLast? (fun hmem => h (Text.trim_subset text hmem)) (Text.trim_getLast? text)
  · rw [passthroughText_other hcomment]
    exact isShown_of_getLast? (fun hmem => h (Text.trimEnd_subset text hmem))
      (Text.trimEnd_getLast? text)

def dropLastIf (p : α → Bool) (items : List α) : List α :=
  if items.getLast?.any p then items.dropLast else items

theorem dropLastIf_concat (p : α → Bool) (items : List α) (last : α) :
    dropLastIf p (items ++ [last]) = if p last then items else items ++ [last] := by
  simp [dropLastIf]

theorem dropLastIf_append (p : α → Bool) (front : List α) {back : List α} (h : back ≠ []) :
    dropLastIf p (front ++ back) = front ++ dropLastIf p back := by
  obtain ⟨items, last, rfl⟩ := (List.eq_nil_or_concat back).resolve_left h
  rw [List.concat_eq_append, ← List.append_assoc, dropLastIf_concat, dropLastIf_concat]
  split
  · rfl
  · rw [List.append_assoc]

theorem dropLastIf_map (p : β → Bool) (f : α → β) (items : List α) :
    dropLastIf p (items.map f) = (dropLastIf (fun item => p (f item)) items).map f := by
  rcases List.eq_nil_or_concat items with rfl | ⟨front, last, rfl⟩
  · rfl
  · rw [List.concat_eq_append, List.map_append, List.map_singleton, dropLastIf_concat,
      dropLastIf_concat]
    split <;> simp

theorem exists_dropLastIf (p : α → Bool) (items : List α) :
    ∃ ends, items = dropLastIf p items ++ ends ∧ ∀ item ∈ ends, p item := by
  rcases List.eq_nil_or_concat items with rfl | ⟨front, last, rfl⟩
  · exact ⟨[], rfl, by simp⟩
  · rw [List.concat_eq_append, dropLastIf_concat]
    split
    · next hlast => exact ⟨[last], rfl, by simpa using hlast⟩
    · exact ⟨[], by simp, by simp⟩

theorem dropLastIf_subset (p : α → Bool) (items : List α) : dropLastIf p items ⊆ items := by
  obtain ⟨ends, hitems, -⟩ := exists_dropLastIf p items
  intro item hitem
  rw [hitems]
  exact List.mem_append_left _ hitem

/-- A block and the text behind it, up to the next block. -/
structure Section where
  header : Header
  body : Text
  behind : Text

structure Outline where
  lead : Text
  sections : List Section

def gapPieces (text : Text) : List Piece :=
  if text = [] then [] else [.passthrough text]

def Section.pieces (part : Section) : List Piece :=
  .block part.header part.body :: gapPieces part.behind

def Outline.pieces (outline : Outline) : List Piece :=
  gapPieces outline.lead ++ outline.sections.flatMap Section.pieces

def trailText (behind : Text) : Text :=
  let trail := Text.trim ((Text.split '\n' behind).headD [])
  if trail.isEmpty then [] else ' ' :: trail

namespace Section

def kind (part : Section) : BlockKind :=
  .ofKeyword part.header.keyword

def lineTexts (part : Section) : List Text :=
  (Line.ofBody part.body).map (·.text)

def headerText (part : Section) : Text :=
  part.header.keyword ++ ' ' :: part.header.name ++ [' ', '\x7b']

def bodyTexts (part : Section) : List Text :=
  settledLines part.kind part.lineTexts

def closingText (part : Section) : Text :=
  '\x7d' :: trailText part.behind

def gapTexts (part : Section) : List Text :=
  dropLastIf List.isEmpty ((Text.split '\n' part.behind).tail.map passthroughText)

def gapLines (part : Section) : List Text :=
  [] :: collapseFrom true part.gapTexts

def blockLines (part : Section) : List Text :=
  part.headerText :: part.bodyTexts ++ [part.closingText]

def layout (part : Section) : List Text :=
  part.blockLines ++ part.gapLines

end Section

namespace Outline

def leadTexts (outline : Outline) : List Text :=
  dropLastIf List.isEmpty ((Text.split '\n' outline.lead).map passthroughText)

def layout (outline : Outline) : List Text :=
  (collapseFrom true outline.leadTexts ++ outline.sections.flatMap Section.layout).rdropWhile
    List.isEmpty

end Outline

def appendPiece (output : List OutputLine) (piece : Piece) : List OutputLine :=
  appendSegment output (piece.segment [] 0)

theorem foldl_appendSegment (text : Text) (offset : Nat) (output : List OutputLine)
    (pieces : List Piece) :
    (Piece.segments text offset pieces).foldl appendSegment output =
      pieces.foldl appendPiece output := by
  induction pieces generalizing offset output with
  | nil => rfl
  | cons piece rest ih =>
      rw [Piece.segments, List.foldl_cons, List.foldl_cons, ih]
      cases piece with
      | passthrough content => rfl
      | block header body => rfl

def plainOutput (text : Text) : OutputLine :=
  { text }

def Section.output (part : Section) : List OutputLine :=
  (part.headerText :: part.bodyTexts).map plainOutput ++
    { text := part.closingText, closesBlock := true } ::
      ((Text.split '\n' part.behind).tail.map passthroughText).map plainOutput

def isEmptyOutput (line : OutputLine) : Bool :=
  line.text.isEmpty

theorem appendBlock_eq (output : List OutputLine) (block : Block) :
    appendBlock output block = dropLastIf isEmptyOutput output ++
      ((block.keyword ++ ' ' :: block.name ++ [' ', '\x7b']) ::
        settledLines block.kind (block.lines.map (·.text))).map plainOutput ++
          [{ text := ['\x7d'], closesBlock := true }] := by
  have happend : appendBlock output block =
      dropLastIf isEmptyOutput output ++ (blockLines block).dropLast.map plainOutput ++
        (blockLines block).getLast?.toList.map fun text => { text, closesBlock := true } := by
    unfold appendBlock dropLastIf
    cases output.getLast? <;> rfl
  rw [happend, blockLines_eq, List.dropLast_concat, List.getLast?_concat]
  rfl

theorem appendPassthrough_eq (output : List OutputLine) (last : OutputLine) (behind : Text) :
    appendPassthrough (output ++ [last]) behind =
      output ++ { last with text := last.text ++ trailText behind } ::
        ((Text.split '\n' behind).tail.map passthroughText).map plainOutput := by
  have htail : (Text.split '\n' behind).tail.map passthroughLine =
      ((Text.split '\n' behind).tail.map passthroughText).map plainOutput := by
    rw [List.map_map]
    exact List.map_congr_left fun text _ => passthroughLine_eq text
  rw [appendPassthrough, List.getLast?_concat]
  dsimp only
  rw [htail]
  by_cases htrail : (Text.trim ((Text.split '\n' behind).headD [])).isEmpty
  · have hnone : trailText behind = [] := if_pos htrail
    rw [if_pos htrail, hnone, List.append_nil, List.append_assoc]
    rfl
  · have hsome : trailText behind = ' ' :: Text.trim ((Text.split '\n' behind).headD []) :=
      if_neg htrail
    rw [if_neg htrail, hsome, List.dropLast_concat, List.append_assoc]
    rfl

theorem Section.foldl_pieces (part : Section) (output : List OutputLine) :
    part.pieces.foldl appendPiece output = dropLastIf isEmptyOutput output ++ part.output := by
  have hblock : appendPiece output (.block part.header part.body) =
      dropLastIf isEmptyOutput output ++ (part.headerText :: part.bodyTexts).map plainOutput ++
        [{ text := ['\x7d'], closesBlock := true }] :=
    appendBlock_eq output _
  rw [Section.pieces, List.foldl_cons, hblock]
  by_cases hbehind : part.behind = []
  · rw [gapPieces, if_pos hbehind, Section.output, Section.closingText, hbehind]
    exact List.append_assoc _ _ _
  · rw [gapPieces, if_neg hbehind, List.foldl_cons, List.foldl_nil]
    exact (appendPassthrough_eq _ _ _).trans (List.append_assoc _ _ _)

def Section.outputBefore (part : Section) : List OutputLine :=
  (part.headerText :: part.bodyTexts).map plainOutput ++
    { text := part.closingText, closesBlock := true } :: part.gapTexts.map plainOutput

theorem Section.dropLastIf_output (part : Section) :
    dropLastIf isEmptyOutput part.output = part.outputBefore := by
  rw [Section.output, dropLastIf_append _ _ (List.cons_ne_nil _ _), Section.outputBefore,
    Section.gapTexts]
  congr 1
  by_cases hgap : (Text.split '\n' part.behind).tail = []
  · rw [hgap]
    rfl
  · have hlater :
        ((Text.split '\n' part.behind).tail.map passthroughText).map plainOutput ≠ [] :=
      fun hnil => hgap (List.map_eq_nil_iff.mp (List.map_eq_nil_iff.mp hnil))
    have happend := dropLastIf_append isEmptyOutput
      [{ text := part.closingText, closesBlock := true }] hlater
    rw [List.singleton_append] at happend
    rw [happend, dropLastIf_map]
    rfl

theorem foldl_sections (sections : List Section) (output : List OutputLine) :
    dropLastIf isEmptyOutput ((sections.flatMap Section.pieces).foldl appendPiece output) =
      dropLastIf isEmptyOutput output ++ sections.flatMap Section.outputBefore := by
  induction sections generalizing output with
  | nil => simp
  | cons part rest ih =>
      have hne : part.output ≠ [] := by simp [Section.output]
      rw [List.flatMap_cons, List.foldl_append, part.foldl_pieces, ih, dropLastIf_append _ _ hne,
        part.dropLastIf_output, List.flatMap_cons, List.append_assoc]

theorem foldl_pieces (outline : Outline) :
    dropLastIf isEmptyOutput (outline.pieces.foldl appendPiece []) =
      outline.leadTexts.map plainOutput ++ outline.sections.flatMap Section.outputBefore := by
  rw [Outline.pieces, List.foldl_append, foldl_sections]
  congr 1
  by_cases hlead : outline.lead = []
  · rw [gapPieces, if_pos hlead, Outline.leadTexts, hlead]
    rfl
  · rw [gapPieces, if_neg hlead, Outline.leadTexts]
    have hlines : [Piece.passthrough outline.lead].foldl appendPiece [] =
        ((Text.split '\n' outline.lead).map passthroughText).map plainOutput := by
      rw [List.map_map]
      exact List.map_congr_left fun text _ => passthroughLine_eq text
    rw [hlines, dropLastIf_map]
    rfl

/-- A line, with an empty line behind it where it closes a block. -/
def spread (line : OutputLine) : List Text :=
  if line.closesBlock then [line.text, []] else [line.text]

theorem collapseFrom_spaceBlocks (afterEmpty : Bool) (lines : List OutputLine) :
    collapseFrom afterEmpty (spaceBlocks lines ++ [[]]) =
      collapseFrom afterEmpty (lines.flatMap spread ++ [[]]) := by
  -- `spaceBlocks` adds nothing behind the last line: the empty line at the end makes up for it.
  induction lines generalizing afterEmpty with
  | nil => rfl
  | cons line rest ih =>
      cases rest with
      | nil =>
          rw [spaceBlocks, List.flatMap_singleton, spread]
          split
          · exact collapseFrom_congr _ fun between => (collapseFrom_double between []).symm
          · rfl
      | cons next rest =>
          rw [spaceBlocks, List.flatMap_cons, spread]
          by_cases hcloses : line.closesBlock
          · rw [if_pos hcloses]
            by_cases hnext : next.text = []
            · rw [if_neg (by simp [hnext])]
              refine collapseFrom_congr _ fun between => ?_
              obtain ⟨later, hlater⟩ : ∃ later, (next :: rest).flatMap spread = [] :: later := by
                rw [List.flatMap_cons, spread, hnext]
                split <;> exact ⟨_, rfl⟩
              refine (ih between).trans ?_
              rw [hlater]
              exact (collapseFrom_double between _).symm
            · rw [if_pos (by simp [hcloses, hnext])]
              exact collapseFrom_congr _ fun between =>
                collapseFrom_congr _ fun between => ih between
          · rw [if_neg (by simp [hcloses]), if_neg hcloses]
            exact collapseFrom_congr _ fun between => ih between

theorem collapseEmpty_spaceBlocks (lines : List OutputLine) :
    collapseEmpty (spaceBlocks lines) = collapseEmpty (lines.flatMap spread) := by
  have hempty : ∀ line ∈ [([] : Text)], line = [] := by simp
  rw [← collapseEmpty_append_empty (spaceBlocks lines) hempty, collapseEmpty_eq,
    collapseFrom_spaceBlocks, ← collapseEmpty_eq, collapseEmpty_append_empty _ hempty]

theorem layoutLines_eq (text : Text) (outline : Outline) :
    layoutLines (Piece.document text outline.pieces) =
      collapseEmpty ((outline.leadTexts.map plainOutput ++
        outline.sections.flatMap Section.outputBefore).flatMap spread) := by
  have hpop : ∀ lines, collapseEmpty ((dropLastIf isEmptyOutput lines).flatMap spread) =
      collapseEmpty (lines.flatMap spread) := by
    intro lines
    obtain ⟨ends, hlines, hempty⟩ := exists_dropLastIf isEmptyOutput lines
    conv_rhs => rw [hlines, List.flatMap_append]
    rw [collapseEmpty_append_empty]
    intro text htext
    obtain ⟨line, hline, htext⟩ := List.mem_flatMap.mp htext
    have hline := List.isEmpty_iff.mp (hempty line hline)
    unfold spread at htext
    split at htext
    · simpa [hline] using htext
    · simpa [hline] using htext
  rw [layoutLines, Piece.document, foldl_appendSegment, collapseEmpty_spaceBlocks, ← hpop,
    foldl_pieces]

theorem flatMap_spread_plainOutput (texts : List Text) :
    (texts.map plainOutput).flatMap spread = texts := by
  rw [List.flatMap_map]
  exact List.flatMap_singleton' texts

theorem Section.flatMap_spread (part : Section) :
    part.outputBefore.flatMap spread =
      part.headerText :: part.bodyTexts ++ part.closingText :: [] :: part.gapTexts := by
  rw [Section.outputBefore, List.flatMap_append, List.flatMap_cons, flatMap_spread_plainOutput,
    flatMap_spread_plainOutput]
  rfl

theorem Section.collapseFrom_bodyTexts (part : Section) :
    collapseFrom false part.bodyTexts = part.bodyTexts := by
  apply collapseFrom_of_afterEmpty
  unfold Section.bodyTexts settledLines
  split <;> exact collapseFrom_collapseEmpty _

/-- Collapsing empty lines keeps the lines of blocks apart. -/
theorem collapseFrom_sections (afterEmpty : Bool) (front : List Text) (sections : List Section) :
    collapseFrom afterEmpty
        (front ++ (sections.flatMap Section.outputBefore).flatMap spread) =
      collapseFrom afterEmpty front ++ sections.flatMap Section.layout := by
  induction sections generalizing front afterEmpty with
  | nil => simp
  | cons part rest ih =>
      have hheader : part.headerText ≠ [] := by simp [Section.headerText]
      have hclosing : part.closingText ≠ [] := List.cons_ne_nil _ _
      let later := (rest.flatMap Section.outputBefore).flatMap spread
      have hspread : front ++ ((part :: rest).flatMap Section.outputBefore).flatMap spread =
          front ++ part.headerText ::
            (part.bodyTexts ++ part.closingText :: [] :: (part.gapTexts ++ later)) := by
        simp [List.flatMap_cons, List.flatMap_append, part.flatMap_spread, later]
      have hgap : collapseFrom false ([] :: (part.gapTexts ++ later)) =
          [] :: collapseFrom true (part.gapTexts ++ later) := rfl
      rw [hspread, collapseFrom_append_cons _ _ hheader, collapseFrom_append_cons _ _ hclosing,
        part.collapseFrom_bodyTexts, hgap, ih]
      simp [List.flatMap_cons, Section.layout, Section.blockLines, Section.gapLines]

theorem layoutLines_pieces (text : Text) (outline : Outline) :
    layoutLines (Piece.document text outline.pieces) = outline.layout := by
  rw [layoutLines_eq, List.flatMap_append, flatMap_spread_plainOutput, collapseEmpty_eq,
    collapseFrom_sections]
  rfl

end SchemaCase.Layout
