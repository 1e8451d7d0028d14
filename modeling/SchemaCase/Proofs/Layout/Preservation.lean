import SchemaCase.Proofs.Layout.Formatting

/-! A layout says what its text says: it has the same characters other than blanks and the same
blocks with the same lines. -/

namespace SchemaCase.Layout

open Source

def isFilled (text : Text) : Bool :=
  !(Text.trim text).isEmpty

def filledLines (lines : List Line) : List Line :=
  lines.filter fun line => isFilled line.text

/-- Lines of a declaration: fields with the same columns, or lines with the same text between
blanks. -/
structure SameField (line other : Line) : Prop where
  kind : other.classify.kind = line.classify.kind
  columns : line.classify.isField →
    FieldRow.ofLine other.classify = FieldRow.ofLine line.classify
  stripped : ¬line.classify.isField → Text.trim other.text = Text.trim line.text

structure SameSetting (line other : Line) : Prop where
  setting : Setting.ofLine? other = Setting.ofLine? line
  stripped : Setting.ofLine? line = none → Text.trim other.text = Text.trim line.text

def SameLine (kind : BlockKind) (line other : Line) : Prop :=
  if kind.isSettings then SameSetting line other else SameField line other

/-- Blocks of one keyword and name whose lines say the same, but for blank lines. -/
structure SameBlock (block other : Block) : Prop where
  keyword : other.keyword = block.keyword
  name : other.name = block.name
  kind : other.kind = block.kind
  lines : List.Forall₂ (SameLine block.kind) (filledLines block.lines) (filledLines other.lines)

theorem classify_kind {line : Line} (h : ¬line.classify.isField) :
    line.classify.kind =
      if (Text.trim line.text).isEmpty then .blank
      else if "//".toList.isPrefixOf (Text.trim line.text) then .comment
      else if "@@".toList.isPrefixOf (Text.trim line.text) then .blockAttribute
      else .other := by
  by_cases hblank : (Text.trim line.text).isEmpty
  · simp only [Line.classify, hblank, if_true]
  by_cases hcomment : "//".toList.isPrefixOf (Text.trim line.text)
  · simp only [Line.classify, hblank, hcomment, if_true]
    rfl
  by_cases hattribute : "@@".toList.isPrefixOf (Text.trim line.text)
  · simp only [Line.classify, hblank, hcomment, hattribute, if_true]
    rfl
  simp only [Line.classify, hblank, hcomment, hattribute] at h ⊢
  cases hread : FieldParts.read? line.text with
  | none => rfl
  | some parts =>
      rw [hread] at h
      exact absurd rfl h

theorem sameField_of_sets {line other : Line} (h : fieldStyle.Sets other.text line.text) :
    SameField line other := by
  have hrow : fieldRow? other = fieldRow? line := by
    rw [fieldRow?_text other, fieldRow?_text line]
    exact h.read?
  by_cases hline : line.classify.isField
  · have hsome : fieldRow? line = some (.ofLine line.classify) := if_pos hline
    rw [hsome, fieldRow?, Option.ite_none_right_eq_some, Option.some.injEq] at hrow
    refine ⟨?_, fun _ => hrow.2, fun hnot => absurd hline hnot⟩
    rw [beq_iff_eq.mp hline, beq_iff_eq.mp hrow.1]
  · have hnone : fieldRow? line = none := if_neg hline
    have hother : ¬other.classify.isField := by
      rw [hnone, fieldRow?, ite_eq_right_iff] at hrow
      exact fun hfield => absurd (hrow hfield) (by simp)
    have htrim : Text.trim other.text = Text.trim line.text := by
      rw [h.plain ((fieldRow?_text line).symm.trans hnone), trim_plainLine]
    refine ⟨?_, fun hfield => absurd hfield hline, fun _ => htrim⟩
    rw [classify_kind hline, classify_kind hother, htrim]

theorem sameSetting_of_sets {line other : Line} (h : settingStyle.Sets other.text line.text) :
    SameSetting line other := by
  refine ⟨h.read?, fun hnone => ?_⟩
  rw [h.plain hnone, trim_plainLine]

theorem ink_eq_nil_iff (text : Text) : ink text = [] ↔ Text.trim text = [] := by
  rw [Text.trim_eq_nil_iff]
  constructor
  · intro hnil c hc
    have hfilter := textOf_ink text
    rw [hnil, textOf_nil] at hfilter
    simpa using List.filter_eq_nil_iff.mp hfilter.symm c hc
  · exact inkFrom_blanks .code

theorem map_text_filledLines (lines : List Line) :
    (filledLines lines).map (·.text) = (lines.map (·.text)).filter isFilled := by
  rw [List.filter_map]
  rfl

theorem filter_isFilled_collapseEmpty (lines : List Text) :
    (collapseEmpty lines).filter isFilled = lines.filter isFilled := by
  have hfilter : ∀ texts : List Text,
      (texts.filter fun text => !text.isEmpty).filter isFilled = texts.filter isFilled := by
    intro texts
    rw [List.filter_filter]
    apply List.filter_congr
    intro text _
    cases text with
    | nil => rfl
    | cons c text => simp
  rw [← hfilter, filter_collapseEmpty, hfilter]

theorem Style.forall₂_filledLines (style : Style α) {lines others : List Line}
    (hfeed : ∀ line ∈ lines, '\n' ∉ line.text)
    (hothers : others.map (·.text) =
      [] :: collapseEmpty (style.renderLines (lines.map (·.text))) ++ [[]]) :
    List.Forall₂ (fun line other => style.Sets other.text line.text)
      (filledLines lines) (filledLines others) := by
  have hsets := style.sets_renderLines (List.forall_mem_map.mpr hfeed)
  -- A line is blank exactly if it has no ink, and a line that is set keeps its ink.
  have hfilled : ∀ after before, style.Sets after before →
      (isFilled after ↔ isFilled before) := by
    intro after before h
    have htrim : Text.trim after = [] ↔ Text.trim before = [] := by
      rw [← ink_eq_nil_iff, h.ink, ink_eq_nil_iff]
    simp [isFilled, htrim]
  have hshown : (others.map (·.text)).filter isFilled =
      (style.renderLines (lines.map (·.text))).filter isFilled := by
    rw [hothers, List.filter_append, List.filter_cons_of_neg (by decide),
      filter_isFilled_collapseEmpty]
    exact List.append_nil _
  have hrelated := List.rel_filter (fun after before h => hfilled after before h) hsets
  rw [← hshown, ← map_text_filledLines, ← map_text_filledLines, List.forall₂_map_left_iff,
    List.forall₂_map_right_iff] at hrelated
  exact .flip hrelated

theorem Section.sameLines_settle (part : Section) {terminator : Text}
    (h : IsTerminator terminator) (gap : List Text) :
    List.Forall₂ (SameLine part.kind) (filledLines (Line.ofBody part.body))
      (filledLines (Line.ofBody (part.settle terminator gap).body)) := by
  have hfeed := (Line.ofBody_isBody part.body).oneLine
  have htexts := part.lineTexts_settle h gap
  unfold Section.bodyTexts settledLines at htexts
  unfold SameLine
  split
  · next hsettings =>
      rw [if_pos hsettings] at htexts
      exact (settingStyle.forall₂_filledLines hfeed htexts).imp
        fun line other hsets => sameSetting_of_sets hsets
  · next hsettings =>
      rw [if_neg hsettings] at htexts
      exact (fieldStyle.forall₂_filledLines hfeed htexts).imp
        fun line other hsets => sameField_of_sets hsets

structure Section.ReadAs (block : Block) (part : Section) : Prop where
  header : block.toHeader = part.header
  kind : block.kind = part.kind
  lines : block.lines = Line.ofBody part.body

theorem Section.ReadAs.sameBlock {block other : Block} {part : Section}
    (hblock : Section.ReadAs block part) {terminator : Text} (h : IsTerminator terminator)
    {gap : List Text} (hother : Section.ReadAs other (part.settle terminator gap)) :
    SameBlock block other := by
  refine ⟨?_, ?_, hother.kind.trans hblock.kind.symm, ?_⟩
  · rw [hother.header, hblock.header]
    rfl
  · rw [hother.header, hblock.header]
    rfl
  · rw [hblock.kind, hblock.lines, hother.lines]
    exact part.sameLines_settle h gap

theorem readAs_gapPieces (text : Text) (offset : Nat) (gap : Text) (pieces : List Piece) :
    ∃ start, (Piece.segments text offset (gapPieces gap ++ pieces)).filterMap Segment.block? =
      (Piece.segments text start pieces).filterMap Segment.block? := by
  unfold gapPieces
  split
  · exact ⟨offset, rfl⟩
  · exact ⟨_, rfl⟩

theorem readAs_sections (text : Text) (offset : Nat) (sections : List Section) :
    List.Forall₂ Section.ReadAs
      ((Piece.segments text offset (sections.flatMap Section.pieces)).filterMap Segment.block?)
      sections := by
  induction sections generalizing offset with
  | nil => exact .nil
  | cons part rest ih =>
      rw [List.flatMap_cons, Section.pieces, List.cons_append, Piece.segments]
      obtain ⟨start, hstart⟩ := readAs_gapPieces text
        (offset + (Piece.block part.header part.body).render.length) part.behind
        (rest.flatMap Section.pieces)
      rw [List.filterMap_cons, hstart]
      exact .cons ⟨rfl, rfl, rfl⟩ (ih start)

theorem Outline.readAs_blocks (outline : Outline) (text : Text) :
    List.Forall₂ Section.ReadAs (Piece.document text outline.pieces).blocks outline.sections := by
  obtain ⟨start, hstart⟩ := readAs_gapPieces text 0 outline.lead
    (outline.sections.flatMap Section.pieces)
  rw [Document.blocks, Piece.document, Outline.pieces]
  dsimp only
  rw [hstart]
  exact readAs_sections text start outline.sections

theorem sameBlocks {terminator : Text} (h : IsTerminator terminator)
    {settled sections : List Section}
    (hsettles : List.Forall₂ (Section.Settles terminator) settled sections)
    {blocks others : List Block} (hblocks : List.Forall₂ Section.ReadAs blocks sections)
    (hothers : List.Forall₂ Section.ReadAs others settled) :
    List.Forall₂ SameBlock blocks others := by
  induction hsettles generalizing blocks others with
  | nil =>
      cases hblocks
      cases hothers
      exact .nil
  | cons hpart hrest ih =>
      obtain ⟨gap, rfl, -⟩ := hpart
      cases hblocks with
      | cons hblock hblocks =>
          cases hothers with
          | cons hother hothers => exact .cons (hblock.sameBlock h hother) (ih hblocks hothers)

theorem mark_pieces (outline : Outline) :
    Piece.mark outline.pieces =
      Outline.pieces { outline with lead := byteOrderMark :: outline.lead } := by
  obtain ⟨lead, sections⟩ := outline
  cases lead with
  | cons c lead => rfl
  | nil =>
      cases sections with
      | nil => rfl
      | cons part rest => rfl

/-- A mark in front of a text without one changes none of its blocks. -/
theorem parse_marked {outline : Outline} (harranged : Arranged [] outline.pieces)
    (hcontent : byteOrderMark ∉ outline.pieces.flatMap Piece.render) {mark : Text}
    (hmark : mark = [] ∨ mark = [byteOrderMark]) :
    ∃ document, Document.parse (mark ++ outline.pieces.flatMap Piece.render) = .ok document ∧
      List.Forall₂ Section.ReadAs document.blocks outline.sections := by
  rcases hmark with rfl | rfl
  · exact ⟨_, harranged.decomposition.parse_eq, outline.readAs_blocks _⟩
  · have hhead : (outline.pieces.flatMap Piece.render).head? ≠ some byteOrderMark :=
      fun hhead => hcontent (List.mem_of_mem_head? hhead)
    have hparse := (harranged.mark hhead).decomposition.parse_eq
    rw [Piece.render_mark, mark_pieces] at hparse
    exact ⟨_, hparse, Outline.readAs_blocks _ _⟩

theorem splitByteOrderMark_eq (text : Text) :
    text = (splitByteOrderMark text).1 ++ (splitByteOrderMark text).2 ∧
      ((splitByteOrderMark text).1 = [] ∨ (splitByteOrderMark text).1 = [byteOrderMark]) := by
  rcases splitByteOrderMark_cases text with ⟨rest, rfl, hsplit⟩ | ⟨-, hsplit⟩
  · rw [hsplit]
    exact ⟨rfl, .inr rfl⟩
  · rw [hsplit]
    exact ⟨rfl, .inl rfl⟩

/-- A layout has all characters of its text but blanks, and its blocks say what those of the text
say. -/
theorem format_preserves_schema {text out : Text} (hmark : byteOrderMark ∉ text.tail)
    (h : format text = .ok out) :
    nonblanks out = nonblanks text ∧
      ∃ before after, Document.parse text = .ok before ∧ Document.parse out = .ok after ∧
        List.Forall₂ SameBlock before.blocks after.blocks := by
  obtain ⟨outline, houtline, harranged, htext, rfl⟩ := exists_outline_of_format h
  obtain ⟨hsplit, hfront⟩ := splitByteOrderMark_eq text
  have hterminator := isTerminator_lineTerminator (splitByteOrderMark text).2
  have hnonblanks := houtline.nonblanks_layout hterminator
  have hcontent := byteOrderMark_not_mem hmark
  rw [htext] at hcontent
  have hlayout := fun hmem => hcontent (mem_of_nonblanks hnonblanks (by decide) hmem)
  rw [← outline.render_settle] at hlayout
  obtain ⟨before, hbefore, hblocks⟩ := parse_marked harranged hcontent hfront
  obtain ⟨after, hafter, hothers⟩ :=
    parse_marked (houtline.arranged_settle hterminator) hlayout hfront
  rw [outline.render_settle] at hafter
  rw [← htext, ← hsplit] at hbefore
  refine ⟨?_, before, after, hbefore, hafter, ?_⟩
  · conv_rhs => rw [hsplit, htext]
    rw [nonblanks_append, nonblanks_append, hnonblanks]
  · exact sameBlocks hterminator (settles_settleSections _ _) hblocks hothers

theorem format_preserves_schema_settings :
    let text := ("datasource d \x7b\n url=env(\"\x7d\")\n   k = 1 // c\n\x7d  x\n\n\n" ++
      " enum A \x7b a Int[ ] @x(\"//\")//y\n bcd E\n\n\n  @@map(\"z\")\n\x7d").toList
    let out := ("datasource d \x7b\n  url = env(\"\x7d\")\n  k = 1 // c\n\x7d x\n\n" ++
      "enum A \x7b\n  a   Int[ ] @x(\"//\") //y\n  bcd E\n\n  @@map(\"z\")\n\x7d\n").toList
    byteOrderMark ∉ text.tail ∧ format text = .ok out ∧ nonblanks out = nonblanks text ∧
      ∃ before after, Document.parse text = .ok before ∧ Document.parse out = .ok after ∧
        List.Forall₂ SameBlock before.blocks after.blocks := by
  intro text out
  have hmark : byteOrderMark ∉ text.tail := by decide +kernel
  have h : format text = .ok out := by decide +kernel
  exact ⟨hmark, h, format_preserves_schema hmark h⟩

end SchemaCase.Layout
