import SchemaCase.Proofs.Layout.Settled

namespace SchemaCase.Layout

open Source

theorem Section.isShown_headerText {part : Section} (h : part.header.WellFormed) :
    IsShown part.headerText := by
  have hblank : Text.isWordChar '\n' = false := Text.isWordChar_of_isBlank (by decide)
  apply isShown_of_getLast?
  · simp [Section.headerText, h.keyword.not_mem hblank, h.name.not_mem hblank]
  · rw [Section.headerText, List.getLast?_append_of_ne_nil _ (List.cons_ne_nil _ _)]
    rintro c ⟨⟩
    decide

theorem Section.isShown_closingText (part : Section) : IsShown part.closingText := by
  have htrail := isShown_trailText part.behind
  refine ⟨?_, ?_⟩
  · rw [Section.closingText, List.mem_cons, not_or]
    exact ⟨by decide, htrail.oneLine⟩
  · by_cases hnil : trailText part.behind = []
    · rw [Section.closingText, hnil]
      decide
    · have hlast := htrail.carriageReturn
      rwa [← List.getLast?_append_of_ne_nil ['\x7d'] hnil] at hlast

theorem Outline.WellFormed.isShown_layout {outline : Outline} (h : outline.WellFormed) :
    ∀ line ∈ outline.layout, IsShown line := by
  intro line hline
  rw [Outline.layout_eq, List.mem_append] at hline
  rcases hline with hline | hline
  · exact (outline.isPassed_settledLead line hline).shown
  · obtain ⟨part, hpart, hline⟩ := List.mem_flatMap.mp ((List.rdropWhile_prefix _ _).subset hline)
    rw [Section.layout, Section.blockLines] at hline
    rw [List.mem_append, List.mem_append, List.mem_cons, List.mem_singleton] at hline
    rcases hline with ((rfl | hline) | rfl) | hline
    · exact part.isShown_headerText (h.sections part hpart).header
    · exact part.isShown_bodyTexts line hline
    · exact part.isShown_closingText
    · exact (part.isPassed_gapLines line hline).shown

def nonblanks (text : Text) : Text :=
  text.filter fun c => !Text.isBlank c

theorem nonblanks_append (front back : Text) :
    nonblanks (front ++ back) = nonblanks front ++ nonblanks back :=
  List.filter_append front back

theorem nonblanks_of_ink {text other : Text} (h : ink text = ink other) :
    nonblanks text = nonblanks other := by
  rw [nonblanks, ← textOf_ink, h, textOf_ink]
  rfl

theorem nonblanks_inlineBlanks {blanks : Text} (h : ∀ c ∈ blanks, Text.isInlineBlank c) :
    nonblanks blanks = [] := by
  rw [nonblanks, List.filter_eq_nil_iff]
  intro c hc
  have hblank := h c hc
  simp only [Text.isInlineBlank, Bool.or_eq_true, beq_iff_eq] at hblank
  rcases hblank with rfl | rfl <;> decide

theorem nonblanks_header {header : Header} (h : header.WellFormed) :
    nonblanks header.render = nonblanks header.keyword ++ nonblanks header.name ++ ['\x7b'] := by
  simp only [Header.render, nonblanks_append, nonblanks_inlineBlanks h.indent,
    nonblanks_inlineBlanks h.gap, nonblanks_inlineBlanks h.trail, List.nil_append, List.append_nil]
  rfl

theorem nonblanks_section (part : Section) :
    nonblanks (part.pieces.flatMap Piece.render) =
      nonblanks part.header.render ++ nonblanks part.body ++ ['\x7d'] ++ nonblanks part.behind := by
  rw [Section.pieces, List.flatMap_cons, render_gapPieces, Piece.render, nonblanks_append,
    nonblanks_append, nonblanks_append]
  rfl

theorem nonblanks_sections {terminator : Text} (h : IsTerminator terminator)
    {settled sections : List Section}
    (hsettles : List.Forall₂ (Section.Settles terminator) settled sections)
    (hsections : ∀ part ∈ sections, part.WellFormed) :
    nonblanks ((settled.flatMap Section.pieces).flatMap Piece.render) =
      nonblanks ((sections.flatMap Section.pieces).flatMap Piece.render) := by
  induction hsettles with
  | nil => rfl
  | @cons _ part _ rest hpart hrest ih =>
      obtain ⟨gap, rfl, hgap⟩ := hpart
      rw [List.forall_mem_cons] at hsections
      simp only [List.flatMap_cons, List.flatMap_append]
      rw [nonblanks_append, nonblanks_append, ih hsections.2, nonblanks_section, nonblanks_section,
        nonblanks_header (hsections.1.settle h hgap).header, nonblanks_header hsections.1.header,
        nonblanks_of_ink (part.ink_settle_body h), nonblanks_of_ink (part.ink_settle_behind h hgap)]
      rfl

theorem Outline.WellFormed.nonblanks_layout {outline : Outline} (h : outline.WellFormed)
    {terminator : Text} (hterminator : IsTerminator terminator) :
    nonblanks (linesText terminator outline.layout) =
      nonblanks (outline.pieces.flatMap Piece.render) := by
  have hlead : ink (linesText terminator outline.settledLead) = ink outline.lead := by
    rw [linewise_ink.linesText hterminator, linewise_ink.settledLead]
  rw [← outline.render_settle terminator, Outline.pieces, Outline.pieces, List.flatMap_append,
    List.flatMap_append, render_gapPieces, render_gapPieces, nonblanks_append, nonblanks_append]
  exact congrArg₂ _ (nonblanks_of_ink hlead)
    (nonblanks_sections hterminator (settles_settleSections terminator _) h.sections)

theorem format_of_source {text : Text} {document : Document} (h : source text = .ok document) :
    format text = .ok ((splitByteOrderMark text).1 ++
      linesText (lineTerminator (splitByteOrderMark text).2) (layoutLines document)) := by
  unfold format
  rw [h]
  rfl

theorem source_of_format {text out : Text} (h : format text = .ok out) :
    ∃ document, source text = .ok document := by
  cases hsource : source text with
  | error error =>
      unfold format at h
      rw [hsource] at h
      cases h
  | ok document => exact ⟨document, rfl⟩

theorem exists_outline_of_source {text : Text} {document : Document}
    (h : source text = .ok document) :
    ∃ outline : Outline, outline.WellFormed ∧ Arranged [] outline.pieces ∧
      (splitByteOrderMark text).2 = outline.pieces.flatMap Piece.render ∧
      document = Piece.document (splitByteOrderMark text).2 outline.pieces := by
  obtain ⟨pieces, hpieces, htext, hdocument⟩ := Document.parse_sound h
  obtain ⟨outline, rfl, houtline⟩ := exists_outline hpieces
  exact ⟨outline, houtline, hpieces, htext, hdocument⟩

/-- What is laid out is the lines of an outline, behind the mark that the text had. -/
theorem exists_outline_of_format {text out : Text} (h : format text = .ok out) :
    ∃ outline : Outline, outline.WellFormed ∧ Arranged [] outline.pieces ∧
      (splitByteOrderMark text).2 = outline.pieces.flatMap Piece.render ∧
      out = (splitByteOrderMark text).1 ++
        linesText (lineTerminator (splitByteOrderMark text).2) outline.layout := by
  obtain ⟨document, hsource⟩ := source_of_format h
  obtain ⟨outline, houtline, hpieces, htext, rfl⟩ := exists_outline_of_source hsource
  refine ⟨outline, houtline, hpieces, htext, ?_⟩
  rw [format_of_source hsource, layoutLines_pieces] at h
  exact (Except.ok.inj h).symm

theorem byteOrderMark_not_mem {text : Text} (hmark : byteOrderMark ∉ text.tail) :
    byteOrderMark ∉ (splitByteOrderMark text).2 := by
  rcases splitByteOrderMark_cases text with ⟨rest, rfl, hsplit⟩ | ⟨hhead, hsplit⟩
  · rw [hsplit]
    exact hmark
  · rw [hsplit]
    cases text with
    | nil => simp
    | cons c rest =>
        rw [List.mem_cons, not_or]
        exact ⟨fun heq => hhead (by rw [heq]; rfl), hmark⟩

theorem mem_of_nonblanks {text other : Text} (h : nonblanks text = nonblanks other) {c : Char}
    (hc : Text.isBlank c = false) (hmem : c ∈ text) : c ∈ other := by
  have hink : c ∈ nonblanks text := List.mem_filter.mpr ⟨hmem, by simp [hc]⟩
  rw [h] at hink
  exact (List.mem_filter.mp hink).1

end SchemaCase.Layout
