import SchemaCase.Proofs.Layout.Outline

/-! The outline of what is laid out: it has the same layout, and it is read back from the text that
it is written to. -/

namespace SchemaCase.Layout

open Source

theorem exists_split (text : Text) :
    ∃ first rest, Text.split '\n' text = first :: rest ∧ '\n' ∉ first ∧
      ∀ piece ∈ rest, '\n' ∉ piece := by
  obtain ⟨first, rest, hsplit⟩ : ∃ first rest, Text.split '\n' text = first :: rest :=
    Text.exists_splitWhere _ text
  have hfeed := lineFeed_not_mem_split text
  rw [hsplit, List.forall_mem_cons] at hfeed
  exact ⟨first, rest, hsplit, hfeed⟩

theorem trailText_congr {behind other : Text}
    (h : Text.trim ((Text.split '\n' behind).headD []) =
      Text.trim ((Text.split '\n' other).headD [])) : trailText behind = trailText other := by
  simp only [trailText, h]

theorem trim_trailText (behind : Text) :
    Text.trim (trailText behind) = Text.trim ((Text.split '\n' behind).headD []) := by
  have hblank : ∀ c ∈ [' '], Text.isBlank c := List.all_eq_true.mp (by decide)
  by_cases htrail : (Text.trim ((Text.split '\n' behind).headD [])).isEmpty
  · have hnone : trailText behind = [] := if_pos htrail
    rw [hnone, List.isEmpty_iff.mp htrail]
    rfl
  · have hsome : trailText behind = ' ' :: Text.trim ((Text.split '\n' behind).headD []) :=
      if_neg htrail
    rw [hsome]
    exact (Text.trim_blanks_append hblank _).trans (Text.trim_trim _)

theorem isShown_trailText (behind : Text) : IsShown (trailText behind) := by
  obtain ⟨first, rest, hsplit, hfirst, -⟩ := exists_split behind
  unfold trailText
  rw [hsplit, List.headD_cons]
  dsimp only
  split
  · exact isShown_nil
  · next htrail =>
      have hne : Text.trim first ≠ [] := by simpa using htrail
      apply isShown_of_getLast?
      · rw [List.mem_cons, not_or]
        exact ⟨by decide, fun hmem => hfirst (Text.trim_subset first hmem)⟩
      · have hlast := Text.trim_getLast? first
        rwa [← List.getLast?_append_of_ne_nil [' '] hne] at hlast

structure IsPassed (text : Text) : Prop where
  shown : IsShown text
  passthrough : passthroughText text = text

theorem isPassed_passthroughText {text : Text} (h : '\n' ∉ text) :
    IsPassed (passthroughText text) :=
  ⟨isShown_passthroughText h, passthroughText_passthroughText text⟩

theorem isPassed_nil : IsPassed [] :=
  ⟨isShown_nil, rfl⟩

theorem map_passthroughText {returns : Text} (hblanks : ∀ c ∈ returns, Text.isBlank c)
    {lines : List Text} (h : ∀ line ∈ lines, IsPassed line) :
    (lines.map (· ++ returns)).map passthroughText = lines := by
  rw [List.map_map]
  conv_rhs => rw [← List.map_id lines]
  apply List.map_congr_left
  intro line hline
  exact (passthroughText_append_blanks line hblanks).trans (h line hline).passthrough

theorem leadTexts_linesText {terminator : Text} (h : IsTerminator terminator) {lines : List Text}
    (hlines : ∀ line ∈ lines, IsPassed line) (sections : List Section) :
    Outline.leadTexts ⟨linesText terminator lines, sections⟩ = lines := by
  obtain ⟨returns, rfl, hfeed, hblanks⟩ := h.exists_returns
  have honeLine : ∀ line ∈ lines, '\n' ∉ line :=
    fun line hline => (hlines line hline).shown.oneLine
  have hsplit := split_linesText hfeed honeLine []
  rw [List.append_nil] at hsplit
  rw [Outline.leadTexts, hsplit, List.map_append, map_passthroughText hblanks hlines]
  exact (dropLastIf_concat List.isEmpty lines []).trans (if_pos rfl)

namespace Section

def settle (terminator : Text) (gap : List Text) (part : Section) : Section where
  header := { keyword := part.header.keyword, name := part.header.name }
  body := linesText terminator ([] :: part.bodyTexts)
  behind := linesText terminator (trailText part.behind :: gap)

theorem lineTexts_oneLine (part : Section) : ∀ text ∈ part.lineTexts, '\n' ∉ text := by
  intro text htext
  obtain ⟨line, hline, rfl⟩ := List.mem_map.mp htext
  exact (Line.ofBody_isBody part.body).oneLine line hline

theorem isShown_bodyTexts (part : Section) : ∀ text ∈ part.bodyTexts, IsShown text :=
  isShown_settledLines part.kind part.lineTexts_oneLine

variable {terminator : Text} (h : IsTerminator terminator) (part : Section) {gap : List Text}

include h

theorem lineTexts_settle (gap : List Text) :
    (part.settle terminator gap).lineTexts = [] :: part.bodyTexts ++ [[]] := by
  have hshown : ∀ text ∈ [] :: part.bodyTexts, IsShown text :=
    List.forall_mem_cons.mpr ⟨isShown_nil, part.isShown_bodyTexts⟩
  have hlast : '\n' ∉ ([] : Text) := by simp
  have hlines := ofBody_linesText h hshown hlast
  rwa [List.append_nil] at hlines

theorem bodyTexts_settle : (part.settle terminator gap).bodyTexts = part.bodyTexts := by
  rw [bodyTexts, part.lineTexts_settle h]
  exact settledLines_body part.kind part.lineTexts_oneLine

theorem ink_settle_body : ink (part.settle terminator gap).body = ink part.body := by
  rw [settle, linewise_ink.linesText h, List.flatMap_cons]
  exact (ink_settledLines part.kind part.lineTexts_oneLine).trans (linewise_ink.ofBody part.body)

variable (hgap : ∀ text ∈ gap, IsPassed text)

include hgap

theorem exists_split_settle : ∃ returns, (∀ c ∈ returns, Text.isBlank c) ∧
    Text.split '\n' (part.settle terminator gap).behind =
      (trailText part.behind ++ returns) :: (gap.map (· ++ returns) ++ [[]]) := by
  obtain ⟨returns, rfl, hfeed, hblanks⟩ := h.exists_returns
  have hlines : ∀ line ∈ trailText part.behind :: gap, '\n' ∉ line :=
    List.forall_mem_cons.mpr
      ⟨(isShown_trailText part.behind).oneLine, fun line hline => (hgap line hline).shown.oneLine⟩
  have hsplit := split_linesText hfeed hlines []
  rw [List.append_nil] at hsplit
  exact ⟨returns, hblanks, hsplit⟩

theorem closingText_settle : (part.settle terminator gap).closingText = part.closingText := by
  obtain ⟨returns, hblanks, hsplit⟩ := part.exists_split_settle h hgap
  have htrail : trailText (part.settle terminator gap).behind = trailText part.behind := by
    apply trailText_congr
    rw [hsplit, List.headD_cons, Text.trim_append_blanks _ hblanks, trim_trailText]
  rw [closingText, htrail, closingText]

theorem gapTexts_settle : (part.settle terminator gap).gapTexts = gap := by
  obtain ⟨returns, hblanks, hsplit⟩ := part.exists_split_settle h hgap
  rw [gapTexts, hsplit, List.tail_cons, List.map_append, map_passthroughText hblanks hgap]
  exact (dropLastIf_concat List.isEmpty gap []).trans (if_pos rfl)

theorem layout_settle : (part.settle terminator gap).layout =
    part.blockLines ++ [] :: collapseFrom true gap := by
  rw [layout, blockLines, gapLines, part.bodyTexts_settle h, part.closingText_settle h hgap,
    part.gapTexts_settle h hgap]
  rfl

end Section

theorem render_gapPieces (text : Text) : (gapPieces text).flatMap Piece.render = text := by
  unfold gapPieces
  split
  · next hnil => exact hnil.symm
  · simp [Piece.render]

theorem Section.render_settle (terminator : Text) (gap : List Text) (part : Section) :
    (part.settle terminator gap).pieces.flatMap Piece.render =
      linesText terminator (part.blockLines ++ gap) := by
  rw [Section.pieces, List.flatMap_cons, render_gapPieces, Section.blockLines, linesText_append,
    linesText_append]
  simp [Section.settle, Piece.render, Header.render, Section.headerText, Section.closingText,
    linesText]

/-- The last section gives up the empty lines at its end. -/
def settleSections (terminator : Text) : List Section → List Section
  | [] => []
  | [part] => [part.settle terminator (part.gapLines.rdropWhile List.isEmpty)]
  | part :: next :: rest =>
      part.settle terminator part.gapLines :: settleSections terminator (next :: rest)

theorem settleSections_eq_nil_iff (terminator : Text) (sections : List Section) :
    settleSections terminator sections = [] ↔ sections = [] := by
  unfold settleSections
  split <;> simp

theorem Section.isPassed_gapLines (part : Section) : ∀ text ∈ part.gapLines, IsPassed text := by
  obtain ⟨first, rest, hsplit, -, hrest⟩ := exists_split part.behind
  intro text htext
  rcases List.mem_cons.mp htext with rfl | htext
  · exact isPassed_nil
  · have hgap := (collapseFrom_sublist true part.gapTexts).subset htext
    have hpassed := dropLastIf_subset List.isEmpty _ hgap
    rw [hsplit, List.tail_cons] at hpassed
    obtain ⟨piece, hpiece, rfl⟩ := List.mem_map.mp hpassed
    exact isPassed_passthroughText (hrest piece hpiece)

theorem Section.isPassed_lastLines (part : Section) :
    ∀ text ∈ part.gapLines.rdropWhile List.isEmpty, IsPassed text :=
  fun text htext => part.isPassed_gapLines text ((List.rdropWhile_prefix _ _).subset htext)

theorem rdropWhile_sections_ne_nil (part : Section) (rest : List Section) :
    ((part :: rest).flatMap Section.layout).rdropWhile List.isEmpty ≠ [] := by
  rw [Ne, List.rdropWhile_eq_nil_iff]
  intro hempty
  have hclosing := hempty part.closingText (by simp [Section.layout, Section.blockLines])
  cases hclosing

theorem Section.rdropWhile_layout (part : Section) (gap : List Text) :
    (part.blockLines ++ gap).rdropWhile List.isEmpty =
      part.blockLines ++ gap.rdropWhile List.isEmpty :=
  Text.rdropWhile_concat_append (part.headerText :: part.bodyTexts) rfl gap

section

variable {terminator : Text} (h : IsTerminator terminator)

include h

theorem layout_settleSections (sections : List Section) :
    ((settleSections terminator sections).flatMap Section.layout).rdropWhile List.isEmpty =
      (sections.flatMap Section.layout).rdropWhile List.isEmpty := by
  induction sections with
  | nil => rfl
  | cons part rest ih =>
      cases rest with
      | nil =>
          rw [settleSections, List.flatMap_singleton, List.flatMap_singleton,
            part.layout_settle h part.isPassed_lastLines, part.rdropWhile_layout, Section.layout,
            part.rdropWhile_layout]
          exact congrArg _ (rdropWhile_collapse part.gapTexts)
      | cons next rest =>
          have hlayout : (part.settle terminator part.gapLines).layout = part.layout := by
            rw [part.layout_settle h part.isPassed_gapLines, Section.layout, Section.gapLines,
              collapseFrom_nil_cons, collapseFrom_collapseFrom]
          have hne := rdropWhile_sections_ne_nil next rest
          rw [settleSections, List.flatMap_cons, List.flatMap_cons, hlayout,
            Text.rdropWhile_append _ hne, Text.rdropWhile_append _ (by rwa [ih]), ih]

omit h in
theorem render_settleSections (sections : List Section) :
    ((settleSections terminator sections).flatMap Section.pieces).flatMap Piece.render =
      linesText terminator ((sections.flatMap Section.layout).rdropWhile List.isEmpty) := by
  induction sections with
  | nil => rfl
  | cons part rest ih =>
      cases rest with
      | nil =>
          rw [settleSections, List.flatMap_singleton, List.flatMap_singleton,
            part.render_settle, Section.layout, part.rdropWhile_layout]
      | cons next rest =>
          have hdrop : ((part :: next :: rest).flatMap Section.layout).rdropWhile List.isEmpty =
              part.layout ++ ((next :: rest).flatMap Section.layout).rdropWhile List.isEmpty :=
            Text.rdropWhile_append _ (rdropWhile_sections_ne_nil next rest)
          rw [settleSections, List.flatMap_cons, List.flatMap_append, ih, part.render_settle, hdrop]
          exact (linesText_append _ _ _).symm

end

namespace Outline

theorem isPassed_leadTexts (outline : Outline) : ∀ text ∈ outline.leadTexts, IsPassed text := by
  intro text htext
  obtain ⟨piece, hpiece, rfl⟩ := List.mem_map.mp (dropLastIf_subset List.isEmpty _ htext)
  exact isPassed_passthroughText (lineFeed_not_mem_split outline.lead piece hpiece)

/-- Without blocks, the text in front gives up the empty lines at its end. -/
def settledLead (outline : Outline) : List Text :=
  if outline.sections = [] then collapseEmpty outline.leadTexts
  else collapseFrom true outline.leadTexts

theorem isPassed_settledLead (outline : Outline) :
    ∀ text ∈ outline.settledLead, IsPassed text := by
  intro text htext
  apply outline.isPassed_leadTexts
  unfold settledLead at htext
  split at htext
  · exact collapseEmpty_subset _ htext
  · exact (collapseFrom_sublist true _).subset htext

def settle (terminator : Text) (outline : Outline) : Outline where
  lead := linesText terminator outline.settledLead
  sections := settleSections terminator outline.sections

theorem layout_eq (outline : Outline) :
    outline.layout = outline.settledLead ++
      (outline.sections.flatMap Section.layout).rdropWhile List.isEmpty := by
  unfold layout settledLead
  cases outline.sections with
  | nil =>
      rw [if_pos rfl, List.flatMap_nil, List.append_nil]
      exact (List.append_nil _).symm
  | cons part rest =>
      rw [if_neg (List.cons_ne_nil part rest)]
      exact Text.rdropWhile_append _ (rdropWhile_sections_ne_nil part rest)

theorem render_settle (terminator : Text) (outline : Outline) :
    (outline.settle terminator).pieces.flatMap Piece.render =
      linesText terminator outline.layout := by
  rw [pieces, List.flatMap_append, render_gapPieces, settle, render_settleSections, layout_eq,
    linesText_append]

theorem layout_settle {terminator : Text} (h : IsTerminator terminator) (outline : Outline) :
    (outline.settle terminator).layout = outline.layout := by
  have hlead : (outline.settle terminator).settledLead = outline.settledLead := by
    have htexts : (outline.settle terminator).leadTexts = outline.settledLead :=
      leadTexts_linesText h outline.isPassed_settledLead _
    have hsections : (outline.settle terminator).sections = [] ↔ outline.sections = [] :=
      settleSections_eq_nil_iff terminator outline.sections
    unfold settledLead at htexts ⊢
    by_cases hnil : outline.sections = []
    · rw [if_pos hnil] at htexts ⊢
      rw [if_pos (hsections.mpr hnil), htexts, collapseEmpty_collapseEmpty]
    · rw [if_neg hnil] at htexts ⊢
      rw [if_neg (mt hsections.mp hnil), htexts, collapseFrom_collapseFrom]
  rw [layout_eq, hlead, layout_eq]
  exact congrArg _ (layout_settleSections h outline.sections)

end Outline

structure Section.WellFormed (part : Section) : Prop where
  header : part.header.WellFormed
  balanced : Balanced 0 (codeBraces (cells part.body))
  noBrace : codeBraces (cells part.behind) = []

structure Outline.WellFormed (outline : Outline) : Prop where
  lead : codeBraces (cells outline.lead) = []
  sections : ∀ part ∈ outline.sections, part.WellFormed

theorem exists_outline {before : Text} {pieces : List Piece} (h : Arranged before pieces) :
    ∃ outline : Outline, outline.pieces = pieces ∧ outline.WellFormed := by
  induction h with
  | nil => exact ⟨⟨[], []⟩, rfl, rfl, by simp⟩
  | @passthrough before text pieces nonempty noBrace separate tail ih =>
      obtain ⟨⟨lead, sections⟩, rfl, houtline⟩ := ih
      -- Two texts never follow each other, so this one leads what comes next.
      have hlead : lead = [] := by
        by_contra hne
        apply separate lead
        simp [Outline.pieces, gapPieces, hne]
      refine ⟨⟨text, sections⟩, ?_, (codeBraces_eq_nil_iff _).mpr noBrace, houtline.sections⟩
      simp [Outline.pieces, gapPieces, hlead, nonempty]
  | @block before header body pieces lineStart wellFormed balanced closed tail ih =>
      obtain ⟨⟨lead, sections⟩, rfl, houtline⟩ := ih
      refine ⟨⟨[], ⟨header, body, lead⟩ :: sections⟩, ?_, rfl, ?_⟩
      · simp [Outline.pieces, gapPieces, Section.pieces]
      · exact List.forall_mem_cons.mpr ⟨⟨wellFormed, balanced, houtline.lead⟩, houtline.sections⟩

section

variable {β : Type} {f : Text → List β} (hf : Linewise f)

include hf

theorem Linewise.dropLastIf (lines : List Text) :
    (dropLastIf List.isEmpty (lines.map Layout.passthroughText)).flatMap f = lines.flatMap f := by
  obtain ⟨ends, hlines, hempty⟩ := exists_dropLastIf List.isEmpty (lines.map Layout.passthroughText)
  have hpassed : (lines.map Layout.passthroughText).flatMap f = lines.flatMap f := by
    rw [List.flatMap_map]
    exact List.flatMap_congr fun line _ => hf.passthroughText line
  rw [← hpassed]
  conv_rhs => rw [hlines]
  refine (flatMap_congr_filter hf.nil (filter_append_empty _ ?_)).symm
  exact fun line hline => List.isEmpty_iff.mp (hempty line hline)

theorem Linewise.gapLines (part : Section) :
    part.gapLines.flatMap f = (Text.split '\n' part.behind).tail.flatMap f := by
  rw [Section.gapLines, List.flatMap_cons, hf.nil,
    flatMap_congr_filter hf.nil (filter_collapseFrom true _)]
  exact hf.dropLastIf _

theorem Linewise.settledLead (outline : Outline) :
    outline.settledLead.flatMap f = f outline.lead := by
  have htexts : outline.leadTexts.flatMap f = f outline.lead :=
    (hf.dropLastIf _).trans (hf.split outline.lead)
  unfold Outline.settledLead
  split
  · rw [flatMap_congr_filter hf.nil (filter_collapseEmpty _), htexts]
  · rw [flatMap_congr_filter hf.nil (filter_collapseFrom true _), htexts]

/-- The trail of a closing line and the lines below it are the text behind the block. -/
theorem Linewise.behind (part : Section) {gap : List Text}
    (hgap : gap.flatMap f = part.gapLines.flatMap f) :
    f (trailText part.behind) ++ gap.flatMap f = f part.behind := by
  obtain ⟨first, rest, hsplit, -, -⟩ := exists_split part.behind
  have htrail : f (trailText part.behind) = f first := by
    rw [← hf.trim, trim_trailText, hsplit, List.headD_cons, hf.trim]
  have hbehind := hf.split part.behind
  rw [hsplit, List.flatMap_cons] at hbehind
  rw [htrail, hgap, hf.gapLines, hsplit, List.tail_cons, hbehind]

end

/-- A section as it stands in a layout, with some empty lines more or less behind it. -/
def Section.Settles (terminator : Text) (settled part : Section) : Prop :=
  ∃ gap, settled = part.settle terminator gap ∧ gap.flatMap ink = part.gapLines.flatMap ink

theorem settles_settleSections (terminator : Text) (sections : List Section) :
    List.Forall₂ (Section.Settles terminator) (settleSections terminator sections) sections := by
  induction sections with
  | nil => exact .nil
  | cons part rest ih =>
      cases rest with
      | nil => exact .cons ⟨_, rfl, flatMap_congr_filter rfl (filter_rdropWhile _)⟩ .nil
      | cons next rest => exact .cons ⟨_, rfl, rfl⟩ ih

section

variable {terminator : Text} (h : IsTerminator terminator)

include h

theorem Section.ink_settle_behind (part : Section) {gap : List Text}
    (hgap : gap.flatMap ink = part.gapLines.flatMap ink) :
    ink (part.settle terminator gap).behind = ink part.behind := by
  rw [Section.settle, linewise_ink.linesText h, List.flatMap_cons, linewise_ink.behind part hgap]

theorem Section.WellFormed.settle {part : Section} (hpart : part.WellFormed) {gap : List Text}
    (hgap : gap.flatMap ink = part.gapLines.flatMap ink) :
    (part.settle terminator gap).WellFormed := by
  have hblank : ∀ c ∈ [' '], Text.isInlineBlank c := List.all_eq_true.mp (by decide)
  refine ⟨⟨by simp [Section.settle], hpart.header.keyword, by simp [Section.settle], hblank,
    hpart.header.name, hblank⟩, ?_, ?_⟩
  · rw [codeBraces_of_ink (part.ink_settle_body h)]
    exact hpart.balanced
  · rw [codeBraces_of_ink (part.ink_settle_behind h hgap)]
    exact hpart.noBrace

structure Section.IsLaidOut (part : Section) : Prop extends part.WellFormed where
  closed : modeAfter .code part.body = .code
  terminated : part.behind.getLast? = some '\n'

theorem Section.WellFormed.isLaidOut {part : Section} (hpart : part.WellFormed) {gap : List Text}
    (hgap : gap.flatMap ink = part.gapLines.flatMap ink) :
    (part.settle terminator gap).IsLaidOut := by
  refine ⟨hpart.settle h hgap, modeAfter_linesText h (List.cons_ne_nil _ _), ?_⟩
  obtain ⟨front, hfront⟩ := linesText_eq_concat h (List.cons_ne_nil (trailText part.behind) gap)
  rw [Section.settle, hfront, List.getLast?_concat]

theorem isLaidOut_of_settles {settled sections : List Section}
    (hsettles : List.Forall₂ (Section.Settles terminator) settled sections)
    (hsections : ∀ part ∈ sections, part.WellFormed) : ∀ part ∈ settled, part.IsLaidOut := by
  induction hsettles with
  | nil => simp
  | cons hpart hrest ih =>
      obtain ⟨gap, rfl, hgap⟩ := hpart
      rw [List.forall_mem_cons] at hsections ⊢
      exact ⟨hsections.1.isLaidOut h hgap, ih hsections.2⟩

end

theorem arranged_sections {before : Text} {sections : List Section} (hstart : StartsLine before)
    (h : ∀ part ∈ sections, part.IsLaidOut) :
    Arranged before (sections.flatMap Section.pieces) := by
  induction sections generalizing before with
  | nil => exact .nil
  | cons part rest ih =>
      rw [List.forall_mem_cons] at h
      have hbehind : part.behind ≠ [] := by
        intro hnil
        have hterminated := h.1.terminated
        rw [hnil] at hterminated
        cases hterminated
      rw [List.flatMap_cons, Section.pieces, gapPieces, if_neg hbehind]
      refine .block hstart h.1.header h.1.balanced h.1.closed
        (.passthrough hbehind ((codeBraces_eq_nil_iff _).mp h.1.noBrace) ?_ (ih ?_ h.2))
      · intro other
        cases rest with
        | nil => simp
        | cons next rest => simp [Section.pieces]
      · -- What stands behind a block ends its line, and the next header starts one.
        refine .inr (.inl ?_)
        rw [List.getLast?_append_of_ne_nil _ hbehind, h.1.terminated]

def Outline.marked (mark : Text) (outline : Outline) : Outline :=
  { outline with lead := mark ++ outline.lead }

theorem Outline.render_marked (mark : Text) (outline : Outline) :
    (outline.marked mark).pieces.flatMap Piece.render =
      mark ++ outline.pieces.flatMap Piece.render := by
  simp only [Outline.pieces, Outline.marked, List.flatMap_append, render_gapPieces,
    List.append_assoc]

theorem Outline.WellFormed.arranged_marked {outline : Outline} (h : outline.WellFormed)
    {terminator mark : Text} (hterminator : IsTerminator terminator)
    (hmark : mark = [] ∨ mark = [byteOrderMark]) :
    Arranged [] ((outline.settle terminator).marked mark).pieces := by
  have hsections : ∀ part ∈ (outline.settle terminator).sections, part.IsLaidOut :=
    isLaidOut_of_settles hterminator (settles_settleSections terminator _) h.sections
  have hstart : StartsLine (mark ++ (outline.settle terminator).lead) := by
    by_cases hlines : outline.settledLead = []
    · rw [Outline.settle, hlines, linesText, List.flatMap_nil, List.append_nil]
      exact hmark.imp_right .inr
    · obtain ⟨front, hfront⟩ := linesText_eq_concat hterminator hlines
      rw [Outline.settle, hfront, ← List.append_assoc, startsLine_concat]
      exact .inl rfl
  have hbraces : codeBraces (cells (mark ++ (outline.settle terminator).lead)) = [] := by
    have hlead : codeBraces (cells (outline.settle terminator).lead) = [] := by
      rw [← h.lead]
      apply codeBraces_of_ink
      rw [Outline.settle, linewise_ink.linesText hterminator, linewise_ink.settledLead]
    rcases hmark with rfl | rfl
    · exact hlead
    · exact hlead
  rw [Outline.pieces, Outline.marked, gapPieces]
  split
  · exact arranged_sections (.inl rfl) hsections
  · next hlead =>
      refine .passthrough hlead ((codeBraces_eq_nil_iff _).mp hbraces) ?_
        (arranged_sections hstart hsections)
      intro other
      cases (outline.settle terminator).sections with
      | nil => simp
      | cons next rest => simp [Section.pieces]

theorem Outline.WellFormed.arranged_settle {outline : Outline} (h : outline.WellFormed)
    {terminator : Text} (hterminator : IsTerminator terminator) :
    Arranged [] (outline.settle terminator).pieces :=
  h.arranged_marked hterminator (.inl rfl)

end SchemaCase.Layout
