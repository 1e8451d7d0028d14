import Mathlib.Data.List.Chain
import SchemaCase.Proofs.Layout.Preservation

/-! Columns below each other. Neighbouring lines of a body are set as members of one group, and they
still are neighbours of one group where the body is read back: no line between two groups is lost.
So the columns of fields on consecutive lines start at the same places. -/

namespace SchemaCase

namespace Layout

namespace Style

variable {α : Type} (style : Style α)

/-- If two texts are members, then of one group, next to whose members both are set. -/
def SetTogether (upper lower : Text) : Prop :=
  ∀ first second, style.read? upper = some first → style.read? lower = some second →
    ∃ group, first ∈ group ∧ second ∈ group ∧
      upper = style.render group first ∧ lower = style.render group second

variable {style}

theorem setTogether_of_none_left {upper : Text} (h : style.read? upper = none) (lower : Text) :
    style.SetTogether upper lower := by
  intro first second hfirst
  rw [h] at hfirst
  cases hfirst

theorem setTogether_of_none_right {lower : Text} (h : style.read? lower = none) (upper : Text) :
    style.SetTogether upper lower := by
  intro first second _ hsecond
  rw [h] at hsecond
  cases hsecond

theorem setTogether_render {group : List α}
    (hgroup : ∀ value ∈ group, ∃ text, '\n' ∉ text ∧ style.read? text = some value)
    {upper lower : α} (hupper : upper ∈ group) (hlower : lower ∈ group) :
    style.SetTogether (style.render group upper) (style.render group lower) := by
  have hread : ∀ value ∈ group, style.read? (style.render group value) = some value := by
    intro value hvalue
    obtain ⟨text, hfeed, htext⟩ := hgroup value hvalue
    exact (style.member group hfeed htext).1
  intro first second hfirst hsecond
  rw [hread upper hupper] at hfirst
  rw [hread lower hlower] at hsecond
  cases hfirst
  cases hsecond
  exact ⟨group, hupper, hlower, rfl, rfl⟩

theorem isChain_renderGroup {group : List α}
    (hgroup : ∀ value ∈ group, ∃ text, '\n' ∉ text ∧ style.read? text = some value) :
    (style.renderGroup group).IsChain style.SetTogether := by
  rw [renderGroup, List.isChain_map]
  apply List.Pairwise.isChain
  apply List.pairwise_of_forall_mem_list
  exact fun upper hupper lower hlower => setTogether_render hgroup hupper hlower

theorem isChain_renderItems {group : List α} {texts : List Text}
    (hgroup : ∀ value ∈ group, ∃ text, '\n' ∉ text ∧ style.read? text = some value)
    (hfeed : ∀ text ∈ texts, '\n' ∉ text) :
    (renderItems style.renderGroup group (texts.map style.item)).IsChain style.SetTogether := by
  induction texts generalizing group with
  | nil => exact isChain_renderGroup hgroup
  | cons text texts ih =>
      rw [List.forall_mem_cons] at hfeed
      cases hitem : style.item text with
      | member value =>
          rw [List.map_cons, hitem, renderItems]
          refine ih ?_ hfeed.2
          rw [List.forall_mem_append, List.forall_mem_singleton]
          exact ⟨hgroup, text, hfeed.1, style.read?_of_item hitem⟩
      | single shown =>
          -- A line by itself is no member, so nothing is asked of it and its neighbours.
          have hnone : style.read? shown = none :=
            (style.sets_single hfeed.1 hitem).read?.trans (style.none_of_item hitem).1
          rw [List.map_cons, hitem, renderItems, List.isChain_append, List.isChain_cons]
          refine ⟨isChain_renderGroup hgroup, ⟨?_, ih (by simp) hfeed.2⟩, ?_⟩
          · exact fun lower _ => setTogether_of_none_left hnone lower
          · rintro upper - lower ⟨⟩
            exact setTogether_of_none_right hnone upper

theorem isChain_renderLines {texts : List Text} (hfeed : ∀ text ∈ texts, '\n' ∉ text) :
    (style.renderLines texts).IsChain style.SetTogether :=
  isChain_renderItems (by simp) hfeed

end Style

theorem AreSet.isChain_body {style : Style α} {texts : List Text} (h : AreSet style texts) :
    ([] :: texts ++ [[]]).IsChain style.SetTogether := by
  have hfeed : ∀ text ∈ [] :: texts ++ [[]], '\n' ∉ text := by
    rw [List.forall_mem_append, List.forall_mem_cons, List.forall_mem_singleton]
    exact ⟨⟨by simp, fun text htext => (h.shown text htext).oneLine⟩, by simp⟩
  rw [← h.renderLines_body]
  exact Style.isChain_renderLines hfeed

theorem Section.isChain_settle (part : Section) {terminator : Text} (h : IsTerminator terminator)
    (gap : List Text) (hkind : ¬part.kind.isSettings) :
    (part.settle terminator gap).lineTexts.IsChain fieldStyle.SetTogether := by
  rw [part.lineTexts_settle h, Section.bodyTexts, settledLines, if_neg hkind]
  exact (areSet_renderLines fieldStyle part.lineTexts_oneLine).collapseEmpty.isChain_body

namespace FieldRow

/-- A field line with the type at one column and attributes, where it has any, at the other. -/
structure StandsAt (row : FieldRow) (typeColumn attributesColumn : Nat)
    (text nameGap typeGap : Text) : Prop where
  text_eq : text = indent ++ row.name ++ nameGap ++ row.type ++ typeGap ++ row.attributes ++
    row.commentPart
  blanks : ∀ c ∈ nameGap ++ typeGap, Text.isBlank c
  nameGap_ne_nil : nameGap ≠ []
  type : (indent ++ row.name ++ nameGap).length = typeColumn
  attributes : row.attributes ≠ [] → typeGap ≠ [] ∧
    (indent ++ row.name ++ nameGap ++ row.type ++ typeGap).length = attributesColumn

theorem length_padding {width : Nat} {word : Text} (h : word.length ≤ width) :
    word.length + (padding width word).length = width + 1 := by
  rw [padding, List.length_append, List.length_replicate, List.length_singleton]
  omega

theorem WellFormed.standsAt {row : FieldRow} (h : row.WellFormed) {nameWidth typeWidth : Nat}
    (hname : row.name.length ≤ nameWidth) (htype : row.type.length ≤ typeWidth) :
    row.StandsAt (nameWidth + 3) (nameWidth + typeWidth + 4) (render nameWidth typeWidth row)
      (padding nameWidth row.name) (row.gap typeWidth) := by
  have hnameGap := length_padding hname
  have hindent : indent.length = 2 := rfl
  refine ⟨?_, ?_, ?_, ?_, fun hattributes => ?_⟩
  · rw [h.render_eq]
    simp [FieldParts.text, parts, code]
  · rw [List.forall_mem_append]
    exact ⟨isBlank_padding nameWidth row.name, row.isBlank_gap typeWidth⟩
  · simp [padding]
  · simp only [List.length_append]
    omega
  · have hgap : row.gap typeWidth = padding typeWidth row.type := if_neg hattributes
    have htypeGap := length_padding htype
    rw [hgap]
    refine ⟨by simp [padding], ?_⟩
    simp only [List.length_append]
    omega

theorem wellFormed_of_fieldRow? {line : Line} {row : FieldRow} (hfeed : '\n' ∉ line.text)
    (h : fieldRow? line = some row) : row.WellFormed := by
  obtain ⟨parts, hparts, htext, rfl⟩ := exists_parts_of_fieldRow? hfeed h
  exact (ofLine_wellFormed hparts htext).1

theorem fieldStyle_render (group : List FieldRow) :
    fieldStyle.render group =
      render (Text.widest (group.map (·.name))) (Text.widest (group.map (·.type))) := rfl

/-- Fields that are set together start their columns at the same places. -/
theorem exists_standsAt {upper lower : Line}
    (hfeed : ∀ line ∈ [upper, lower], '\n' ∉ line.text)
    (hfields : ∀ line ∈ [upper, lower], line.classify.isField)
    (h : fieldStyle.SetTogether upper.text lower.text) :
    ∃ typeColumn attributesColumn, ∀ line ∈ [upper, lower], ∃ nameGap typeGap,
      (ofLine line.classify).StandsAt typeColumn attributesColumn line.text nameGap typeGap := by
  have hrow : ∀ line ∈ [upper, lower], fieldRow? line = some (ofLine line.classify) :=
    fun line hline => if_pos (hfields line hline)
  have hread : ∀ line ∈ [upper, lower],
      fieldStyle.read? line.text = some (ofLine line.classify) :=
    fun line hline => (fieldRow?_text line).symm.trans (hrow line hline)
  obtain ⟨group, hfirst, hsecond, hupper, hlower⟩ :=
    h _ _ (hread upper (by simp)) (hread lower (by simp))
  let nameWidth := Text.widest (group.map (·.name))
  let typeWidth := Text.widest (group.map (·.type))
  have hset : ∀ line ∈ [upper, lower], ofLine line.classify ∈ group ∧
      line.text = render nameWidth typeWidth (ofLine line.classify) := by
    rw [List.forall_mem_cons, List.forall_mem_singleton]
    rw [fieldStyle_render] at hupper hlower
    exact ⟨⟨hfirst, hupper⟩, hsecond, hlower⟩
  refine ⟨nameWidth + 3, nameWidth + typeWidth + 4, fun line hline => ?_⟩
  obtain ⟨hmember, htext⟩ := hset line hline
  have hname : (ofLine line.classify).name.length ≤ nameWidth :=
    Text.length_le_widest (List.mem_map_of_mem hmember)
  have htype : (ofLine line.classify).type.length ≤ typeWidth :=
    Text.length_le_widest (List.mem_map_of_mem hmember)
  have hwellFormed := wellFormed_of_fieldRow? (hfeed line hline) (hrow line hline)
  rw [htext]
  exact ⟨_, _, hwellFormed.standsAt hname htype⟩

end FieldRow

/-- The blocks of a layout are read from sections that are laid out. -/
theorem Outline.exists_readAs_settle (outline : Outline) (mark terminator text : Text) :
    ∀ block ∈ (Piece.document text ((outline.settle terminator).marked mark).pieces).blocks,
      ∃ (part : Section) (gap : List Text), Section.ReadAs block (part.settle terminator gap) := by
  have hread := ((outline.settle terminator).marked mark).readAs_blocks text
  have hsettled : ∀ settled ∈ ((outline.settle terminator).marked mark).sections,
      ∃ (part : Section) (gap : List Text), settled = part.settle terminator gap := by
    refine forall_left_of_forall₂ (settles_settleSections terminator outline.sections) ?_
    rintro settled part ⟨gap, hsettled, -⟩
    exact ⟨part, gap, hsettled⟩
  have hboth := (List.forall₂_and_left _ _).mpr ⟨hsettled, hread.flip⟩
  refine forall_left_of_forall₂ hboth.flip ?_
  rintro block settled ⟨⟨part, gap, rfl⟩, hblock⟩
  exact ⟨part, gap, hblock⟩

/-- In a layout, fields on consecutive lines of a declaration have their types and their attributes
below each other. -/
theorem format_alignsFields {text out : Text} (h : format text = .ok out) :
    ∃ document, Document.parse out = .ok document ∧
      ∀ block ∈ document.blocks, ¬block.kind.isSettings →
        ∀ front upper lower back, block.lines = front ++ upper :: lower :: back →
          upper.classify.isField → lower.classify.isField →
            ∃ typeColumn attributesColumn, ∀ line ∈ [upper, lower], ∃ nameGap typeGap,
              (FieldRow.ofLine line.classify).StandsAt typeColumn attributesColumn line.text
                nameGap typeGap := by
  obtain ⟨outline, houtline, -, -, rfl⟩ := exists_outline_of_format h
  have hterminator := isTerminator_lineTerminator (splitByteOrderMark text).2
  have hparse := (houtline.arranged_marked hterminator
    (splitByteOrderMark_eq text).2).decomposition.parse_eq
  rw [Outline.render_marked, outline.render_settle] at hparse
  refine ⟨_, hparse, fun block hblock hkind front upper lower back hlines hupper hlower => ?_⟩
  obtain ⟨part, gap, hread⟩ := outline.exists_readAs_settle _ _ _ block hblock
  rw [hread.kind] at hkind
  have hchain := part.isChain_settle hterminator gap hkind
  rw [Section.lineTexts, ← hread.lines, hlines, List.map_append, List.map_cons,
    List.map_cons] at hchain
  have hfeed : ∀ line ∈ block.lines, '\n' ∉ line.text := by
    rw [hread.lines]
    exact (Line.ofBody_isBody _).oneLine
  apply FieldRow.exists_standsAt
  · intro line hline
    apply hfeed line
    rw [hlines]
    exact List.mem_append_right front (List.mem_append_left back hline)
  · rw [List.forall_mem_cons, List.forall_mem_singleton]
    exact ⟨hupper, hlower⟩
  · exact List.isChain_iff_forall_rel_of_append_cons_cons.mp hchain rfl

/-- A string with blanks, a type with brackets and a comment, on the lines of one group. -/
theorem format_alignsFields_brackets :
    let text := ("model A \x7b id Int @id // \"\n" ++
      "   name Unsupported(\"a  b\") @default(\"//  c\")//d\n\n\n x Y @z\n\x7d").toList
    let out := ("model A \x7b\n  id   Int                 @id // \"\n" ++
      "  name Unsupported(\"a  b\") @default(\"//  c\") //d\n\n  x Y @z\n\x7d\n").toList
    let upper : Line :=
      { text := "  id   Int                 @id // \"".toList
        terminator := ['\n'] }
    let lower : Line :=
      { text := "  name Unsupported(\"a  b\") @default(\"//  c\") //d".toList
        terminator := ['\n'] }
    format text = .ok out ∧
      ∃ typeColumn attributesColumn, ∀ line ∈ [upper, lower], ∃ nameGap typeGap,
        (FieldRow.ofLine line.classify).StandsAt typeColumn attributesColumn line.text nameGap
          typeGap := by
  intro text out upper lower
  let block : Block :=
    { keyword := "model".toList
      name := "A".toList
      kind := .model
      lines :=
        [{ text := [], terminator := ['\n'] }, upper, lower, { text := [], terminator := ['\n'] },
          { text := "  x Y @z".toList, terminator := ['\n'] }, { text := [] }]
      lineNumber := 1 }
  have h : format text = .ok out := by decide +kernel
  have hout : Document.parse out = .ok ⟨[.block block, .passthrough ['\n']]⟩ := by decide +kernel
  obtain ⟨document, hparse, haligned⟩ := format_alignsFields h
  obtain rfl := Except.ok.inj (hout.symm.trans hparse)
  refine ⟨h, haligned block (by decide) (by decide) [{ text := [], terminator := ['\n'] }] upper
    lower _ rfl ?_ ?_⟩
  · decide +kernel
  · decide +kernel

end Layout

end SchemaCase
