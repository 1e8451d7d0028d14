import SchemaCase.Proofs.Layout.Preservation
import SchemaCase.Proofs.Schema.LineFeeds
import SchemaCase.Proofs.Schema.Parts

/-! The shape of a layout: where its lines are empty, what stands around its blocks, and how its
lines end. -/

namespace SchemaCase.Layout

open Source

/-- No empty line at either end and no two in a row. -/
structure Spaced (lines : List Text) : Prop where
  first : lines.head? ≠ some []
  last : lines.getLast? ≠ some []
  apart : ¬[[], []] <:+: lines

theorem length_collapseFrom_le (afterEmpty : Bool) (lines : List Text) :
    (collapseFrom afterEmpty lines).length ≤ lines.length :=
  (collapseFrom_sublist afterEmpty lines).length_le

theorem head?_ne_of_collapsed {lines : List Text} (h : collapseFrom true lines = lines) :
    lines.head? ≠ some [] := by
  intro hhead
  obtain ⟨rest, rfl⟩ := List.head?_eq_some_iff.mp hhead
  have hlength := congrArg List.length h
  rw [collapseFrom_nil_cons, List.length_cons] at hlength
  have hle := length_collapseFrom_le true rest
  omega

theorem apart_of_collapsed {afterEmpty : Bool} {lines : List Text}
    (h : collapseFrom afterEmpty lines = lines) : ¬[[], []] <:+: lines := by
  rintro ⟨front, back, rfl⟩
  rw [List.append_assoc] at h
  obtain ⟨between, happend⟩ := collapseFrom_append afterEmpty front ([[], []] ++ back)
  have hdouble : collapseFrom between ([[], []] ++ back) = collapseFrom between ([] :: back) :=
    collapseFrom_double between back
  rw [h, hdouble] at happend
  have hlength := congrArg List.length happend
  have hfront := length_collapseFrom_le afterEmpty front
  have hback := length_collapseFrom_le between ([] :: back)
  simp only [List.length_append, List.length_cons, List.length_nil] at hlength hback
  omega

theorem spaced_collapseEmpty (lines : List Text) : Spaced (collapseEmpty lines) := by
  have hcollapsed := collapseFrom_collapseEmpty lines
  refine ⟨head?_ne_of_collapsed hcollapsed, ?_, apart_of_collapsed hcollapsed⟩
  intro hlast
  have hne : collapseEmpty lines ≠ [] := by
    intro hnil
    rw [hnil] at hlast
    cases hlast
  have hfilled : ¬((collapseEmpty lines).getLast hne).isEmpty := List.rdropWhile_last_not _ _ hne
  rw [List.getLast?_eq_getLast_of_ne_nil hne, Option.some.injEq] at hlast
  exact hfilled (by rw [hlast]; rfl)

theorem Section.spaced_bodyTexts (part : Section) : Spaced part.bodyTexts := by
  unfold Section.bodyTexts settledLines
  split <;> exact spaced_collapseEmpty _

theorem Outline.spaced_layout (outline : Outline) : Spaced outline.layout := by
  rw [← layoutLines_pieces []]
  exact spaced_collapseEmpty _

/-- A block of a layout: the lines of its body, what its closing line has behind the brace (`trail`)
and the lines above and below it. The text in front of it is `front`. -/
structure StandsApart (mark terminator : Text) (lines : List Text) (front : Text) (block : Block)
    (above body : List Text) (trail : Text) (below : List Text) : Prop where
  lines_eq : lines = above ++ block.header :: body ++ ('\x7d' :: trail) :: below
  front_eq : front = mark ++ linesText terminator above
  block_eq : block.render = linesText terminator (block.header :: body) ++ ['\x7d']
  bodyFirst : body.head? ≠ some []
  bodyLast : body.getLast? ≠ some []
  oneEmpty : below = [] ∨ ∃ next rest, below = [] :: next :: rest ∧ next ≠ []

theorem gapPieces_append_eq {gap body : Text} {header : Header} {pieces front back : List Piece}
    (h : gapPieces gap ++ pieces = front ++ .block header body :: back) :
    ∃ rest, front = gapPieces gap ++ rest ∧ pieces = rest ++ .block header body :: back := by
  by_cases hgap : gap = []
  · rw [gapPieces, if_pos hgap] at h ⊢
    exact ⟨front, rfl, h⟩
  · rw [gapPieces, if_neg hgap] at h ⊢
    cases front with
    | nil => cases h
    | cons piece front =>
        obtain ⟨rfl, hrest⟩ := List.cons.inj h
        exact ⟨front, rfl, hrest⟩

/-- A block among the pieces of sections is the block of one of them. -/
theorem exists_section_of_pieces {gap body : Text} {header : Header} {sections : List Section}
    {front back : List Piece}
    (h : gapPieces gap ++ sections.flatMap Section.pieces = front ++ .block header body :: back) :
    ∃ before part after, sections = before ++ part :: after ∧
      front = gapPieces gap ++ before.flatMap Section.pieces ∧
      header = part.header ∧ body = part.body := by
  induction sections generalizing gap front with
  | nil =>
      obtain ⟨rest, -, hrest⟩ := gapPieces_append_eq h
      simp at hrest
  | cons part sections ih =>
      obtain ⟨rest, rfl, hrest⟩ := gapPieces_append_eq h
      rw [List.flatMap_cons, Section.pieces, List.cons_append] at hrest
      cases rest with
      | nil =>
          obtain ⟨hblock, -⟩ := List.cons.inj hrest
          obtain ⟨rfl, rfl⟩ := Piece.block.inj hblock
          exact ⟨[], part, sections, rfl, rfl, rfl, rfl⟩
      | cons piece rest =>
          obtain ⟨rfl, htail⟩ := List.cons.inj hrest
          obtain ⟨before, other, after, rfl, rfl, rfl, rfl⟩ := ih htail
          exact ⟨part :: before, other, after, rfl, by simp [Section.pieces], rfl, rfl⟩

/-- All sections in front of one that is laid out are laid out with all of their lines. -/
theorem exists_of_settleSections {terminator : Text} {sections before after : List Section}
    {settled : Section} (h : settleSections terminator sections = before ++ settled :: after) :
    ∃ front part gap back, sections = front ++ part :: back ∧
      settled = part.settle terminator gap ∧
      (before.flatMap Section.pieces).flatMap Piece.render =
        linesText terminator (front.flatMap Section.layout) := by
  induction sections generalizing before with
  | nil => simp [settleSections] at h
  | cons part rest ih =>
      cases rest with
      | nil =>
          rw [settleSections] at h
          cases before with
          | nil =>
              obtain ⟨rfl, -⟩ := List.cons.inj h
              exact ⟨[], part, _, [], rfl, rfl, rfl⟩
          | cons first before => simp at h
      | cons next rest =>
          rw [settleSections] at h
          cases before with
          | nil =>
              obtain ⟨rfl, -⟩ := List.cons.inj h
              exact ⟨[], part, _, next :: rest, rfl, rfl, rfl⟩
          | cons first before =>
              obtain ⟨rfl, hrest⟩ := List.cons.inj h
              obtain ⟨front, other, gap, back, hsections, hsettled, hrender⟩ := ih hrest
              refine ⟨part :: front, other, gap, back, by rw [hsections]; rfl, hsettled, ?_⟩
              rw [List.flatMap_cons, List.flatMap_append, hrender, part.render_settle,
                List.flatMap_cons, linesText_append _ part.layout]
              rfl

/-- The layout of an outline, cut at one of its sections. -/
theorem Outline.layout_eq_append {outline : Outline} {front back : List Section} {part : Section}
    (h : outline.sections = front ++ part :: back) :
    outline.layout = outline.settledLead ++ front.flatMap Section.layout ++ part.blockLines ++
      (part.gapLines ++ back.flatMap Section.layout).rdropWhile List.isEmpty := by
  have hne := rdropWhile_sections_ne_nil part back
  have hpart : ((part :: back).flatMap Section.layout).rdropWhile List.isEmpty =
      part.blockLines ++
        (part.gapLines ++ back.flatMap Section.layout).rdropWhile List.isEmpty := by
    rw [List.flatMap_cons, Section.layout, List.append_assoc, part.rdropWhile_layout]
  rw [Outline.layout_eq, h, List.flatMap_append, Text.rdropWhile_append _ hne, hpart,
    List.append_assoc, List.append_assoc]

/-- Lines that start with an empty one where they stand below others. -/
theorem Spaced.oneEmpty {front rest below : List Text} (h : Spaced (front ++ below))
    (hbelow : below <+: [] :: rest) :
    below = [] ∨ ∃ next rest, below = [] :: next :: rest ∧ next ≠ [] := by
  cases below with
  | nil => exact .inl rfl
  | cons line below =>
      obtain ⟨rfl, -⟩ := List.cons_prefix_cons.mp hbelow
      cases below with
      | nil => exact absurd List.getLast?_concat h.last
      | cons next below =>
          refine .inr ⟨next, below, rfl, ?_⟩
          rintro rfl
          exact h.apart ⟨front, below, by simp⟩

theorem Piece.exists_block_of_segments {text : Text} {offset : Nat} {pieces : List Piece}
    {front back : List Segment} {block : Block}
    (h : Piece.segments text offset pieces = front ++ .block block :: back) :
    ∃ frontPieces body backPieces,
      pieces = frontPieces ++ .block block.toHeader body :: backPieces ∧
        Document.render ⟨front⟩ = frontPieces.flatMap Piece.render ∧
        block.render = block.header ++ body ++ ['\x7d'] := by
  obtain ⟨frontPieces, piece, backPieces, hpieces, rfl, hblock⟩ := Piece.segments_eq_append h
  cases piece with
  | passthrough content => cases hblock
  | block header body =>
      obtain rfl := Segment.block.inj hblock
      refine ⟨frontPieces, body, backPieces, hpieces, Piece.render_segments _ _ _, ?_⟩
      rw [Block.render, Block.body, Line.flatMap_render_ofBody]

theorem Outline.standsApart {outline : Outline} {mark terminator text : Text}
    {front back : List Segment} {block : Block}
    (h : Piece.segments text 0 ((outline.settle terminator).marked mark).pieces =
      front ++ .block block :: back) :
    ∃ above body trail below,
      StandsApart mark terminator outline.layout (Document.render ⟨front⟩) block above body trail
        below := by
  obtain ⟨frontPieces, body, backPieces, hpieces, hfront, hblock⟩ :=
    Piece.exists_block_of_segments h
  obtain ⟨before, settled, after, hsettled, rfl, hheader, rfl⟩ := exists_section_of_pieces hpieces
  obtain ⟨frontSections, part, gap, backSections, hsections, rfl, hrender⟩ :=
    exists_of_settleSections hsettled
  have hheader : block.header = part.headerText := by
    rw [Block.header, hheader]
    simp [Section.settle, Header.render, Section.headerText]
  have hlayout := outline.layout_eq_append hsections
  have hspaced := outline.spaced_layout
  rw [hlayout] at hspaced
  refine ⟨outline.settledLead ++ frontSections.flatMap Section.layout, part.bodyTexts,
    trailText part.behind,
    (part.gapLines ++ backSections.flatMap Section.layout).rdropWhile List.isEmpty,
    ?_, ?_, ?_, part.spaced_bodyTexts.first, part.spaced_bodyTexts.last,
    hspaced.oneEmpty (List.rdropWhile_prefix _ _)⟩
  · rw [hlayout, hheader, Section.blockLines, Section.closingText]
    simp
  · rw [hfront, List.flatMap_append, render_gapPieces, hrender, linesText_append,
      ← List.append_assoc]
    rfl
  · rw [hblock, hheader]
    simp [Section.settle, linesText]

theorem hasCarriageReturns_iff (text : Text) :
    hasCarriageReturns text ↔ ['\r', '\n'] <:+: text := by
  constructor
  · intro h
    fun_induction hasCarriageReturns text with
    | case1 rest => exact ⟨[], rest, rfl⟩
    | case2 c rest hpair ih => exact List.infix_cons (ih h)
    | case3 => cases h
  · rintro ⟨front, back, rfl⟩
    rw [List.append_assoc]
    exact hasCarriageReturns_pair front back

theorem hasCarriageReturns_mark {mark : Text} (h : mark = [] ∨ mark = [byteOrderMark])
    (text : Text) : hasCarriageReturns (mark ++ text) = hasCarriageReturns text := by
  rcases h with rfl | rfl <;> rfl

theorem lineTerminator_content (text : Text) :
    lineTerminator (splitByteOrderMark text).2 = lineTerminator text := by
  obtain ⟨hsplit, hmark⟩ := splitByteOrderMark_eq text
  conv_rhs => rw [hsplit]
  rw [lineTerminator, lineTerminator, hasCarriageReturns_mark hmark]

theorem pairedFrom_linesText {lines : List Text} (h : ∀ line ∈ lines, IsShown line)
    (last : Option Char) : Text.pairedFrom last (linesText ['\r', '\n'] lines) := by
  induction lines generalizing last with
  | nil => rfl
  | cons line lines ih =>
      rw [List.forall_mem_cons] at h
      rw [linesText_cons, Text.pairedFrom_append, Text.pairedFrom_append,
        Text.pairedFrom_of_not_mem last h.1.oneLine, ih h.2]
      simp [Text.pairedFrom]

/-- The layout of a text has no empty lines but single ones between others, one of them behind each
block that is not the last, and it ends all lines alike. -/
theorem format_canonical {text out : Text} (h : format text = .ok out) :
    let mark := (splitByteOrderMark text).1
    ∃ lines document,
      out = mark ++ linesText (lineTerminator text) lines ∧
        (∀ line ∈ lines, IsShown line) ∧ Spaced lines ∧
        Document.parse out = .ok document ∧
        (∀ front block back, document.segments = front ++ .block block :: back →
          ∃ above body trail below,
            StandsApart mark (lineTerminator text) lines (Document.render ⟨front⟩) block above body
              trail below) ∧
        (['\r', '\n'] <:+: text → Text.PairedFeeds out) ∧
        (¬['\r', '\n'] <:+: text → ¬['\r', '\n'] <:+: out) := by
  intro mark
  obtain ⟨outline, houtline, -, -, rfl⟩ := exists_outline_of_format h
  have hmark := (splitByteOrderMark_eq text).2
  have hparse := (houtline.arranged_marked (isTerminator_lineTerminator text)
    hmark).decomposition.parse_eq
  have hshown := houtline.isShown_layout
  rw [Outline.render_marked, outline.render_settle] at hparse
  rw [lineTerminator_content]
  refine ⟨outline.layout, _, rfl, hshown, outline.spaced_layout, hparse,
    fun front block back => outline.standsApart, ?_, ?_⟩
  · intro hpair
    rw [lineTerminator, if_pos ((hasCarriageReturns_iff text).mpr hpair), Text.pairedFeeds_iff,
      Text.pairedFrom_append, pairedFrom_linesText hshown, Bool.and_true]
    apply Text.pairedFrom_of_not_mem
    rcases hmark with hmark | hmark <;> rw [hmark] <;> decide
  · intro hpair
    rw [lineTerminator, if_neg (mt (hasCarriageReturns_iff text).mp hpair),
      ← hasCarriageReturns_iff, hasCarriageReturns_mark hmark,
      hasCarriageReturns_linesText hshown]
    simp

/-- A mark, a comment and two blocks, of which the first has something behind its brace, with one
carriage return among the line ends. -/
theorem format_canonical_marked :
    let text := ("\ufeff\r\n\n //a \nmodel A \x7b b Int\n\n\n  cd E \n\n\n\x7d //f\n" ++
      "enum G\x7b\n\n\x7d\n\n\n x\r\n\n").toList
    let out := ("\ufeff//a\r\nmodel A \x7b\r\n  b Int\r\n\r\n  cd E\r\n\x7d //f\r\n\r\n" ++
      "enum G \x7b\r\n\x7d\r\n\r\n x\r\n").toList
    format text = .ok out ∧
      ∃ lines document,
        out = [byteOrderMark] ++ linesText ['\r', '\n'] lines ∧
          (∀ line ∈ lines, IsShown line) ∧ Spaced lines ∧
          Document.parse out = .ok document ∧
          (∀ front block back, document.segments = front ++ .block block :: back →
            ∃ above body trail below,
              StandsApart [byteOrderMark] ['\r', '\n'] lines (Document.render ⟨front⟩) block above
                body trail below) ∧
          (['\r', '\n'] <:+: text → Text.PairedFeeds out) ∧
          (¬['\r', '\n'] <:+: text → ¬['\r', '\n'] <:+: out) := by
  intro text out
  have h : format text = .ok out := by decide +kernel
  exact ⟨h, format_canonical h⟩

end SchemaCase.Layout
