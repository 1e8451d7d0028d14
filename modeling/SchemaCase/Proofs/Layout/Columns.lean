import SchemaCase.Layout.Columns
import SchemaCase.Proofs.Layout.Lines
import SchemaCase.Proofs.Schema.Classification
import SchemaCase.Proofs.Source.CodeSplit

/-! Lines in columns. A field or a setting is read back from the line that it is written to, however
wide the columns are, and the line has the ink of the line that it was read from. -/

namespace SchemaCase

open Source

theorem FieldParts.WellFormed.ink {parts : FieldParts} (h : parts.WellFormed) :
    Source.ink parts.text = Source.ink parts.name ++ Source.ink parts.rest := by
  rw [FieldParts.text, List.append_assoc, List.append_assoc, ink_blanks_append h.indent,
    ink_plain_append (plain_of_isName h.name), ink_blanks_append h.gap]

theorem FieldParts.WellFormed.lineFeed_not_mem_rest {parts : FieldParts}
    (h : parts.WellFormed) : '\n' ∉ parts.rest :=
  fun hmem => h.oneLine (List.mem_append_right _ hmem)

theorem FieldParts.WellFormed.trim {parts : FieldParts} (h : parts.WellFormed) :
    Text.trim parts.text = parts.name ++ (parts.gap ++ Text.trimEnd parts.rest) := by
  obtain ⟨first, behind, hrest, hfirst⟩ := h.rest
  have hend : Text.trimEnd parts.rest ≠ [] := by
    rw [hrest, Text.trimEnd_cons hfirst]
    exact List.cons_ne_nil _ _
  rw [FieldParts.text, List.append_assoc, List.append_assoc, Text.trim_blanks_append h.indent,
    Text.trim, Text.trimStart_of_head? (h.name_head? _), ← List.append_assoc,
    Text.trimEnd_append _ hend, List.append_assoc]

/-- Whether a line is a field is told without the blanks at its ends. -/
theorem FieldParts.exists_of_trim {parts : FieldParts} (h : parts.WellFormed) {text : Text}
    (hfeed : '\n' ∉ text) (htrim : Text.trim text = Text.trim parts.text) :
    ∃ others : FieldParts, others.WellFormed ∧ text = others.text := by
  obtain ⟨first, behind, hrest, hfirst⟩ := h.rest
  obtain ⟨front, back, htext, hfront, hback⟩ := Text.exists_trim text
  let others : FieldParts := ⟨front, parts.name, parts.gap, Text.trimEnd parts.rest ++ back⟩
  have hothers : text = others.text := by
    rw [htext, htrim, h.trim]
    simp [others, FieldParts.text]
  refine ⟨others, ⟨hfront, h.name, h.gap, h.gap_ne_nil, ?_, ?_, ?_⟩, hothers⟩
  · refine ⟨first, Text.trimEnd behind ++ back, ?_, hfirst⟩
    simp only [others]
    rw [hrest, Text.trimEnd_cons hfirst, List.cons_append]
  · intro hopens
    apply h.noComment
    rwa [Text.isPrefix_append_blanks Text.isBlank_slashes _ hback,
      Text.isPrefix_trimEnd Text.isBlank_slashes] at hopens
  · rw [← hothers]
    exact hfeed

namespace Layout

theorem isBlank_indent : ∀ c ∈ indent, Text.isBlank c :=
  List.all_eq_true.mp (by decide)

def bracketDepth (depth : Nat) (c : Char) : Nat :=
  if c == '(' || c == '[' then depth + 1
  else if c == ')' || c == ']' then depth - 1
  else depth

/-- The number of brackets open behind some cells; there is none if a blank outside of brackets
stands among them. -/
def typeDepth? (depth : Nat) : List Cell → Option Nat
  | [] => some depth
  | cell :: rest =>
      if depth == 0 && Text.isBlank cell.visible then none
      else typeDepth? (bracketDepth depth cell.visible) rest

theorem typeDepth?_append (depth : Nat) (front back : List Cell) :
    typeDepth? depth (front ++ back) = (typeDepth? depth front).bind (typeDepth? · back) := by
  induction front generalizing depth with
  | nil => rfl
  | cons cell front ih =>
      rw [List.cons_append, typeDepth?, typeDepth?]
      split
      · rfl
      · exact ih _

theorem typeAndRest_append {depth after : Nat} {front back : List Cell}
    (hfront : typeDepth? depth front = some after)
    (hback : ∀ cell ∈ back.head?, after = 0 ∧ Text.isBlank cell.visible) :
    typeAndRest depth (front ++ back) = (textOf front, textOf back) := by
  induction front generalizing depth with
  | nil =>
      cases hfront
      cases back with
      | nil => rfl
      | cons cell rest =>
          obtain ⟨rfl, hblank⟩ := hback cell rfl
          simp [typeAndRest, hblank]
  | cons cell front ih =>
      rw [typeDepth?] at hfront
      split at hfront
      · cases hfront
      · next hinside =>
          have hrest := ih hfront
          rw [List.cons_append, typeAndRest, if_neg hinside]
          exact congrArg (fun found : Text × Text => (cell.char :: found.1, found.2)) hrest

theorem typeAndRest_sound (depth : Nat) (cells : List Cell) :
    ∃ front back after, cells = front ++ back ∧
      typeAndRest depth cells = (textOf front, textOf back) ∧
      typeDepth? depth front = some after ∧
      ∀ cell ∈ back.head?, after = 0 ∧ Text.isBlank cell.visible := by
  induction cells generalizing depth with
  | nil => exact ⟨[], [], depth, rfl, rfl, rfl, by simp⟩
  | cons cell rest ih =>
      by_cases hends : (depth == 0 && Text.isBlank cell.visible) = true
      · simp only [Bool.and_eq_true, beq_iff_eq] at hends
        refine ⟨[], cell :: rest, depth, rfl, by simp [typeAndRest, hends], rfl, ?_⟩
        rintro other ⟨⟩
        exact hends
      · obtain ⟨front, back, after, rfl, hread, hdepth, hback⟩ :=
          ih (bracketDepth depth cell.visible)
        refine ⟨cell :: front, back, after, rfl, ?_, ?_, hback⟩
        · rw [typeAndRest, if_neg hends]
          exact congrArg (fun found : Text × Text => (cell.char :: found.1, found.2)) hread
        · rw [typeDepth?, if_neg hends, hdepth]

/-- Where no bracket is open, a type ends in a character of the code. -/
theorem typeDepth?_last {depth : Nat} {front : List Cell} {last : Cell}
    (h : typeDepth? depth (front ++ [last]) = some 0) :
    last.region = .code ∧ Text.isBlank last.char = false := by
  have hvisible : Text.isBlank last.visible = false := by
    rw [typeDepth?_append] at h
    obtain ⟨inner, -, hlast⟩ := Option.bind_eq_some_iff.mp h
    rw [typeDepth?] at hlast
    split at hlast
    · cases hlast
    · next hinside =>
        simp only [typeDepth?, Option.some.injEq, bracketDepth] at hlast
        by_cases hinner : inner = 0
        · simpa [hinner] using hinside
        · split at hlast
          · omega
          · split at hlast
            · next hcloses =>
                simp only [Bool.or_eq_true, beq_iff_eq] at hcloses
                rcases hcloses with hcloses | hcloses <;> rw [hcloses] <;> decide
            · omega
  have hregion : last.region = .code := by
    by_contra hregion
    rw [Cell.visible, if_neg hregion] at hvisible
    cases hvisible
  refine ⟨hregion, ?_⟩
  rwa [Cell.visible, if_pos hregion] at hvisible

theorem exists_last_of_typeDepth? {type : Text} (htype : type ≠ [])
    (hdepth : typeDepth? 0 (cells type) = some 0) :
    ∃ front last, cells type = front ++ [last] ∧ last.region = .code := by
  have hne : cells type ≠ [] := by
    intro hempty
    apply htype
    rw [← textOf_cells type, hempty]
    rfl
  obtain ⟨front, last, hcells⟩ := (List.eq_nil_or_concat (cells type)).resolve_left hne
  rw [List.concat_eq_append] at hcells
  rw [hcells] at hdepth
  exact ⟨front, last, hcells, (typeDepth?_last hdepth).1⟩

/-- Blanks between a type and its attributes keep the mode. -/
theorem modeAfter_type_blanks {type attributes blanks : Text} (htype : type ≠ [])
    (hdepth : ∃ after, typeDepth? 0 (cells type) = some after ∧ (attributes ≠ [] → after = 0))
    (hblanks : ∀ c ∈ blanks, Text.isBlank c) (hfeed : '\n' ∉ blanks)
    (hnil : attributes = [] → blanks = []) :
    modeAfter (modeAfter .code type) blanks = modeAfter .code type := by
  by_cases hattributes : attributes = []
  · rw [hnil hattributes]
    rfl
  · refine modeAfter_blanks ?_ hblanks hfeed
    obtain ⟨after, hdepth, hafter⟩ := hdepth
    obtain rfl := hafter hattributes
    obtain ⟨front, last, hcells, hregion⟩ := exists_last_of_typeDepth? htype hdepth
    have hlast : (cellsFrom .code type).getLast? = some last := by
      rw [← cells, hcells]
      simp
    exact modeAfter_ne_escape hlast hregion

/-- The blanks behind a word that is padded: at least one. -/
def padding (width : Nat) (word : Text) : Text :=
  List.replicate (width - word.length) ' ' ++ [' ']

theorem isBlank_padding (width : Nat) (word : Text) : ∀ c ∈ padding width word, Text.isBlank c := by
  intro c hc
  rw [padding, List.mem_append, List.mem_replicate, List.mem_singleton] at hc
  obtain rfl : c = ' ' := hc.elim And.right id
  decide

theorem lineFeed_not_mem_padding (width : Nat) (word : Text) : '\n' ∉ padding width word := by
  simp [padding]

namespace FieldRow

/-- The mode in which attributes are read: a type may end with the quote that opens a string. -/
def attributeMode (row : FieldRow) : Mode :=
  modeAfter .code row.type

structure WellFormed (row : FieldRow) : Prop where
  name : Text.IsName row.name
  type : ∃ first behind, row.type = first :: behind ∧ Text.isBlank first = false
  typeLast : ∀ c ∈ row.type.getLast?, Text.isBlank c = false
  typeDepth : ∃ after,
    typeDepth? 0 (cells row.type) = some after ∧ (row.attributes ≠ [] → after = 0)
  typeCode : NoComment .code row.type
  attributes : Text.trim row.attributes = row.attributes
  attributesCode : NoComment row.attributeMode row.attributes
  comment : Text.trim row.comment = row.comment
  opens : row.comment ≠ [] →
    ['/', '/'] <+: row.comment ∧ modeAfter row.attributeMode row.attributes = .code
  oneLine : '\n' ∉ row.type ∧ '\n' ∉ row.attributes ∧ '\n' ∉ row.comment

def gap (typeWidth : Nat) (row : FieldRow) : Text :=
  if row.attributes = [] then [] else padding typeWidth row.type

def code (typeWidth : Nat) (row : FieldRow) : Text :=
  row.type ++ (row.gap typeWidth ++ row.attributes)

def commentPart (row : FieldRow) : Text :=
  if row.comment = [] then [] else ' ' :: row.comment

def parts (nameWidth typeWidth : Nat) (row : FieldRow) : FieldParts :=
  { indent := indent
    name := row.name
    gap := padding nameWidth row.name
    rest := row.code typeWidth ++ row.commentPart }

def ink (row : FieldRow) : List Cell :=
  Source.ink row.name ++ (Source.ink row.type ++ inkFrom row.attributeMode row.attributes ++
    Source.ink row.comment)

theorem isBlank_gap (typeWidth : Nat) (row : FieldRow) :
    ∀ c ∈ row.gap typeWidth, Text.isBlank c := by
  intro c hc
  unfold gap at hc
  split at hc
  · cases hc
  · exact isBlank_padding _ _ c hc

theorem lineFeed_not_mem_gap (typeWidth : Nat) (row : FieldRow) : '\n' ∉ row.gap typeWidth := by
  unfold gap
  split
  · simp
  · exact lineFeed_not_mem_padding _ _

variable {row : FieldRow} (h : row.WellFormed)

include h

theorem WellFormed.attributeMode_ne_comment : row.attributeMode ≠ .comment :=
  h.typeCode.modeAfter_ne (by decide)

theorem WellFormed.modeAfter_gap (typeWidth : Nat) :
    modeAfter row.attributeMode (row.gap typeWidth) = row.attributeMode := by
  obtain ⟨first, behind, htype, -⟩ := h.type
  exact modeAfter_type_blanks (by simp [htype]) h.typeDepth (row.isBlank_gap typeWidth)
    (row.lineFeed_not_mem_gap typeWidth) fun hnil => by simp [gap, hnil]

theorem WellFormed.cells_code (typeWidth : Nat) :
    cells (row.code typeWidth) = cells row.type ++
      (cellsFrom row.attributeMode (row.gap typeWidth) ++
        cellsFrom row.attributeMode row.attributes) ∧
      modeAfter .code (row.code typeWidth) = modeAfter row.attributeMode row.attributes := by
  have hmode := h.modeAfter_gap typeWidth
  have hjoins : Joins row.type (row.gap typeWidth ++ row.attributes) := by
    refine joins_blanks_append row.type (row.isBlank_gap typeWidth) fun hgap => ?_
    have hnil : row.attributes = [] := by
      by_contra hattributes
      simp [gap, hattributes, padding] at hgap
    rw [hnil]
    exact .of_head _ (by simp)
  have hjoins' := (plain_of_isBlank (row.isBlank_gap typeWidth)).joins row.attributes
  constructor
  · rw [code, cells, cellsFrom_append .code hjoins, cellsFrom_append _ hjoins']
    rw [← attributeMode, hmode]
    rfl
  · rw [code, modeAfter_append .code hjoins, modeAfter_append _ hjoins', ← attributeMode, hmode]

theorem WellFormed.noComment_code (typeWidth : Nat) : NoComment .code (row.code typeWidth) := by
  intro cell hcell
  rw [← cells, (h.cells_code typeWidth).1, List.mem_append, List.mem_append] at hcell
  rcases hcell with hcell | hcell | hcell
  · exact h.typeCode cell hcell
  · exact noComment_blanks h.attributeMode_ne_comment (row.isBlank_gap typeWidth) cell hcell
  · exact h.attributesCode cell hcell

theorem WellFormed.typeAndRest_code (typeWidth : Nat) :
    typeAndRest 0 (cells (row.code typeWidth)) =
      (row.type, row.gap typeWidth ++ row.attributes) := by
  obtain ⟨after, hdepth, hafter⟩ := h.typeDepth
  rw [(h.cells_code typeWidth).1, typeAndRest_append hdepth]
  · simp [textOf_cells]
  · intro cell hcell
    by_cases hattributes : row.attributes = []
    · simp [gap, hattributes] at hcell
    · refine ⟨hafter hattributes, ?_⟩
      have hgap : row.gap typeWidth ≠ [] := by simp [gap, hattributes, padding]
      obtain ⟨c, rest, hcons⟩ := List.exists_cons_of_ne_nil hgap
      have hblanks : ∀ cell ∈ cellsFrom row.attributeMode (row.gap typeWidth),
          Text.isBlank cell.visible :=
        isBlank_of_mem_cellsFrom (row.isBlank_gap typeWidth)
      rw [hcons, cellsFrom_cons] at hcell hblanks
      obtain rfl := Option.some.inj hcell
      exact hblanks _ List.mem_cons_self

theorem WellFormed.trim_code (typeWidth : Nat) :
    Text.trim (row.code typeWidth) = row.code typeWidth := by
  apply Text.trim_of_ends
  · obtain ⟨first, behind, htype, hfirst⟩ := h.type
    rw [code, htype]
    rintro c ⟨⟩
    exact hfirst
  · by_cases hattributes : row.attributes = []
    · rw [code, gap, if_pos hattributes, hattributes, List.append_nil, List.append_nil]
      exact h.typeLast
    · have hlast := Text.trim_getLast? row.attributes
      rw [h.attributes] at hlast
      rwa [code, List.getLast?_append_of_ne_nil _ (by simp [hattributes]),
        List.getLast?_append_of_ne_nil _ hattributes]

theorem WellFormed.codeAndComment_rest (nameWidth typeWidth : Nat) :
    ∃ blanks, (∀ c ∈ blanks, Text.isBlank c) ∧
      codeAndComment (row.parts nameWidth typeWidth).rest =
        (row.code typeWidth ++ blanks, row.comment) := by
  by_cases hcomment : row.comment = []
  · refine ⟨[], by simp, ?_⟩
    have hrest : (row.parts nameWidth typeWidth).rest = row.code typeWidth := by
      simp [parts, commentPart, hcomment]
    rw [hrest, (h.noComment_code typeWidth).codeAndComment, hcomment, List.append_nil]
  · obtain ⟨hopens, hmode⟩ := h.opens hcomment
    have hblank : ∀ c ∈ [' '], Text.isBlank c := List.all_eq_true.mp (by decide)
    refine ⟨[' '], hblank, ?_⟩
    have hrest : (row.parts nameWidth typeWidth).rest =
        (row.code typeWidth ++ [' ']) ++ row.comment := by
      simp [parts, commentPart, hcomment]
    have hjoins : Joins (row.code typeWidth) [' '] := .cons _ (by decide) []
    have hafter : modeAfter .code (row.code typeWidth) = .code := by
      rw [(h.cells_code typeWidth).2, hmode]
    have hsplit : CommentSplit .code (row.code typeWidth ++ [' ']) row.comment := by
      refine ⟨hopens, ?_, ?_, .concat _ (by decide) _⟩
      · rw [cellsFrom_append .code hjoins, hafter]
        intro cell hcell
        rcases List.mem_append.mp hcell with hcell | hcell
        · exact h.noComment_code typeWidth cell hcell
        · exact noComment_blanks (by decide) hblank cell hcell
      · rw [modeAfter_append .code hjoins, hafter]
        rfl
    rw [hrest, hsplit.codeAndComment]

theorem WellFormed.parts_wellFormed (nameWidth typeWidth : Nat) :
    (row.parts nameWidth typeWidth).WellFormed := by
  obtain ⟨first, behind, htype, hfirst⟩ := h.type
  obtain ⟨blanks, -, hread⟩ := h.codeAndComment_rest nameWidth typeWidth
  have hrest : ∃ behind, (row.parts nameWidth typeWidth).rest = first :: behind := by
    rw [parts, code, htype]
    exact ⟨_, rfl⟩
  obtain ⟨rest, hrest⟩ := hrest
  refine ⟨isBlank_indent, h.name, isBlank_padding _ _, by simp [parts, padding],
    ⟨first, rest, hrest, hfirst⟩, ?_, ?_⟩
  · intro hopens
    rw [codeAndComment_comment hopens, code, htype] at hread
    cases hread
  · have hname := h.name.not_mem (Text.isWordChar_of_isBlank (by decide : Text.isBlank '\n'))
    have hgap := row.lineFeed_not_mem_gap typeWidth
    have hpadding := lineFeed_not_mem_padding nameWidth row.name
    have hcomment : '\n' ∉ row.commentPart := by
      unfold commentPart
      split
      · simp
      · simp [h.oneLine.2.2]
    simp [FieldParts.text, parts, code, indent, hname, hgap, hpadding, hcomment, h.oneLine]

theorem WellFormed.ofLine_parts (nameWidth typeWidth : Nat) {line : Line}
    (hline : line.text = (row.parts nameWidth typeWidth).text) :
    line.classify.isField ∧ ofLine line.classify = row := by
  rw [Line.classify_field (h.parts_wellFormed nameWidth typeWidth) hline]
  refine ⟨rfl, ?_⟩
  obtain ⟨blanks, hblanks, hread⟩ := h.codeAndComment_rest nameWidth typeWidth
  simp only [ofLine]
  rw [hread]
  dsimp only
  rw [Text.trim_append_blanks _ hblanks, h.trim_code, h.typeAndRest_code]
  dsimp only
  rw [Text.trim_blanks_append (row.isBlank_gap typeWidth), h.attributes, h.comment]
  rfl

theorem WellFormed.render_eq (nameWidth typeWidth : Nat) :
    render nameWidth typeWidth row = (row.parts nameWidth typeWidth).text := by
  have hlast := Text.trim_getLast? (row.code typeWidth)
  rw [h.trim_code] at hlast
  have hne : row.code typeWidth ≠ [] := by
    obtain ⟨first, behind, htype, -⟩ := h.type
    simp [code, htype]
  let front := indent ++ row.name ++ padding nameWidth row.name
  have htrim : Text.trimEnd (front ++ row.code typeWidth) = front ++ row.code typeWidth := by
    apply Text.trimEnd_of_getLast?
    rwa [List.getLast?_append_of_ne_nil _ hne]
  have hcode : Text.trimEnd (indent ++ Text.padEnd nameWidth row.name ++
      ' ' :: Text.padEnd typeWidth row.type ++ ' ' :: row.attributes) =
        front ++ row.code typeWidth := by
    have hspread : indent ++ Text.padEnd nameWidth row.name ++
        ' ' :: Text.padEnd typeWidth row.type ++ ' ' :: row.attributes =
          front ++ row.type ++ (padding typeWidth row.type ++ row.attributes) := by
      simp [front, Text.padEnd, padding]
    rw [hspread]
    by_cases hattributes : row.attributes = []
    · have hnil : row.code typeWidth = row.type := by simp [code, gap, hattributes]
      rw [hnil] at htrim ⊢
      rw [hattributes, List.append_nil, Text.trimEnd_append_blanks (isBlank_padding _ _), htrim]
    · have hspread' : front ++ row.type ++ (padding typeWidth row.type ++ row.attributes) =
          front ++ row.code typeWidth := by
        simp [code, gap, hattributes]
      rw [hspread', htrim]
  rw [render, hcode]
  by_cases hcomment : row.comment = []
  · simp [hcomment, FieldParts.text, parts, commentPart, front]
  · simp [hcomment, FieldParts.text, parts, commentPart, front]

theorem WellFormed.ink_code (typeWidth : Nat) :
    Source.ink (row.code typeWidth) =
      Source.ink row.type ++ inkFrom row.attributeMode row.attributes := by
  have hgap := inkFrom_blanks row.attributeMode (row.isBlank_gap typeWidth)
  rw [inkFrom] at hgap
  rw [Source.ink, inkFrom, ← cells, (h.cells_code typeWidth).1, List.filter_append,
    List.filter_append, hgap]
  rfl

theorem WellFormed.ink_parts (nameWidth typeWidth : Nat) :
    Source.ink (row.parts nameWidth typeWidth).text = row.ink := by
  rw [(h.parts_wellFormed nameWidth typeWidth).ink]
  have hjoins : Joins (row.code typeWidth) row.commentPart := by
    unfold commentPart
    split
    · exact .of_head _ (by simp)
    · exact .cons _ (by decide) _
  have hcomment : inkFrom (modeAfter .code (row.code typeWidth)) row.commentPart =
      Source.ink row.comment := by
    by_cases hcomment : row.comment = []
    · rw [commentPart, if_pos hcomment, hcomment]
      rfl
    · rw [commentPart, if_neg hcomment, (h.cells_code typeWidth).2, (h.opens hcomment).2]
      have hblank : ∀ c ∈ [' '], Text.isBlank c := List.all_eq_true.mp (by decide)
      exact ink_blanks_append hblank row.comment
  have hrest : Source.ink (row.code typeWidth ++ row.commentPart) =
      Source.ink (row.code typeWidth) ++ Source.ink row.comment := by
    rw [Source.ink, inkFrom_append .code hjoins, hcomment]
    rfl
  rw [ink, ← h.ink_code typeWidth, ← hrest]
  rfl

theorem WellFormed.getLast?_parts (nameWidth typeWidth : Nat) :
    ∀ c ∈ (row.parts nameWidth typeWidth).text.getLast?, Text.isBlank c = false := by
  obtain ⟨first, behind, htype, -⟩ := h.type
  by_cases hcomment : row.comment = []
  · have hlast := Text.trim_getLast? (row.code typeWidth)
    rw [h.trim_code] at hlast
    rwa [FieldParts.text, parts, commentPart, if_pos hcomment, List.append_nil,
      List.getLast?_append_of_ne_nil _ (by simp [code, htype])]
  · have hlast := Text.trim_getLast? row.comment
    rw [h.comment] at hlast
    have hspread : (row.parts nameWidth typeWidth).text =
        indent ++ row.name ++ padding nameWidth row.name ++ row.code typeWidth ++ [' '] ++
          row.comment := by
      simp [FieldParts.text, parts, commentPart, hcomment]
    rwa [hspread, List.getLast?_append_of_ne_nil _ hcomment]

end FieldRow

structure CodeColumns (code type gap attributes : Text) : Prop where
  eq_append : code = type ++ (gap ++ attributes)
  read : typeAndRest 0 (cells code) = (type, gap ++ attributes)
  type_head : ∃ first behind, type = first :: behind ∧ Text.isBlank first = false
  type_last : ∀ c ∈ type.getLast?, Text.isBlank c = false
  type_depth : ∃ after, typeDepth? 0 (cells type) = some after ∧ (attributes ≠ [] → after = 0)
  gap_blank : ∀ c ∈ gap, Text.isBlank c
  gap_nil : attributes = [] → gap = []
  trimmed : Text.trim (gap ++ attributes) = attributes

theorem getLast?_right {front back : Text}
    (h : ∀ c ∈ (front ++ back).getLast?, Text.isBlank c = false) :
    ∀ c ∈ back.getLast?, Text.isBlank c = false := by
  cases back with
  | nil => simp
  | cons d back => rwa [List.getLast?_append_of_ne_nil _ (List.cons_ne_nil d back)] at h

theorem exists_codeColumns {first : Char} {behind : Text}
    (hcode : NoComment .code (first :: behind)) (hfirst : Text.isBlank first = false)
    (hlast : ∀ c ∈ (first :: behind).getLast?, Text.isBlank c = false) :
    ∃ type gap attributes, CodeColumns (first :: behind) type gap attributes := by
  obtain ⟨front, back, after, hcells, hread, hdepth, hback⟩ :=
    typeAndRest_sound 0 (cells (first :: behind))
  have htext : first :: behind = textOf front ++ textOf back := by
    rw [← textOf_append, ← hcells, textOf_cells]
  have hfront : front = cells (textOf front) := by
    have happend := hcode
    rw [htext] at happend
    have hsplit := happend.append.1
    rw [← htext, ← cells, hcells] at hsplit
    exact (List.append_inj hsplit (by simp)).1
  -- The first character is code, so it belongs to the type.
  obtain ⟨rest, hshown⟩ : ∃ rest, cells (first :: behind) = ⟨first, .code⟩ :: rest := by
    have hregion : (Mode.code.step first behind.head?).1 = .code := by
      by_cases hquote : first = '"'
      · rw [hquote]
        rfl
      · rw [Mode.step_code hquote]
        rintro rfl hnext
        have hopens := hcode _ List.mem_cons_self
        rw [hnext] at hopens
        exact hopens rfl
    exact ⟨_, by rw [cells, cellsFrom_cons, hregion]⟩
  obtain ⟨tail, htail⟩ : ∃ tail, front = ⟨first, .code⟩ :: tail := by
    rw [hshown] at hcells
    cases front with
    | nil =>
        rw [List.nil_append] at hcells
        have hblank : Text.isBlank first := (hback ⟨first, .code⟩ (by rw [← hcells]; rfl)).2
        simp [hfirst] at hblank
    | cons cell tail => exact ⟨tail, by rw [(List.cons.inj hcells).1]⟩
  have hbackLast : ∀ c ∈ (textOf back).getLast?, Text.isBlank c = false := by
    rw [htext] at hlast
    exact getLast?_right hlast
  have hsplit := Text.leadingBlanks_append_trimStart (textOf back)
  have hafter : back ≠ [] → after = 0 := by
    intro hne
    obtain ⟨cell, others, rfl⟩ := List.exists_cons_of_ne_nil hne
    exact (hback cell rfl).1
  refine ⟨textOf front, Text.leadingBlanks (textOf back), Text.trimStart (textOf back), ?_⟩
  exact
    { eq_append := by rw [hsplit, htext]
      read := by rw [hread, hsplit]
      type_head := ⟨first, textOf tail, by rw [htail, textOf_cons], hfirst⟩
      type_last := by
        by_cases hnil : back = []
        · rwa [htext, hnil, textOf_nil, List.append_nil] at hlast
        · rw [hafter hnil] at hdepth
          obtain ⟨inner, last, hinner⟩ :=
            (List.eq_nil_or_concat front).resolve_left (by simp [htail])
          rw [List.concat_eq_append] at hinner
          rw [hinner] at hdepth ⊢
          intro c hc
          obtain rfl : last.char = c := by simpa using hc
          exact (typeDepth?_last hdepth).2
      type_depth := by
        refine ⟨after, by rw [← hfront, hdepth], fun hne => hafter ?_⟩
        rintro rfl
        exact hne rfl
      gap_blank := Text.isBlank_leadingBlanks _
      gap_nil := by
        intro hnil
        rw [hnil, List.append_nil] at hsplit
        by_contra hne
        obtain ⟨inner, last, hinner⟩ := (List.eq_nil_or_concat _).resolve_left hne
        rw [List.concat_eq_append] at hinner
        have hlastBlank : Text.isBlank last :=
          Text.isBlank_leadingBlanks _ _ (by rw [hinner]; simp)
        have hlastInk := hbackLast last (by rw [← hsplit, hinner]; simp)
        simp [hlastInk] at hlastBlank
      trimmed := by
        rw [← hsplit] at hbackLast
        rw [hsplit, Text.trim, Text.trimEnd_of_getLast? (getLast?_right hbackLast)] }

theorem CodeColumns.oneLine {code type gap attributes : Text}
    (h : CodeColumns code type gap attributes) (hfeed : '\n' ∉ code) :
    '\n' ∉ type ∧ '\n' ∉ gap ∧ '\n' ∉ attributes := by
  rw [h.eq_append] at hfeed
  simpa using hfeed

theorem CodeColumns.modeAfter_gap {code type gap attributes : Text}
    (h : CodeColumns code type gap attributes) (hfeed : '\n' ∉ code) :
    modeAfter (modeAfter .code type) gap = modeAfter .code type := by
  obtain ⟨first, behind, htype, -⟩ := h.type_head
  exact modeAfter_type_blanks (by simp [htype]) h.type_depth h.gap_blank (h.oneLine hfeed).2.1
    h.gap_nil

theorem CodeColumns.ink {code type gap attributes : Text}
    (h : CodeColumns code type gap attributes) (hfeed : '\n' ∉ code)
    (hcode : NoComment .code code) :
    Source.ink code = Source.ink type ++ inkFrom (modeAfter .code type) attributes := by
  rw [h.eq_append] at hcode
  rw [h.eq_append, Source.ink, hcode.inkFrom_append, hcode.right.inkFrom_append,
    inkFrom_blanks _ h.gap_blank, h.modeAfter_gap hfeed]
  rfl

theorem trim_comment {comment : Text} (h : ['/', '/'] <+: comment) :
    ['/', '/'] <+: Text.trim comment := by
  have hstart : Text.trimStart comment = comment := by
    obtain ⟨tail, rfl⟩ := h
    apply Text.trimStart_of_head?
    rintro c ⟨⟩
    decide
  rwa [Text.trim, hstart, Text.isPrefix_trimEnd Text.isBlank_slashes]

theorem CodeColumns.wellFormed {text code blanks comment type gap attributes : Text}
    (h : CodeColumns code type gap attributes) (hsplit : CodeSplit text code blanks comment)
    (hfeed : '\n' ∉ text) {name : Text} (hname : Text.IsName name) :
    FieldRow.WellFormed ⟨name, type, attributes, Text.trim comment⟩ := by
  have htext : '\n' ∉ code ∧ '\n' ∉ comment := by
    rw [hsplit.eq_append] at hfeed
    simp only [List.mem_append, not_or] at hfeed
    exact ⟨hfeed.1.1, hfeed.2⟩
  have hcut := hsplit.noComment
  rw [h.eq_append] at hcut
  have hattributes := hcut.right.right
  rw [h.modeAfter_gap htext.1] at hattributes
  refine
    { name := hname
      type := h.type_head
      typeLast := h.type_last
      typeDepth := h.type_depth
      typeCode := hcut.left
      attributes := by
        rw [← h.trimmed]
        exact Text.trim_trim _
      attributesCode := hattributes
      comment := Text.trim_trim comment
      opens := ?_
      oneLine := ?_ }
  · intro hne
    have hcomment : comment ≠ [] := by
      rintro rfl
      exact hne rfl
    refine ⟨trim_comment (hsplit.comment_opens.resolve_left hcomment), ?_⟩
    have hmode := hsplit.code_mode hfeed hcomment
    rw [h.eq_append, hcut.append.2, hcut.right.append.2, h.modeAfter_gap htext.1] at hmode
    exact hmode
  · obtain ⟨htype, -, hattributesLine⟩ := h.oneLine htext.1
    exact ⟨htype, hattributesLine, fun hmem => htext.2 (Text.trim_subset comment hmem)⟩

/-- The columns that are read from a line, and where they stand in it. -/
theorem FieldRow.exists_columns {parts : FieldParts} (hparts : parts.WellFormed) {line : Line}
    (hline : line.text = parts.text) :
    ∃ code blanks comment type gap attributes, CodeSplit parts.rest code blanks comment ∧
      '\n' ∉ code ∧ CodeColumns code type gap attributes ∧
      ofLine line.classify = ⟨parts.name, type, attributes, Text.trim comment⟩ := by
  obtain ⟨code, blanks, comment, hsplit⟩ := exists_codeSplit parts.rest
  obtain ⟨first, behind, hrest, hfirst⟩ := hparts.rest
  obtain ⟨tail, rfl⟩ : ∃ tail, code = first :: tail := by
    rw [hrest] at hsplit
    exact hsplit.code_cons hfirst (by rw [← hrest]; exact hparts.noComment)
  have hcode : '\n' ∉ first :: tail := by
    intro hmem
    apply hparts.lineFeed_not_mem_rest
    rw [hsplit.eq_append]
    simp only [List.mem_append, hmem, true_or]
  obtain ⟨type, gap, attributes, hcolumns⟩ := exists_codeColumns hsplit.noComment hfirst hsplit.code
  refine ⟨first :: tail, blanks, comment, type, gap, attributes, hsplit, hcode, hcolumns, ?_⟩
  have htrim : Text.trim (first :: tail ++ blanks) = first :: tail := by
    rw [Text.trim_append_blanks _ hsplit.blanks,
      Text.trim_of_ends (by simpa using hfirst) hsplit.code]
  rw [Line.classify_field hparts hline]
  simp only [ofLine]
  rw [hsplit.split]
  dsimp only
  rw [htrim, hcolumns.read]
  dsimp only
  rw [hcolumns.trimmed]
  rfl

theorem FieldRow.ofLine_wellFormed {parts : FieldParts} (hparts : parts.WellFormed) {line : Line}
    (hline : line.text = parts.text) :
    (ofLine line.classify).WellFormed ∧ (ofLine line.classify).ink = Source.ink line.text := by
  obtain ⟨code, blanks, comment, type, gap, attributes, hsplit, hcode, hcolumns, hrow⟩ :=
    exists_columns hparts hline
  rw [hrow]
  refine ⟨hcolumns.wellFormed hsplit hparts.lineFeed_not_mem_rest hparts.name, ?_⟩
  rw [hline, hparts.ink, ink_codeAndComment parts.rest, hsplit.split, ← linewise_ink.trim comment]
  dsimp only
  rw [ink_append_blanks _ hsplit.blanks, hcolumns.ink hcode hsplit.noComment]
  rfl

namespace Setting

/-- A setting as it is read from a line. -/
structure WellFormed (setting : Setting) : Prop where
  key : Text.IsName setting.key
  value : Text.trim setting.value = setting.value
  noComment : NoComment .code setting.value
  oneLine : '\n' ∉ setting.value

def ink (setting : Setting) : List Cell :=
  Source.ink setting.key ++ (Source.ink ['='] ++ Source.ink setting.value)

structure Spells (text front gap behind : Text) (setting : Setting) : Prop where
  text : text = front ++ (setting.key ++ (gap ++ '=' :: behind))
  front : ∀ c ∈ front, Text.isBlank c
  key : Text.IsName setting.key
  gap : ∀ c ∈ gap, Text.isBlank c
  value : Text.trim behind = setting.value

variable {text front gap behind : Text} {setting : Setting}

theorem plain_equals : Plain ['='] := by
  intro c hc
  rw [List.mem_singleton.mp hc]
  decide

theorem Spells.exists_plain (h : Spells text front gap behind setting) :
    ∃ before, Plain before ∧ text = before ++ behind := by
  refine ⟨front ++ (setting.key ++ (gap ++ ['='])), ?_, by simp [h.text]⟩
  exact (plain_of_isBlank h.front).append ((plain_of_isName h.key).append
    ((plain_of_isBlank h.gap).append plain_equals))

theorem Spells.noComment_iff (h : Spells text front gap behind setting) :
    NoComment .code text ↔ NoComment .code behind := by
  obtain ⟨before, hplain, rfl⟩ := h.exists_plain
  refine ⟨fun hnone => ?_, hplain.noComment_append⟩
  have hbehind := hnone.right
  rwa [hplain.modeAfter] at hbehind

theorem Spells.ink (h : Spells text front gap behind setting) : Source.ink text = setting.ink := by
  have hequals : Source.ink ('=' :: behind) = Source.ink ['='] ++ Source.ink behind :=
    ink_plain_append plain_equals behind
  rw [h.text, ink_blanks_append h.front, ink_plain_append (plain_of_isName h.key),
    ink_blanks_append h.gap, hequals, ← linewise_ink.trim behind, h.value]
  rfl

theorem Spells.key_head? (h : Spells text front gap behind setting) (back : Text) :
    ∀ c ∈ (setting.key ++ back).head?, Text.isBlank c = false := by
  obtain ⟨first, hfirst, hword⟩ := h.key.head? back
  rw [hfirst]
  rintro c ⟨⟩
  exact Text.isBlank_of_isWordChar hword

theorem Spells.trim (h : Spells text front gap behind setting) :
    Text.trim text = setting.key ++ (gap ++ '=' :: Text.trimEnd behind) := by
  have hequals : Text.trimEnd ('=' :: behind) = '=' :: Text.trimEnd behind :=
    Text.trimEnd_cons (by decide) behind
  rw [h.text, Text.trim_blanks_append h.front, Text.trim, Text.trimStart_of_head? (h.key_head? _),
    ← List.append_assoc, Text.trimEnd_append _ (by simp [hequals]), hequals, List.append_assoc]

theorem Spells.read?_eq (h : Spells text front gap behind setting) :
    read? text = some setting := by
  have hgap : ∀ c ∈ (gap ++ '=' :: behind).head?, Text.isWordChar c = false := by
    cases gap with
    | nil =>
        rintro c ⟨⟩
        decide +kernel
    | cons d gap =>
        rintro c ⟨⟩
        exact Text.isWordChar_of_isBlank (h.gap d List.mem_cons_self)
  have hequals : ∀ c ∈ ('=' :: behind).head?, Text.isBlank c = false := by
    rintro c ⟨⟩
    decide
  rw [h.text, read?, Text.trimStart_run h.front (h.key_head? _), Text.readName?_append h.key hgap]
  simp only [Option.bind_eq_bind, Option.bind_some]
  rw [Text.trimStart_run h.gap hequals]
  simp only [beq_self_eq_true, if_true, h.value]

theorem exists_spells (h : read? text = some setting) :
    ∃ front gap behind, Spells text front gap behind setting := by
  obtain ⟨⟨key, afterKey⟩, hkey, h⟩ := Option.bind_eq_some_iff.mp h
  obtain ⟨hsplit, hname, -⟩ := Text.readName?_sound hkey
  dsimp only at h
  cases hbehind : Text.trimStart afterKey with
  | nil =>
      rw [hbehind] at h
      cases h
  | cons c behind =>
      rw [hbehind] at h
      dsimp only at h
      split at h
      · next hequals =>
          cases h
          refine ⟨Text.leadingBlanks text, Text.leadingBlanks afterKey, behind,
            ⟨?_, Text.isBlank_leadingBlanks _, hname,
              Text.isBlank_leadingBlanks _, rfl⟩⟩
          have hafter := Text.leadingBlanks_append_trimStart afterKey
          rw [hbehind, beq_iff_eq.mp hequals] at hafter
          calc text = Text.leadingBlanks text ++ (key ++ afterKey) := by
                rw [← hsplit, Text.leadingBlanks_append_trimStart]
            _ = Text.leadingBlanks text ++
                (key ++ (Text.leadingBlanks afterKey ++ '=' :: behind)) := by rw [hafter]
      · cases h

theorem ofLine?_eq_some_iff {line : Line} :
    ofLine? line = some setting ↔ NoComment .code line.text ∧ read? line.text = some setting := by
  rw [← codeAndComment_eq_nil_iff, ofLine?]
  split
  · next hnil => simp [List.isEmpty_iff.mp hnil]
  · next hcomment =>
      have hne : (codeAndComment line.text).2 ≠ [] := by simpa using hcomment
      simp [hne]

theorem ofLine?_wellFormed {line : Line} (hfeed : '\n' ∉ line.text)
    (h : ofLine? line = some setting) :
    setting.WellFormed ∧ setting.ink = Source.ink line.text := by
  obtain ⟨hcomment, hread⟩ := ofLine?_eq_some_iff.mp h
  obtain ⟨front, gap, behind, hspells⟩ := exists_spells hread
  have hvalue : NoComment .code setting.value := by
    rw [← hspells.value, ← noComment_iff_trim]
    exact hspells.noComment_iff.mp hcomment
  refine ⟨⟨hspells.key, ?_, hvalue, ?_⟩, hspells.ink.symm⟩
  · rw [← hspells.value, Text.trim_trim]
  · intro hmem
    rw [← hspells.value] at hmem
    rw [hspells.text] at hfeed
    simp [Text.trim_subset behind hmem] at hfeed

/-- A setting is read without the blanks at the ends of its line. -/
theorem ofLine?_of_trim {line other : Line} (h : ofLine? line = some setting)
    (htrim : Text.trim other.text = Text.trim line.text) : ofLine? other = some setting := by
  obtain ⟨hcomment, hread⟩ := ofLine?_eq_some_iff.mp h
  obtain ⟨front, gap, behind, hspells⟩ := exists_spells hread
  obtain ⟨before, after, hother, hbefore, hafter⟩ := Text.exists_trim other.text
  have hspells' : Spells other.text before gap (Text.trimEnd behind ++ after) setting := by
    refine ⟨?_, hbefore, hspells.key, hspells.gap, ?_⟩
    · rw [hother, htrim, hspells.trim]
      simp
    · rw [Text.trim_append_blanks _ hafter, Text.trim_trimEnd, hspells.value]
  rw [ofLine?_eq_some_iff]
  refine ⟨?_, hspells'.read?_eq⟩
  rwa [noComment_iff_trim, htrim, ← noComment_iff_trim]

variable (h : setting.WellFormed)

include h

theorem WellFormed.spells (keyWidth : Nat) :
    Spells (render keyWidth setting) indent (padding keyWidth setting.key) (' ' :: setting.value)
      setting := by
  have hblank : ∀ c ∈ [' '], Text.isBlank c := List.all_eq_true.mp (by decide)
  exact ⟨by simp [render, Text.padEnd, padding], isBlank_indent, h.key, isBlank_padding _ _,
    (Text.trim_blanks_append hblank setting.value).trans h.value⟩

theorem WellFormed.ofLine?_render {keyWidth : Nat} {line : Line}
    (hline : line.text = render keyWidth setting) : ofLine? line = some setting := by
  have hspells := h.spells keyWidth
  rw [ofLine?_eq_some_iff, hline, hspells.noComment_iff]
  have hspace : Plain [' '] := by decide
  exact ⟨hspace.noComment_append h.noComment, hspells.read?_eq⟩

theorem WellFormed.oneLine_render (keyWidth : Nat) : '\n' ∉ render keyWidth setting := by
  have hkey := h.key.not_mem (Text.isWordChar_of_isBlank (by decide : Text.isBlank '\n'))
  have hpadding := lineFeed_not_mem_padding keyWidth setting.key
  rw [(h.spells keyWidth).text]
  simp [indent, hkey, hpadding, h.oneLine]

theorem WellFormed.getLast?_render (keyWidth : Nat) :
    (render keyWidth setting).getLast? ≠ some '\r' := by
  have hend : render keyWidth setting =
      (indent ++ (setting.key ++ (padding keyWidth setting.key ++ ['=']))) ++
        ' ' :: setting.value := by
    rw [(h.spells keyWidth).text]
    simp
  rw [hend, List.getLast?_append_of_ne_nil _ (List.cons_ne_nil _ _)]
  by_cases hvalue : setting.value = []
  · rw [hvalue]
    decide
  · have hlast := Text.trim_getLast? setting.value
    rw [h.value] at hlast
    rw [List.getLast?_cons, List.getLast?_eq_some_getLast hvalue]
    intro hreturn
    have hblank := hlast '\r' (by rw [List.getLast?_eq_some_getLast hvalue]; exact hreturn)
    revert hblank
    decide

end Setting

end Layout

end SchemaCase
