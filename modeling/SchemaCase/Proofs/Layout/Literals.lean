import SchemaCase.Proofs.Layout.Preservation
import SchemaCase.Proofs.Source.Literals

/-! The string literals of a layout. They are those of its text, but for the blanks in front of one
that stands right behind the type of a field: its opening quote is taken for the end of the type,
and its contents for attributes. -/

namespace SchemaCase.Layout

open Source

theorem linewise_literals : Linewise literals :=
  ⟨rfl, fun h => literals_plain_append (plain_of_isBlank h), literals_append_blanks,
    literals_lineFeed⟩

namespace FieldRow

def literals (gap : Text) (row : FieldRow) : List Text :=
  Source.literals row.type ++
    literalsFrom (if row.attributeMode.isOpen then some gap else none)
      (cellsFrom row.attributeMode row.attributes)

/-- The type ends in a literal that is closed among the attributes. -/
def splitsLiteral (row : FieldRow) : Bool :=
  row.attributeMode.isOpen &&
    (cellsFrom row.attributeMode row.attributes).any fun cell => cell.visible == '"'

/-- The blanks behind the type do not show in the literals, as `change` leaves these. -/
def GapFree (change : Text → Text) (row : FieldRow) : Prop :=
  ∀ gap other : Text, (∀ c ∈ gap, Text.isBlank c) → (∀ c ∈ other, Text.isBlank c) →
    (row.literals gap).map change = (row.literals other).map change

theorem gapFree_trimStart (row : FieldRow) : row.GapFree Text.trimStart := by
  intro gap other hgap hother
  unfold literals
  rw [List.map_append, List.map_append]
  congr 1
  split
  · apply map_trimStart_literalsFrom
    rw [Text.trimStart, Text.trimStart, List.dropWhile_eq_nil_iff.mpr hgap,
      List.dropWhile_eq_nil_iff.mpr hother]
  · rfl

theorem gapFree_id {row : FieldRow} (h : row.splitsLiteral = false) : row.GapFree id := by
  intro gap other _ _
  unfold literals
  by_cases hopen : row.attributeMode.isOpen
  · have hquote : ∀ cell ∈ cellsFrom row.attributeMode row.attributes, cell.visible ≠ '"' := by
      simpa [splitsLiteral, hopen] using h
    rw [literalsFrom_eq_nil hquote, literalsFrom_eq_nil hquote]
  · rw [if_neg hopen, if_neg hopen]

end FieldRow

section

variable {code type gap attributes : Text} (h : CodeColumns code type gap attributes)
  (hfeed : '\n' ∉ code)

include h hfeed

/-- Only a quote at the end of a type can leave a literal open, so that nothing but blanks is read
of it in front of the attributes. -/
theorem CodeColumns.literalAfter_gap (hattributes : attributes ≠ []) :
    literalAfter (literalAfter none (cells type)) (cellsFrom (modeAfter .code type) gap) =
      if (modeAfter .code type).isOpen then some gap else none := by
  split
  · next hopen =>
      obtain ⟨first, behind, htype, -⟩ := h.type_head
      obtain ⟨after, hdepth, hafter⟩ := h.type_depth
      obtain rfl := hafter hattributes
      obtain ⟨front, last, hcells, hregion⟩ := exists_last_of_typeDepth? (by simp [htype]) hdepth
      have hstart : literalAfter none (cells type) = some [] := by
        have hsome : (literalAfter none (cells type)).isSome = (modeAfter .code type).isOpen :=
          isSome_literalAfter rfl type
        rw [hopen] at hsome
        rw [hcells, literalAfter_append] at hsome ⊢
        rcases nextLiteral_code hregion (literalAfter none front) with hnone | hnil
        · rw [literalAfter, List.foldl_cons, hnone] at hsome
          cases hsome
        · exact hnil
      have hstring : modeAfter .code type = .string := by
        have hescape : modeAfter .code type ≠ .escape := by
          apply modeAfter_ne_escape _ hregion
          rw [← cells, hcells, List.getLast?_concat]
        revert hopen hescape
        cases modeAfter .code type <;> decide
      rw [hstart, hstring, literalAfter_blanks [] h.gap_blank (h.oneLine hfeed).2.1]
      rfl
  · next hclosed =>
      rw [literalAfter_of_closed (by simpa using hclosed)]
      exact literalAfter_none
        (visible_ne_quote fun hmem => (plain_of_isBlank h.gap_blank '"' hmem).1 rfl)

theorem CodeColumns.literals (hcode : NoComment .code code) (name comment : Text) :
    Source.literals code = FieldRow.literals gap ⟨name, type, attributes, comment⟩ := by
  have hcells : cells code = cells type ++
      (cellsFrom (modeAfter .code type) gap ++ cellsFrom (modeAfter .code type) attributes) := by
    rw [h.eq_append] at hcode
    rw [h.eq_append, cells, hcode.append.1, hcode.right.append.1, h.modeAfter_gap hfeed]
    rfl
  have hquote : ∀ cell ∈ cellsFrom (modeAfter .code type) gap, cell.visible ≠ '"' :=
    visible_ne_quote fun hmem => (plain_of_isBlank h.gap_blank '"' hmem).1 rfl
  have hgap := literalsFrom_eq_nil hquote
  rw [Source.literals, hcells, literalsFrom_append, literalsFrom_append, hgap, List.nil_append]
  by_cases hattributes : attributes = []
  · rw [hattributes]
    rfl
  · rw [h.literalAfter_gap hfeed hattributes]
    rfl

end

theorem exists_literals_of_fieldRow? (line : Line) {row : FieldRow}
    (hfeed : '\n' ∉ line.text) (h : fieldRow? line = some row) :
    ∃ gap, (∀ c ∈ gap, Text.isBlank c) ∧ literals line.text = row.literals gap := by
  obtain ⟨parts, hparts, htext, rfl⟩ := exists_parts_of_fieldRow? hfeed h
  obtain ⟨code, blanks, comment, type, gap, attributes, hsplit, hcode, hcolumns, hrow⟩ :=
    FieldRow.exists_columns hparts htext
  refine ⟨gap, hcolumns.gap_blank, ?_⟩
  have hfront : Plain (parts.indent ++ parts.name ++ parts.gap) :=
    ((plain_of_isBlank hparts.indent).append (plain_of_isName hparts.name)).append
      (plain_of_isBlank hparts.gap)
  have hrest : literals parts.rest = literals code := by
    rw [hsplit.eq_append, List.append_assoc]
    apply literals_append_unquoted hsplit.joins
    intro cell hcell hquote
    have hblank := hsplit.behind_blank hparts.lineFeed_not_mem_rest cell hcell
    rw [hquote] at hblank
    revert hblank
    decide
  rw [hrow, htext, FieldParts.text, literals_plain_append hfront, hrest,
    ← hcolumns.literals hcode hsplit.noComment]

theorem Setting.literals_of_read? {text : Text} {setting : Setting}
    (h : settingStyle.read? text = some setting) : literals text = literals setting.value := by
  obtain ⟨front, gap, behind, hspells⟩ := exists_spells (ofLine?_eq_some_iff.mp h).2
  obtain ⟨before, hplain, rfl⟩ := hspells.exists_plain
  rw [literals_plain_append hplain, ← hspells.value, linewise_literals.trim]

theorem settingStyle_keeps_literals (change : Text → Text) (texts : List Text) :
    settingStyle.Keeps (fun text => (literals text).map change) texts := by
  intro before _ after h
  apply congrArg (List.map change)
  cases hread : settingStyle.read? before with
  | none => rw [h.plain hread, linewise_literals.plainLine]
  | some setting =>
      rw [Setting.literals_of_read? hread, Setting.literals_of_read? (h.read?.trans hread)]

theorem fieldStyle_keeps_literals {change : Text → Text} {texts : List Text}
    (hfeed : ∀ text ∈ texts, '\n' ∉ text)
    (hrows : ∀ text ∈ texts, ∀ row ∈ fieldRow? { text }, row.GapFree change) :
    fieldStyle.Keeps (fun text => (literals text).map change) texts := by
  intro before hbefore after h
  dsimp only
  cases hread : fieldStyle.read? before with
  | none => rw [h.plain hread, linewise_literals.plainLine]
  | some row =>
      -- Both lines are read as one row, each with its own blanks behind the type.
      obtain ⟨gap, hgap, hliterals⟩ :=
        exists_literals_of_fieldRow? { text := before } (hfeed before hbefore) hread
      obtain ⟨other, hother, hafter⟩ :=
        exists_literals_of_fieldRow? { text := after } h.shown.oneLine (h.read?.trans hread)
      rw [hliterals, hafter]
      exact hrows before hbefore row hread other gap hother hgap

theorem Section.literals_bodyTexts {change : Text → Text} (part : Section)
    (hrows : ¬part.kind.isSettings →
      ∀ text ∈ part.lineTexts, ∀ row ∈ fieldRow? { text }, row.GapFree change) :
    (part.bodyTexts.flatMap literals).map change = (literals part.body).map change := by
  have hbody : part.lineTexts.flatMap literals = literals part.body :=
    linewise_literals.ofBody part.body
  rw [← hbody, List.map_flatMap, List.map_flatMap]
  exact flatMap_settledLines part.kind part.lineTexts_oneLine rfl
    (fun _ => settingStyle_keeps_literals change _)
    fun hkind => fieldStyle_keeps_literals part.lineTexts_oneLine (hrows hkind)

theorem Section.literals_layout {part : Section} (h : part.header.WellFormed) :
    part.layout.flatMap literals = part.bodyTexts.flatMap literals ++ literals part.behind := by
  have hheader : Plain part.headerText := by
    have hspace : Plain [' '] := by decide
    have hbrace : Plain [' ', '\x7b'] := by decide
    have hplain := ((plain_of_isName h.keyword).append hspace).append
      ((plain_of_isName h.name).append hbrace)
    simpa [Section.headerText] using hplain
  have hclosing : literals part.closingText = literals (trailText part.behind) :=
    literals_plain_append (by decide : Plain ['\x7d']) _
  rw [Section.layout, Section.blockLines, List.flatMap_append, List.flatMap_append,
    List.flatMap_cons, List.flatMap_singleton, literals_plain hheader, hclosing, List.nil_append,
    List.append_assoc, linewise_literals.behind part rfl]

theorem Outline.WellFormed.literals_layout {outline : Outline} (h : outline.WellFormed) :
    outline.layout.flatMap literals = literals outline.lead ++ outline.sections.flatMap fun part =>
      part.bodyTexts.flatMap literals ++ literals part.behind := by
  rw [Outline.layout_eq, List.flatMap_append, linewise_literals.settledLead,
    flatMap_congr_filter rfl (filter_rdropWhile _), List.flatMap_assoc]
  exact congrArg _ (List.flatMap_congr fun part hpart =>
    Section.literals_layout (h.sections part hpart).header)

def pieceLiterals : Piece → List Text
  | .passthrough text => literals text
  | .block _ body => literals body

theorem literals_pieces {before : Text} {pieces : List Piece} (h : Arranged before pieces) :
    literals (pieces.flatMap Piece.render) = pieces.flatMap pieceLiterals := by
  induction h with
  | nil => rfl
  | @passthrough before text pieces nonempty noBrace separate tail ih =>
      rw [List.flatMap_cons, List.flatMap_cons, ← ih]
      rcases tail.startsLine separate with rfl | hstart
      · simp [Piece.render, pieceLiterals, literals, cells, literalsFrom]
      · -- A block starts its line, so no literal is open in front of it.
        obtain ⟨hmode, hjoins⟩ := modeAfter_of_startsLine nonempty hstart
        exact literals_append (hjoins _) hmode
  | @block before header body pieces lineStart wellFormed balanced closed tail ih =>
      have hclosing : literals ('\x7d' :: pieces.flatMap Piece.render) =
          literals (pieces.flatMap Piece.render) :=
        literals_plain_append (by decide : Plain ['\x7d']) _
      rw [List.flatMap_cons, List.flatMap_cons, ← ih, ← hclosing, Piece.render, List.append_assoc,
        List.append_assoc, literals_plain_append wellFormed.plain_render]
      exact literals_append (.cons body (by decide) _) closed

theorem Outline.literals_pieces (outline : Outline) (h : Arranged [] outline.pieces) :
    literals (outline.pieces.flatMap Piece.render) =
      literals outline.lead ++ outline.sections.flatMap fun part =>
        literals part.body ++ literals part.behind := by
  have hgap : ∀ text, (gapPieces text).flatMap pieceLiterals = literals text := by
    intro text
    unfold gapPieces
    split
    · next hnil =>
        rw [hnil]
        rfl
    · exact List.append_nil _
  rw [Layout.literals_pieces h, Outline.pieces, List.flatMap_append, hgap, List.flatMap_assoc]
  refine congrArg _ (List.flatMap_congr fun part _ => ?_)
  rw [Section.pieces, List.flatMap_cons, hgap]
  rfl

theorem literals_format (change : Text → Text) {text out : Text} {document : Document}
    (hsource : source text = .ok document) (hout : format text = .ok out)
    (hrows : ∀ block ∈ document.blocks, ¬block.kind.isSettings →
      ∀ line ∈ block.lines, ∀ row ∈ fieldRow? line, row.GapFree change) :
    (literals out).map change = (literals text).map change := by
  obtain ⟨outline, houtline, hpieces, htext, rfl⟩ := exists_outline_of_source hsource
  obtain ⟨hsplit, hmark⟩ := splitByteOrderMark_eq text
  have hplain : Plain (splitByteOrderMark text).1 := by
    rcases hmark with hmark | hmark <;> rw [hmark] <;> decide
  have hread := (List.forall₂_and_left _ _).mpr ⟨hrows, outline.readAs_blocks _⟩
  have hsections : ∀ part ∈ outline.sections, ¬part.kind.isSettings →
      ∀ text ∈ part.lineTexts, ∀ row ∈ fieldRow? { text }, row.GapFree change := by
    refine forall_left_of_forall₂ (List.Forall₂.flip hread) fun part block hblock hkind => ?_
    obtain ⟨hblock, hreadAs⟩ := hblock
    rw [← hreadAs.kind] at hkind
    rw [Section.lineTexts, ← hreadAs.lines, List.forall_mem_map]
    intro line hline row hrow
    rw [← fieldRow?_text] at hrow
    exact hblock hkind line hline row hrow
  rw [format_of_source hsource, layoutLines_pieces] at hout
  rw [← Except.ok.inj hout, literals_plain_append hplain,
    linewise_literals.linesText (isTerminator_lineTerminator _), houtline.literals_layout]
  conv_rhs => rw [hsplit, literals_plain_append hplain, htext, outline.literals_pieces hpieces]
  rw [List.map_append, List.map_append, List.map_flatMap, List.map_flatMap]
  refine congrArg _ (List.flatMap_congr fun part hpart => ?_)
  rw [List.map_append, List.map_append, part.literals_bodyTexts (hsections part hpart)]

/-- Some declaration has a field that splits a literal. -/
def splitsLiteral (document : Document) : Bool :=
  document.blocks.any fun block => !block.kind.isSettings &&
    block.lines.any fun line => (fieldRow? line).any FieldRow.splitsLiteral

/-- A layout has the string literals of its text, but for blanks at their start, and has these as
well unless a literal stands right behind the type of a field. -/
theorem format_keepsLiterals {text out : Text} (h : format text = .ok out) :
    ∃ document, source text = .ok document ∧
      (literals out).map Text.trimStart = (literals text).map Text.trimStart ∧
      (splitsLiteral document = false → literals out = literals text) := by
  obtain ⟨document, hsource⟩ := source_of_format h
  refine ⟨document, hsource, ?_, fun hsplits => ?_⟩
  · exact literals_format Text.trimStart hsource h fun _ _ _ _ _ row _ => row.gapFree_trimStart
  · have hsame := literals_format id hsource h
    rw [List.map_id, List.map_id] at hsame
    apply hsame
    intro block hblock hkind line hline row hrow
    apply FieldRow.gapFree_id
    rw [splitsLiteral, List.any_eq_false] at hsplits
    have hblock := hsplits block hblock
    simp only [Bool.and_eq_true, hkind, List.any_eq_true, not_and, not_exists] at hblock
    have hline := hblock (by simp) line hline
    rw [hrow] at hline
    simpa using hline

theorem format_keepsLiterals_unsplit :
    let text := ("datasource d \x7b\n url=env(\" A\")\n\x7d \"b\nmodel M \x7b\n" ++
      " id Int @x(\" \\\"//\")//\"z\"\n key  T[\"  t\"]\n  \" u\" \x7d\n").toList
    let out := ("datasource d \x7b\n  url = env(\" A\")\n\x7d \"b\n\nmodel M \x7b\n" ++
      "  id  Int      @x(\" \\\"//\") //\"z\"\n  key T[\"  t\"]\n  \" u\"\n\x7d\n").toList
    format text = .ok out ∧ (source text).map splitsLiteral = .ok false ∧
      literals out = literals text ∧
      literals text = [" A", " \\\"//", "  t", " u"].map String.toList := by
  intro text out
  have h : format text = .ok out := by decide +kernel
  have hsplits : (source text).map splitsLiteral = .ok false := by decide +kernel
  obtain ⟨document, hsource, -, hsame⟩ := format_keepsLiterals h
  refine ⟨h, hsplits, hsame ?_, by decide +kernel⟩
  rw [hsource] at hsplits
  exact Except.ok.inj hsplits

/-- A literal right behind a name is not kept: its opening quote becomes the type. -/
theorem format_alters_literal :
    let text := "model A \x7b\n  x \"a\"\n\x7d\n".toList
    let out := "model A \x7b\n  x \" a\"\n\x7d\n".toList
    format text = .ok out ∧ literals text = [['a']] ∧ literals out = [[' ', 'a']] := by
  decide +kernel

end SchemaCase.Layout
