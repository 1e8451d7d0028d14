import Mathlib.Data.Option.Basic
import SchemaCase.Proofs.Source.Scanning
import SchemaCase.Proofs.Text.Words
import SchemaCase.Schema.Document

namespace SchemaCase

open Source

structure Header.WellFormed (header : Header) : Prop where
  indent : ∀ c ∈ header.indent, Text.isInlineBlank c
  keyword : Text.IsName header.keyword
  gap_ne_nil : header.gap ≠ []
  gap : ∀ c ∈ header.gap, Text.isInlineBlank c
  name : Text.IsName header.name
  trail : ∀ c ∈ header.trail, Text.isInlineBlank c

private theorem head?_codeCells {text : Text} {p : Char → Bool} {rest : List Cell}
    (htext : text ≠ []) (h : ∀ c ∈ text, p c = false) :
    ∀ cell ∈ (codeCells text ++ rest).head?, p cell.visible = false := by
  cases text with
  | nil => exact absurd rfl htext
  | cons c text =>
      intro cell hcell
      cases hcell
      exact h c List.mem_cons_self

theorem readInlineBlanks_codeCells {blanks : Text} {rest : List Cell}
    (hblanks : ∀ c ∈ blanks, Text.isInlineBlank c)
    (hrest : ∀ cell ∈ rest.head?, Text.isInlineBlank cell.visible = false) :
    readInlineBlanks (codeCells blanks ++ rest) = (blanks, rest) := by
  have hrun : ∀ cell ∈ codeCells blanks, Text.isInlineBlank cell.visible := by
    intro cell hcell
    obtain ⟨hvisible, hchar⟩ := visible_of_mem_codeCells hcell
    rw [hvisible]
    exact hblanks _ hchar
  simp only [readInlineBlanks, Text.takeWhile_run hrun hrest, Text.dropWhile_run hrun hrest,
    textOf_codeCells]

theorem readName?_codeCells {name : Text} {rest : List Cell} (hname : Text.IsName name)
    (hrest : ∀ cell ∈ rest.head?, Text.isWordChar cell.visible = false) :
    readName? (codeCells name ++ rest) = some (name, rest) := by
  cases name with
  | nil => exact hname.elim
  | cons c name =>
      have hrun : ∀ cell ∈ codeCells name, Text.isWordChar cell.visible := by
        intro cell hcell
        obtain ⟨hvisible, hchar⟩ := visible_of_mem_codeCells hcell
        rw [hvisible]
        exact hname.2 _ hchar
      have hfirst : Text.isNameStart (Cell.mk c .code).visible := hname.1
      simp only [codeCells, List.map_cons, List.cons_append, readName?, hfirst, if_true]
      rw [← codeCells, Text.takeWhile_run hrun hrest, Text.dropWhile_run hrun hrest,
        textOf_codeCells]

theorem Header.read?_codeCells {header : Header} (h : header.WellFormed) (rest : List Cell) :
    Header.read? (codeCells header.render ++ rest) = some (header, rest) := by
  have hname := fun c hc => Text.isInlineBlank_of_isWordChar (h.name.isWordChar c hc)
  have hkeyword := fun c hc => Text.isInlineBlank_of_isWordChar (h.keyword.isWordChar c hc)
  have hgap := fun c hc => Text.isWordChar_of_isInlineBlank (h.gap c hc)
  have htrail : ∀ cell ∈ (codeCells header.trail ++ ⟨'\x7b', .code⟩ :: rest).head?,
      Text.isWordChar cell.visible = false := by
    cases htext : header.trail with
    | nil =>
        intro cell hcell
        cases hcell
        decide +kernel
    | cons c trail =>
        apply head?_codeCells (List.cons_ne_nil c trail)
        intro d hd
        exact Text.isWordChar_of_isInlineBlank (h.trail d (htext ▸ hd))
  have hbrace : ∀ cell ∈ ((⟨'\x7b', .code⟩ : Cell) :: rest).head?,
      Text.isInlineBlank cell.visible = false := by
    intro cell hcell
    cases hcell
    decide
  have hrender : codeCells header.render ++ rest =
      codeCells header.indent ++ (codeCells header.keyword ++ (codeCells header.gap ++
        (codeCells header.name ++ (codeCells header.trail ++ ⟨'\x7b', .code⟩ :: rest)))) := by
    simp [Header.render, codeCells]
  rw [hrender, Header.read?,
    readInlineBlanks_codeCells h.indent (head?_codeCells h.keyword.ne_nil hkeyword)]
  simp only [readName?_codeCells h.keyword (head?_codeCells h.gap_ne_nil hgap),
    Option.bind_eq_bind, Option.bind_some]
  rw [readInlineBlanks_codeCells h.gap (head?_codeCells h.name.ne_nil hname)]
  simp only [readName?_codeCells h.name htrail, readInlineBlanks_codeCells h.trail hbrace,
    Option.bind_some]
  have hnonempty : header.gap.isEmpty = false := List.isEmpty_eq_false_iff.mpr h.gap_ne_nil
  rw [hnonempty]
  rfl

theorem readInlineBlanks_sound (cells : List Cell) :
    ∃ front, cells = front ++ (readInlineBlanks cells).2 ∧
      (readInlineBlanks cells).1 = textOf front ∧
        ∀ cell ∈ front, Text.isInlineBlank cell.visible := by
  refine ⟨_, List.takeWhile_append_dropWhile.symm, rfl, fun cell hcell => ?_⟩
  have hblank := List.mem_takeWhile_imp hcell
  exact hblank

theorem readName?_sound {cells rest : List Cell} {name : Text}
    (h : readName? cells = some (name, rest)) :
    ∃ front, cells = front ++ rest ∧ name = textOf front ∧
      Text.IsName (front.map Cell.visible) := by
  cases cells with
  | nil => simp [readName?] at h
  | cons cell tail =>
      simp only [readName?] at h
      split at h
      · next hstart =>
          cases h
          refine ⟨cell :: tail.takeWhile fun next => Text.isWordChar next.visible, ?_, rfl,
            hstart, ?_⟩
          · rw [List.cons_append, List.takeWhile_append_dropWhile]
          · intro c hc
            obtain ⟨next, hnext, rfl⟩ := List.mem_map.mp hc
            have hword := List.mem_takeWhile_imp hnext
            exact hword
      · cases h

private theorem forall_textOf_of_code {cells : List Cell} {p : Char → Bool}
    (hcode : ∀ cell ∈ cells, cell.region = .code) (h : ∀ cell ∈ cells, p cell.visible) :
    ∀ c ∈ textOf cells, p c := by
  rw [← map_visible_eq_textOf hcode]
  intro c hc
  obtain ⟨cell, hcell, rfl⟩ := List.mem_map.mp hc
  exact h cell hcell

/-- Whatever is read as a header ends in an opening brace, with blanks and characters of words in
front of it; it is well-formed if it stands in code. -/
theorem Header.read?_sound {cells rest : List Cell} {header : Header}
    (h : Header.read? cells = some (header, rest)) :
    ∃ front brace, cells = front ++ brace :: rest ∧ header.render = textOf front ++ [brace.char] ∧
      brace.visible = '\x7b' ∧
      (∀ cell ∈ front,
        Text.isInlineBlank cell.visible ∨ Text.isWordChar cell.visible) ∧
      ((∀ cell ∈ front, cell.region = .code) → header.WellFormed) := by
  simp only [Header.read?, Option.bind_eq_bind, Option.bind_eq_some_iff] at h
  obtain ⟨⟨keyword, afterKeyword⟩, hkeyword, _, hguard, ⟨name, afterName⟩, hname, h⟩ := h
  dsimp only at hguard hname h
  obtain ⟨indentCells, hindentSplit, hindentText, hindent⟩ := readInlineBlanks_sound cells
  obtain ⟨keywordCells, hkeywordSplit, rfl, hkeywordName⟩ := readName?_sound hkeyword
  obtain ⟨gapCells, hgapSplit, hgapText, hgap⟩ := readInlineBlanks_sound afterKeyword
  obtain ⟨nameCells, hnameSplit, rfl, hnameName⟩ := readName?_sound hname
  obtain ⟨trailCells, htrailSplit, htrailText, htrail⟩ := readInlineBlanks_sound afterName
  split at h
  · cases h
  · next brace afterBrace hbraceSplit =>
      split at h
      · next hbrace =>
          cases h
          have hbrace : brace.visible = '\x7b' := by simpa using hbrace
          have hchar := ((brace.visible_eq_iff (by decide)).mp hbrace).2
          have hgap_ne_nil : textOf gapCells ≠ [] := by
            intro hnil
            rw [hgapText, hnil] at hguard
            cases hguard
          refine ⟨indentCells ++ keywordCells ++ gapCells ++ nameCells ++ trailCells, brace, ?_,
            ?_, hbrace, ?_, ?_⟩
          · rw [hindentSplit, hkeywordSplit, hgapSplit, hnameSplit, htrailSplit, hbraceSplit]
            simp only [List.append_assoc]
          · simp only [Header.render, hindentText, hgapText, htrailText, textOf_append, hchar]
          · intro cell hcell
            simp only [List.mem_append, or_assoc] at hcell
            have hword {cells : List Cell} (hcells : Text.IsName (cells.map Cell.visible))
                (hmem : cell ∈ cells) : Text.isWordChar cell.visible :=
              hcells.isWordChar _ (List.mem_map_of_mem hmem)
            rcases hcell with hcell | hcell | hcell | hcell | hcell
            · exact .inl (hindent cell hcell)
            · exact .inr (hword hkeywordName hcell)
            · exact .inl (hgap cell hcell)
            · exact .inr (hword hnameName hcell)
            · exact .inl (htrail cell hcell)
          · intro hcode
            simp only [List.mem_append, or_imp, forall_and, and_assoc] at hcode
            obtain ⟨hindentCode, hkeywordCode, hgapCode, hnameCode, htrailCode⟩ := hcode
            exact
              { indent := by
                  rw [hindentText]
                  exact forall_textOf_of_code hindentCode hindent
                keyword := map_visible_eq_textOf hkeywordCode ▸ hkeywordName
                gap_ne_nil := by rwa [hgapText]
                gap := by
                  rw [hgapText]
                  exact forall_textOf_of_code hgapCode hgap
                name := map_visible_eq_textOf hnameCode ▸ hnameName
                trail := by
                  rw [htrailText]
                  exact forall_textOf_of_code htrailCode htrail }
      · cases h

theorem Header.WellFormed.mem_render {header : Header} (h : header.WellFormed) {c : Char}
    (hc : c ∈ header.render) : Text.isInlineBlank c ∨ Text.isWordChar c ∨ c = '\x7b' := by
  simp only [Header.render, List.mem_append, List.mem_singleton, or_assoc] at hc
  rcases hc with hc | hc | hc | hc | hc | hc
  · exact .inl (h.indent c hc)
  · exact .inr (.inl (h.keyword.isWordChar c hc))
  · exact .inl (h.gap c hc)
  · exact .inr (.inl (h.name.isWordChar c hc))
  · exact .inl (h.trail c hc)
  · exact .inr (.inr hc)

theorem Header.WellFormed.not_mem_render {header : Header} (h : header.WellFormed) {c : Char}
    (hblank : Text.isInlineBlank c = false) (hword : Text.isWordChar c = false)
    (hbrace : c ≠ '\x7b') : c ∉ header.render := by
  intro hc
  rcases h.mem_render hc with hc | hc | hc
  · simp [hc] at hblank
  · simp [hc] at hword
  · exact hbrace hc

theorem Header.WellFormed.plain_render {header : Header} (h : header.WellFormed) :
    Plain header.render := by
  intro c hc
  constructor
  · rintro rfl
    exact h.not_mem_render (by decide) (by decide +kernel) (by decide) hc
  · rintro rfl
    exact h.not_mem_render (by decide) (by decide +kernel) (by decide) hc

theorem Header.render_eq_concat (header : Header) :
    ∃ front, header.render = front ++ ['\x7b'] :=
  ⟨_, rfl⟩

private theorem plain_of_blank_or_word {c : Char}
    (h : Text.isInlineBlank c ∨ Text.isWordChar c) : c ≠ '\n' ∧ c ≠ '"' := by
  constructor
  · rintro rfl
    exact absurd h (by decide +kernel)
  · rintro rfl
    exact absurd h (by decide +kernel)

theorem Header.read?_cells {text : Text} {header : Header} {rest : List Cell}
    (h : Header.read? (cells text) = some (header, rest)) :
    header.WellFormed ∧ text = header.render ++ textOf rest ∧ rest = cells (textOf rest) := by
  obtain ⟨front, brace, hcells, hrender, hbrace, hfront, hwellFormed⟩ := Header.read?_sound h
  obtain ⟨hregion, hchar⟩ := (brace.visible_eq_iff (by decide)).mp hbrace
  have hcode : ∀ cell ∈ front, cell.region = .code :=
    region_code_of_visible hcells (fun cell hcell => plain_of_blank_or_word (hfront cell hcell))
      hregion (by rw [hchar]; decide)
  have hopening : textOf (front ++ [brace]) = header.render := by simp [hrender]
  have hsplit : cells text = (front ++ [brace]) ++ rest := by simp [hcells]
  refine ⟨hwellFormed hcode, ?_, ?_⟩
  · rw [← hopening, ← textOf_append, ← hsplit, cells, textOf_cellsFrom]
  · exact (Plain.cells_eq_append hsplit (hopening ▸ (hwellFormed hcode).plain_render)).2

/-- A header on the masked text stands in code, so the text shows the same header. -/
theorem Header.WellFormed.eq_codeCells {header : Header} (h : header.WellFormed) {text : Text}
    {opening rest : List Cell} (hcells : cells text = opening ++ rest)
    (hmatch : opening.map Cell.visible = header.render) :
    opening = codeCells header.render ∧ rest = cells (textOf rest) := by
  obtain ⟨shown, hshown⟩ := header.render_eq_concat
  obtain ⟨front, brace, rfl, hfront, hbrace⟩ : ∃ front brace, opening = front ++ [brace] ∧
      front.map Cell.visible = shown ∧ brace.visible = '\x7b' := by
    rw [hshown] at hmatch
    obtain ⟨front, last, rfl, hfront, hlast⟩ := List.map_eq_append_iff.mp hmatch
    obtain ⟨brace, rfl, hbrace⟩ := List.map_eq_singleton_iff.mp hlast
    exact ⟨front, brace, rfl, hfront, hbrace⟩
  obtain ⟨hregion, hchar⟩ := (brace.visible_eq_iff (by decide)).mp hbrace
  have hvisible : ∀ cell ∈ front, cell.visible ≠ '\n' ∧ cell.visible ≠ '"' := by
    intro cell hcell
    have hmem : cell.visible ∈ header.render := by
      rw [hshown, ← hfront]
      exact List.mem_append_left _ (List.mem_map_of_mem hcell)
    refine ⟨fun heq => ?_, fun heq => (h.plain_render _ hmem).1 heq⟩
    exact h.not_mem_render (by decide) (by decide +kernel) (by decide) (heq ▸ hmem)
  have hcode : ∀ cell ∈ front ++ [brace], cell.region = .code := by
    have hsplit : cellsFrom .code text = front ++ brace :: rest := by
      simpa [cells] using hcells
    have hfrontCode := region_code_of_visible hsplit hvisible hregion (by rw [hchar]; decide)
    intro cell hcell
    rcases List.mem_append.mp hcell with hcell | hcell
    · exact hfrontCode cell hcell
    · rw [List.mem_singleton.mp hcell, hregion]
  have htext : textOf (front ++ [brace]) = header.render := by
    rw [← hmatch, map_visible_eq_textOf hcode]
  have hsplit := Plain.cells_eq_append hcells (htext ▸ h.plain_render)
  rwa [htext] at hsplit

end SchemaCase
