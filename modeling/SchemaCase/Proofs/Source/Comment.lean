import SchemaCase.Proofs.Source.Scanning

namespace SchemaCase.Source

/-- Only two slashes in code open a comment. -/
theorem Mode.step_ne_comment {mode : Mode} {c : Char} {next : Option Char}
    (hmode : mode ≠ .comment) (hopens : ¬(mode = .code ∧ c = '/' ∧ next = some '/')) :
    (mode.step c next).1 ≠ .comment ∧ (mode.step c next).2 ≠ .comment := by
  cases mode with
  | comment => exact absurd rfl hmode
  | escape => simp only [Mode.step]; split <;> simp
  | string =>
      simp only [Mode.step]
      repeat' split
      all_goals simp
  | code =>
      by_cases hquote : c = '"'
      · simp [Mode.step, hquote]
      · rw [Mode.step_code hquote fun hslash hnext => hopens ⟨rfl, hslash, hnext⟩]
        simp

private theorem Mode.code_of_step_slash {mode : Mode} {next : Option Char}
    (h : (mode.step '/' next).2 = .code) : mode = .code := by
  cases mode <;> simp_all [Mode.step]

structure CommentSplit (mode : Mode) (code comment : Text) : Prop where
  opens : ['/', '/'] <+: comment
  code_regions : ∀ cell ∈ cellsFrom mode code, cell.region ≠ .comment
  code_mode : modeAfter mode code = .code
  joins : Joins code comment

theorem CommentSplit.cons {mode : Mode} {c : Char} {code comment : Text}
    (hmode : mode ≠ .comment)
    (hopens : ¬(mode = .code ∧ c = '/' ∧ (code ++ comment).head? = some '/'))
    (h : CommentSplit (mode.step c (code ++ comment).head?).2 code comment) :
    CommentSplit mode (c :: code) comment := by
  obtain ⟨tail, rfl⟩ := h.opens
  have hstep : mode.step c (code ++ (['/', '/'] ++ tail)).head? = mode.step c code.head? := by
    cases code with
    | cons d code => rfl
    | nil =>
        apply Mode.step_congr
        intro hcode hslash
        exact absurd ⟨hcode, hslash, rfl⟩ hopens
  have hregion := (Mode.step_ne_comment hmode hopens).1
  have hregions := h.code_regions
  have hafter := h.code_mode
  rw [hstep] at hregion hregions hafter
  refine ⟨h.opens, ?_, hafter, ?_⟩
  · rw [cellsFrom_cons]
    intro cell hcell
    rcases List.mem_cons.mp hcell with rfl | hcell
    · exact hregion
    · exact hregions cell hcell
  · cases code with
    | cons d code =>
        intro hlast
        rw [List.getLast?_cons_cons] at hlast
        exact h.joins hlast
    | nil =>
        intro hlast
        have hslash : c = '/' := by simpa using hlast
        subst hslash
        exact absurd ⟨Mode.code_of_step_slash hafter, rfl, rfl⟩ hopens

theorem comment_split {mode : Mode} (hmode : mode ≠ .comment) (text : Text) :
    (∀ cell ∈ cellsFrom mode text, cell.region ≠ .comment) ∧ modeAfter mode text ≠ .comment ∨
      ∃ code comment, text = code ++ comment ∧ CommentSplit mode code comment := by
  induction text generalizing mode with
  | nil => exact .inl ⟨by simp, hmode⟩
  | cons c rest ih =>
      by_cases hopens : mode = .code ∧ c = '/' ∧ rest.head? = some '/'
      · obtain ⟨rfl, rfl, hnext⟩ := hopens
        obtain ⟨tail, rfl⟩ : ∃ tail, rest = '/' :: tail := by
          cases rest with
          | nil => cases hnext
          | cons d tail => exact ⟨tail, by rw [Option.some.inj hnext]⟩
        exact .inr ⟨[], '/' :: '/' :: tail, rfl, ⟨tail, rfl⟩, by simp, rfl, .of_last (by simp) _⟩
      · obtain ⟨hregion, hnext⟩ := Mode.step_ne_comment hmode hopens
        rcases ih hnext with ⟨hcells, hafter⟩ | ⟨code, comment, rfl, hsplit⟩
        · refine .inl ⟨?_, hafter⟩
          rw [cellsFrom_cons]
          intro cell hcell
          rcases List.mem_cons.mp hcell with rfl | hcell
          · exact hregion
          · exact hcells cell hcell
        · exact .inr ⟨c :: code, comment, rfl, hsplit.cons hmode hopens⟩

theorem CommentSplit.firstComment? {code comment : Text} (h : CommentSplit .code code comment) :
    firstComment? (code ++ comment) = some code.length := by
  obtain ⟨tail, rfl⟩ := h.opens
  have hnone : (cellsFrom .code code).findIdx? (fun cell => cell.region == .comment) = none := by
    rw [List.findIdx?_eq_none_iff]
    intro cell hcell
    simpa using h.code_regions cell hcell
  rw [Source.firstComment?, cells, cellsFrom_append .code h.joins, h.code_mode,
    List.findIdx?_append, hnone, length_cellsFrom]
  simp [cellsFrom_cons, Mode.step_code_comment, List.findIdx?_cons]

/-- A line has no comment, or it is cut where its comment starts. -/
theorem codeAndComment_cases (text : Text) :
    (codeAndComment text = (text, []) ∧ modeAfter .code text ≠ .comment) ∨
      ∃ code comment, text = code ++ comment ∧ codeAndComment text = (code, comment) ∧
        CommentSplit .code code comment := by
  have hcode : Mode.code ≠ .comment := by decide
  rcases comment_split hcode text with ⟨hnone, hafter⟩ | ⟨code, comment, rfl, hsplit⟩
  · left
    have hfirst : firstComment? text = none := by
      rw [firstComment?, List.findIdx?_eq_none_iff]
      intro cell hcell
      simpa using hnone cell hcell
    exact ⟨by rw [codeAndComment, hfirst], hafter⟩
  · right
    refine ⟨code, comment, rfl, ?_, hsplit⟩
    rw [codeAndComment, hsplit.firstComment?]
    simp

theorem codeAndComment_append (text : Text) :
    (codeAndComment text).1 ++ (codeAndComment text).2 = text := by
  rcases codeAndComment_cases text with ⟨h, -⟩ | ⟨code, comment, rfl, h, -⟩
  · simp [h]
  · simp [h]

private theorem step_code_region (c : Char) (rest : Text) :
    (Mode.code.step c rest.head?).1 = .comment ↔ ['/', '/'] <+: c :: rest := by
  by_cases hopens : c = '/' ∧ rest.head? = some '/'
  · obtain ⟨rfl, hnext⟩ := hopens
    obtain ⟨tail, rfl⟩ := List.head?_eq_some_iff.mp hnext
    exact ⟨fun _ => ⟨tail, rfl⟩, fun _ => rfl⟩
  · constructor
    · intro hregion
      have hcode : Mode.code ≠ .comment := nofun
      exact absurd hregion (Mode.step_ne_comment hcode fun h => hopens h.2).1
    · rintro ⟨tail, htail⟩
      obtain ⟨rfl, rfl⟩ := List.cons.inj htail
      exact absurd ⟨rfl, rfl⟩ hopens

theorem codeAndComment_cons {c : Char} {rest : Text} (h : ¬['/', '/'] <+: c :: rest) :
    ∃ code, (codeAndComment (c :: rest)).1 = c :: code := by
  have hregion : ((Mode.code.step c rest.head?).1 == Region.comment) = false := by
    rw [beq_eq_false_iff_ne]
    exact mt (step_code_region c rest).mp h
  rw [codeAndComment, firstComment?, cells, cellsFrom_cons, List.findIdx?_cons, hregion]
  cases hfirst : (cellsFrom (Mode.code.step c rest.head?).2 rest).findIdx?
      (fun cell => cell.region == .comment) with
  | none => exact ⟨rest, by simp⟩
  | some start => exact ⟨rest.take start, by simp⟩

theorem codeAndComment_comment {text : Text} (h : ['/', '/'] <+: text) :
    codeAndComment text = ([], text) := by
  obtain ⟨tail, rfl⟩ := h
  rfl

theorem Cell.visible_comment {cell : Cell} (h : cell.region = .comment) : cell.visible = ' ' := by
  simp [Cell.visible, h]

theorem cellsFrom_comment {text : Text} (h : '\n' ∉ text) :
    (∀ cell ∈ cellsFrom .comment text, cell.region = .comment) ∧
      modeAfter .comment text = .comment := by
  induction text with
  | nil => simp
  | cons c rest ih =>
      have hc : c ≠ '\n' := fun heq => h (heq ▸ List.mem_cons_self)
      obtain ⟨hcells, hmode⟩ := ih fun hmem => h (List.mem_cons_of_mem c hmem)
      rw [cellsFrom_cons, modeAfter_cons, Mode.step_comment hc]
      refine ⟨?_, hmode⟩
      intro cell hcell
      rcases List.mem_cons.mp hcell with rfl | hcell
      · rfl
      · exact hcells cell hcell

theorem cells_comment {comment : Text} (hopens : ['/', '/'] <+: comment) (h : '\n' ∉ comment) :
    (∀ cell ∈ cells comment, cell.region = .comment) ∧ modeAfter .code comment = .comment := by
  obtain ⟨tail, rfl⟩ := hopens
  have htail : '\n' ∉ '/' :: tail := by
    intro hmem
    exact h (List.mem_cons_of_mem _ hmem)
  obtain ⟨hcells, hmode⟩ := cellsFrom_comment htail
  refine ⟨?_, hmode⟩
  intro cell hcell
  rcases List.mem_cons.mp hcell with rfl | hcell
  · rfl
  · exact hcells cell hcell

end SchemaCase.Source
