import SchemaCase.Proofs.Source.Ink

namespace SchemaCase

open Source

structure CodeSplit (text code blanks comment : Text) : Prop where
  split : codeAndComment text = (code ++ blanks, comment)
  blanks : ∀ c ∈ blanks, Text.isBlank c
  code : ∀ c ∈ code.getLast?, Text.isBlank c = false

theorem CodeSplit.eq_append {text code blanks comment : Text}
    (h : CodeSplit text code blanks comment) : text = code ++ blanks ++ comment := by
  have happend := codeAndComment_append text
  rw [h.split] at happend
  exact happend.symm

theorem exists_codeSplit (text : Text) :
    ∃ code blanks comment, CodeSplit text code blanks comment := by
  refine ⟨Text.trimEnd (codeAndComment text).1, Text.trailingBlanks (codeAndComment text).1,
    (codeAndComment text).2, ?_, Text.isBlank_trailingBlanks _,
    Text.trimEnd_getLast? _⟩
  rw [Text.trimEnd_append_trailingBlanks]

theorem CodeSplit.noComment {text code blanks comment : Text}
    (h : CodeSplit text code blanks comment) : NoComment .code code := by
  have hcode := noComment_code text
  rw [h.split] at hcode
  exact hcode.left

theorem CodeSplit.code_cons {first : Char} {behind code blanks comment : Text}
    (h : CodeSplit (first :: behind) code blanks comment) (hfirst : Text.isBlank first = false)
    (hcomment : ¬['/', '/'] <+: first :: behind) : ∃ tail, code = first :: tail := by
  obtain ⟨found, hfound⟩ := codeAndComment_cons hcomment
  rw [h.split] at hfound
  cases code with
  | cons c tail =>
      rw [List.cons_append] at hfound
      exact ⟨tail, by rw [(List.cons.inj hfound).1]⟩
  | nil =>
      have hblanks : blanks = first :: found := hfound
      have hblank := h.blanks first (by simp [hblanks])
      simp [hfirst] at hblank

theorem CodeSplit.comment_opens {text code blanks comment : Text}
    (h : CodeSplit text code blanks comment) : comment = [] ∨ ['/', '/'] <+: comment := by
  rcases codeAndComment_cases text with ⟨hnone, -⟩ | ⟨front, back, -, hcut, hopens⟩
  · rw [h.split] at hnone
    exact .inl (Prod.mk.inj hnone).2
  · rw [h.split] at hcut
    rw [(Prod.mk.inj hcut).2]
    exact .inr hopens.opens

theorem CodeSplit.joins {text code blanks comment : Text}
    (h : CodeSplit text code blanks comment) : Joins code (blanks ++ comment) := by
  cases blanks with
  | cons c blanks =>
      exact .cons code (Text.ne_of_class (h.blanks c List.mem_cons_self) (by decide)) _
  | nil =>
      rcases codeAndComment_cases text with ⟨hnone, -⟩ | ⟨front, back, -, hcut, hsplit⟩
      · rw [h.split] at hnone
        rw [(Prod.mk.inj hnone).2]
        exact .of_head code (by simp)
      · rw [h.split] at hcut
        obtain ⟨hcode, rfl⟩ := Prod.mk.inj hcut
        rw [List.append_nil] at hcode
        subst hcode
        exact hsplit.joins

theorem CodeSplit.mode_of_closed {text code blanks comment : Text}
    (h : CodeSplit text code blanks comment) (hfeed : '\n' ∉ text)
    (hclosed : modeAfter .code (codeAndComment text).1 = .code) :
    modeAfter .code code = .code := by
  have hblanks : '\n' ∉ blanks := by
    intro hmem
    exact hfeed (by simp [h.eq_append, hmem])
  rw [h.split, modeAfter_append .code (joins_blanks code h.blanks)] at hclosed
  exact code_of_modeAfter_blanks h.blanks hblanks hclosed

theorem CodeSplit.code_mode {text code blanks comment : Text}
    (h : CodeSplit text code blanks comment) (hfeed : '\n' ∉ text) (hcomment : comment ≠ []) :
    modeAfter .code code = .code := by
  apply h.mode_of_closed hfeed
  rcases codeAndComment_cases text with ⟨hnone, -⟩ | ⟨front, back, -, hcut, hsplit⟩
  · rw [h.split] at hnone
    exact absurd (Prod.mk.inj hnone).2 hcomment
  · rw [hcut]
    exact hsplit.code_mode

theorem CodeSplit.comment_cells {text code blanks comment : Text}
    (h : CodeSplit text code blanks comment) (hfeed : '\n' ∉ text) :
    ∀ cell ∈ cells comment, cell.region = .comment := by
  rcases h.comment_opens with rfl | hopens
  · simp [cells]
  · refine (cells_comment hopens fun hmem => hfeed ?_).1
    simp [h.eq_append, hmem]

theorem CodeSplit.behind_blank {text code blanks comment : Text}
    (h : CodeSplit text code blanks comment) (hfeed : '\n' ∉ text) :
    ∀ cell ∈ cellsFrom (modeAfter .code code) (blanks ++ comment), Text.isBlank cell.visible := by
  intro cell hcell
  by_cases hcomment : comment = []
  · rw [hcomment, List.append_nil] at hcell
    exact isBlank_of_mem_cellsFrom h.blanks cell hcell
  · rw [h.code_mode hfeed hcomment, ← cells,
      (plain_of_isBlank h.blanks).cells_append] at hcell
    rcases List.mem_append.mp hcell with hcell | hcell
    · obtain ⟨hvisible, hmem⟩ := visible_of_mem_codeCells hcell
      rw [hvisible]
      exact h.blanks _ hmem
    · rw [Cell.visible_comment (h.comment_cells hfeed cell hcell)]
      decide

end SchemaCase
