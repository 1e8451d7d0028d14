import SchemaCase.Proofs.Schema.Braces
import SchemaCase.Proofs.Source.Comment
import SchemaCase.Proofs.Text.Words

/-! Blanks of a source text, and its ink: all that is not blank, with the region it stands in.
Blanks may come and go without a trace, but for those that a backslash escapes. -/

namespace SchemaCase.Source

theorem plain_of_isBlank {text : Text} (h : ∀ c ∈ text, Text.isBlank c) : Plain text := by
  intro c hc
  exact ⟨Text.ne_of_class (h c hc) (by decide), Text.ne_of_class (h c hc) (by decide)⟩

theorem plain_of_isName {name : Text} (h : Text.IsName name) : Plain name := by
  have hquote : Text.isWordChar '"' = false := by decide +kernel
  have hslash : Text.isWordChar '/' = false := by decide +kernel
  intro c hc
  exact ⟨Text.ne_of_class (h.isWordChar c hc) hquote, Text.ne_of_class (h.isWordChar c hc) hslash⟩

theorem visible_of_mem_cellsFrom {mode : Mode} {text : Text} {cell : Cell}
    (h : cell ∈ cellsFrom mode text) : cell.visible = ' ' ∨ cell.visible ∈ text := by
  have hchar : cell.char ∈ text := by
    rw [← textOf_cellsFrom mode text]
    exact List.mem_map_of_mem h
  unfold Cell.visible
  split
  · exact .inr hchar
  · exact .inl rfl

theorem isBlank_of_mem_cellsFrom {mode : Mode} {blanks : Text}
    (h : ∀ c ∈ blanks, Text.isBlank c) :
    ∀ cell ∈ cellsFrom mode blanks, Text.isBlank cell.visible := by
  intro cell hcell
  rcases visible_of_mem_cellsFrom hcell with hvisible | hvisible
  · rw [hvisible]
    decide
  · exact h _ hvisible

theorem code_of_modeAfter_blanks {mode : Mode} {blanks : Text} (h : ∀ c ∈ blanks, Text.isBlank c)
    (hfeed : '\n' ∉ blanks) (hafter : modeAfter mode blanks = .code) : mode = .code := by
  induction blanks generalizing mode with
  | nil => exact hafter
  | cons c rest ih =>
      have hblank := h c List.mem_cons_self
      have hquote : c ≠ '"' := Text.ne_of_class hblank (by decide)
      have hc : c ≠ '\n' := fun heq => hfeed (heq ▸ List.mem_cons_self)
      have hstep := ih (fun d hd => h d (List.mem_cons_of_mem c hd))
        (fun hmem => hfeed (List.mem_cons_of_mem c hmem)) hafter
      cases mode with
      | code => rfl
      | string =>
          simp only [Mode.step, beq_iff_eq, hc, hquote, if_false] at hstep
          split at hstep <;> cases hstep
      | escape => simp [Mode.step, hc] at hstep
      | comment => simp [Mode.step, hc] at hstep

theorem modeAfter_blanks {mode : Mode} (hmode : mode ≠ .escape) {blanks : Text}
    (h : ∀ c ∈ blanks, Text.isBlank c) (hfeed : '\n' ∉ blanks) : modeAfter mode blanks = mode := by
  induction blanks with
  | nil => rfl
  | cons c rest ih =>
      rw [List.forall_mem_cons] at h
      have hc : c ≠ '\n' := fun heq => hfeed (heq ▸ List.mem_cons_self)
      have hquote : c ≠ '"' := Text.ne_of_class h.1 (by decide)
      have hbackslash : c ≠ '\\' := Text.ne_of_class h.1 (by decide)
      have hslash : c ≠ '/' := Text.ne_of_class h.1 (by decide)
      have hstep : (mode.step c rest.head?).2 = mode := by
        cases mode with
        | code => rw [Mode.step_code_plain hquote hslash]
        | string => rw [Mode.step_string ⟨hquote, hbackslash, hc⟩]
        | escape => exact absurd rfl hmode
        | comment => rw [Mode.step_comment hc]
      rw [modeAfter_cons, hstep, ih h.2 fun hmem => hfeed (List.mem_cons_of_mem c hmem)]

theorem Mode.step_ne_escape {mode : Mode} {c : Char} {next : Option Char}
    (h : (mode.step c next).1 = .code) : (mode.step c next).2 ≠ .escape := by
  intro hescape
  unfold Mode.step at h hescape
  split at hescape
  · cases hescape
  · cases mode with
    | comment => cases hescape
    | escape => cases hescape
    | code =>
        dsimp only at hescape
        split at hescape
        · cases hescape
        · split at hescape <;> cases hescape
    | string =>
        -- Only a backslash inside a string escapes, and that is no code.
        dsimp only at h hescape
        split at hescape
        · simp_all
        · split at hescape <;> cases hescape

/-- Behind a character of the code nothing is escaped. -/
theorem modeAfter_ne_escape {mode : Mode} {text : Text} {last : Cell}
    (hlast : (cellsFrom mode text).getLast? = some last) (hregion : last.region = .code) :
    modeAfter mode text ≠ .escape := by
  induction text generalizing mode with
  | nil => cases hlast
  | cons c rest ih =>
      rw [cellsFrom_cons] at hlast
      rw [modeAfter_cons]
      cases rest with
      | cons d rest =>
          rw [cellsFrom_cons, List.getLast?_cons_cons, ← cellsFrom_cons] at hlast
          exact ih hlast
      | nil =>
          obtain rfl := Option.some.inj hlast
          exact Mode.step_ne_escape hregion

theorem joins_blanks_append (front : Text) {blanks : Text} (h : ∀ c ∈ blanks, Text.isBlank c)
    {back : Text} (hback : blanks = [] → Joins front back) : Joins front (blanks ++ back) := by
  cases blanks with
  | nil => exact hback rfl
  | cons c blanks => exact .cons front (Text.ne_of_class (h c List.mem_cons_self) (by decide)) _

theorem joins_blanks (front : Text) {blanks : Text} (h : ∀ c ∈ blanks, Text.isBlank c) :
    Joins front blanks := by
  have hnone : blanks = [] → Joins front [] := fun _ => .of_head front (by simp)
  simpa using joins_blanks_append front h hnone

/-! Cuts of a text without comments: no seam can turn into one. -/

def NoComment (mode : Mode) (text : Text) : Prop :=
  ∀ cell ∈ cellsFrom mode text, cell.region ≠ .comment

theorem NoComment.codeAndComment {text : Text} (h : NoComment .code text) :
    codeAndComment text = (text, []) := by
  have hfirst : firstComment? text = none := by
    rw [firstComment?, List.findIdx?_eq_none_iff]
    intro cell hcell
    simpa using h cell hcell
  rw [Source.codeAndComment, hfirst]

theorem CommentSplit.codeAndComment {code comment : Text} (h : CommentSplit .code code comment) :
    codeAndComment (code ++ comment) = (code, comment) := by
  rw [Source.codeAndComment, h.firstComment?]
  simp

theorem noComment_code (text : Text) : NoComment .code (codeAndComment text).1 := by
  have hcode : Mode.code ≠ .comment := by decide
  rcases comment_split hcode text with ⟨hnone, -⟩ | ⟨code, comment, rfl, hsplit⟩
  · rw [NoComment.codeAndComment hnone]
    exact hnone
  · rw [hsplit.codeAndComment]
    exact hsplit.code_regions

theorem codeAndComment_eq_nil_iff (text : Text) :
    (codeAndComment text).2 = [] ↔ NoComment .code text := by
  constructor
  · intro hnil
    have hcode := noComment_code text
    have htext := codeAndComment_append text
    rw [hnil, List.append_nil] at htext
    rwa [htext] at hcode
  · intro hnone
    rw [hnone.codeAndComment]

theorem NoComment.append {mode : Mode} {front back : Text} (h : NoComment mode (front ++ back)) :
    cellsFrom mode (front ++ back) =
        cellsFrom mode front ++ cellsFrom (modeAfter mode front) back ∧
      modeAfter mode (front ++ back) = modeAfter (modeAfter mode front) back := by
  induction front generalizing mode with
  | nil => exact ⟨rfl, rfl⟩
  | cons c front ih =>
      have hstep : mode.step c (front ++ back).head? = mode.step c front.head? := by
        cases front with
        | cons d front => rfl
        | nil =>
            apply Mode.step_congr
            rintro rfl rfl
            -- Two slashes in code on the seam would open a comment.
            have hnext : back.head? ≠ some '/' := by
              intro hnext
              obtain ⟨tail, rfl⟩ := List.head?_eq_some_iff.mp hnext
              exact h ⟨'/', .comment⟩ List.mem_cons_self rfl
            simp [hnext]
      have hrest : NoComment (mode.step c (front ++ back).head?).2 (front ++ back) :=
        fun cell hcell => h cell (List.mem_cons_of_mem _ hcell)
      obtain ⟨hcells, hmode⟩ := ih hrest
      rw [hstep] at hcells hmode
      constructor
      · rw [List.cons_append, cellsFrom_cons, hstep, hcells]
        rfl
      · rw [List.cons_append, modeAfter_cons, hstep, hmode]
        rfl

theorem NoComment.left {mode : Mode} {front back : Text} (h : NoComment mode (front ++ back)) :
    NoComment mode front := by
  intro cell hcell
  apply h
  rw [h.append.1]
  exact List.mem_append_left _ hcell

theorem NoComment.right {mode : Mode} {front back : Text} (h : NoComment mode (front ++ back)) :
    NoComment (modeAfter mode front) back := by
  intro cell hcell
  apply h
  rw [h.append.1]
  exact List.mem_append_right _ hcell

theorem NoComment.modeAfter_ne {mode : Mode} {text : Text} (h : NoComment mode text)
    (hmode : mode ≠ .comment) : modeAfter mode text ≠ .comment := by
  rcases comment_split hmode text with ⟨-, hafter⟩ | ⟨code, comment, rfl, hsplit⟩
  · exact hafter
  · obtain ⟨tail, rfl⟩ := hsplit.opens
    refine absurd rfl (h ⟨'/', .comment⟩ ?_)
    rw [cellsFrom_append mode hsplit.joins, hsplit.code_mode]
    exact List.mem_append_right _ List.mem_cons_self

theorem noComment_blanks {mode : Mode} (hmode : mode ≠ .comment) {blanks : Text}
    (h : ∀ c ∈ blanks, Text.isBlank c) : NoComment mode blanks := by
  induction blanks generalizing mode with
  | nil => exact fun cell hcell => by cases hcell
  | cons c rest ih =>
      rw [List.forall_mem_cons] at h
      have hslash : c ≠ '/' := Text.ne_of_class h.1 (by decide)
      have hopens : ¬(mode = .code ∧ c = '/' ∧ rest.head? = some '/') :=
        fun hopens => hslash hopens.2.1
      obtain ⟨hregion, hnext⟩ := Mode.step_ne_comment hmode hopens
      intro cell hcell
      rcases List.mem_cons.mp hcell with rfl | hcell
      · exact hregion
      · exact ih hnext h.2 cell hcell

theorem Plain.noComment_append {front : Text} (h : Plain front) {back : Text}
    (hback : NoComment .code back) : NoComment .code (front ++ back) := by
  intro cell hcell
  rw [← Source.cells, h.cells_append] at hcell
  rcases List.mem_append.mp hcell with hcell | hcell
  · obtain ⟨c, -, rfl⟩ := List.mem_map.mp hcell
    intro hregion
    cases hregion
  · exact hback cell hcell

theorem NoComment.append_blanks {front blanks : Text} (h : NoComment .code front)
    (hblanks : ∀ c ∈ blanks, Text.isBlank c) : NoComment .code (front ++ blanks) := by
  intro cell hcell
  rw [cellsFrom_append .code (joins_blanks front hblanks)] at hcell
  rcases List.mem_append.mp hcell with hcell | hcell
  · exact h cell hcell
  · exact noComment_blanks (h.modeAfter_ne (by decide)) hblanks cell hcell

theorem noComment_iff_trim (text : Text) :
    NoComment .code text ↔ NoComment .code (Text.trim text) := by
  obtain ⟨front, back, htext, hfront, hback⟩ := Text.exists_trim text
  have hplain := plain_of_isBlank hfront
  constructor
  · intro h
    rw [htext] at h
    have hright := h.left.right
    rwa [hplain.modeAfter] at hright
  · intro h
    rw [htext]
    exact (hplain.noComment_append h).append_blanks hback

def inkFrom (mode : Mode) (text : Text) : List Cell :=
  (cellsFrom mode text).filter fun cell => !Text.isBlank cell.char

def ink (text : Text) : List Cell :=
  inkFrom .code text

theorem textOf_inkFrom (mode : Mode) (text : Text) :
    textOf (inkFrom mode text) = text.filter fun c => !Text.isBlank c := by
  conv_rhs => rw [← textOf_cellsFrom mode text, textOf, List.filter_map]
  rfl

theorem textOf_ink (text : Text) : textOf (ink text) = text.filter fun c => !Text.isBlank c :=
  textOf_inkFrom .code text

theorem inkFrom_blanks (mode : Mode) {blanks : Text} (h : ∀ c ∈ blanks, Text.isBlank c) :
    inkFrom mode blanks = [] := by
  apply List.map_eq_nil_iff.mp
  rw [← textOf, textOf_inkFrom, List.filter_eq_nil_iff]
  intro c hc
  simp [h c hc]

theorem inkFrom_append (mode : Mode) {front back : Text} (h : Joins front back) :
    inkFrom mode (front ++ back) = inkFrom mode front ++ inkFrom (modeAfter mode front) back := by
  rw [inkFrom, cellsFrom_append mode h, List.filter_append]
  rfl

theorem NoComment.inkFrom_append {mode : Mode} {front back : Text}
    (h : NoComment mode (front ++ back)) :
    inkFrom mode (front ++ back) = inkFrom mode front ++ inkFrom (modeAfter mode front) back := by
  rw [inkFrom, h.append.1, List.filter_append]
  rfl

theorem inkFrom_append_blanks (mode : Mode) (front : Text) {blanks : Text}
    (h : ∀ c ∈ blanks, Text.isBlank c) : inkFrom mode (front ++ blanks) = inkFrom mode front := by
  rw [inkFrom_append mode (joins_blanks front h), inkFrom_blanks _ h, List.append_nil]

theorem ink_plain_append {front : Text} (h : Plain front) (back : Text) :
    ink (front ++ back) = ink front ++ ink back := by
  rw [ink, inkFrom_append .code (h.joins back), h.modeAfter]
  rfl

theorem ink_blanks_append {blanks : Text} (h : ∀ c ∈ blanks, Text.isBlank c) (back : Text) :
    ink (blanks ++ back) = ink back := by
  rw [ink_plain_append (plain_of_isBlank h), ink, inkFrom_blanks _ h]
  rfl

theorem ink_append_blanks (front : Text) {blanks : Text} (h : ∀ c ∈ blanks, Text.isBlank c) :
    ink (front ++ blanks) = ink front :=
  inkFrom_append_blanks .code front h

theorem ink_codeAndComment (text : Text) :
    ink text = ink (codeAndComment text).1 ++ ink (codeAndComment text).2 := by
  rcases codeAndComment_cases text with ⟨hnone, -⟩ | ⟨code, comment, rfl, hcut, hsplit⟩
  · rw [hnone]
    exact (List.append_nil _).symm
  · rw [hcut, ink, inkFrom_append .code hsplit.joins, hsplit.code_mode]
    rfl

theorem ink_lineFeed (front back : Text) : ink (front ++ '\n' :: back) = ink front ++ ink back := by
  have hfeed : Text.isBlank '\n' = true := by decide
  rw [ink, inkFrom, cellsFrom_lineFeed, List.filter_append,
    List.filter_cons_of_neg (by simp [hfeed])]
  rfl

/-- The braces of the code are part of its ink. -/
theorem codeBraces_inkFrom (mode : Mode) (text : Text) :
    codeBraces (inkFrom mode text) = codeBraces (cellsFrom mode text) := by
  rw [codeBraces, inkFrom, List.filter_filter, codeBraces]
  congr 1
  apply List.filter_congr
  intro cell _
  rw [Bool.and_eq_left_iff_imp]
  intro hbrace
  rcases (cell.isBrace_iff.mp hbrace).2 with hchar | hchar
  · rw [hchar]
    decide
  · rw [hchar]
    decide

theorem codeBraces_of_ink {text other : Text} (h : ink text = ink other) :
    codeBraces (cells text) = codeBraces (cells other) := by
  rw [cells, cells, ← codeBraces_inkFrom, ← codeBraces_inkFrom]
  exact congrArg codeBraces h

end SchemaCase.Source
