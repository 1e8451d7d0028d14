import SchemaCase.Layout.Body
import SchemaCase.Proofs.Text.Words

namespace SchemaCase.Layout

theorem collapseFrom_nil_cons (lines : List Text) :
    collapseFrom true ([] :: lines) = collapseFrom true lines := rfl

theorem collapseFrom_cons_of_ne_nil (afterEmpty : Bool) {line : Text} (h : line ≠ [])
    (rest : List Text) :
    collapseFrom afterEmpty (line :: rest) = line :: collapseFrom false rest := by
  have hline : line.isEmpty = false := by simpa using h
  rw [collapseFrom, hline]
  rfl

theorem collapseFrom_double (afterEmpty : Bool) (lines : List Text) :
    collapseFrom afterEmpty ([] :: [] :: lines) = collapseFrom afterEmpty ([] :: lines) := by
  cases afterEmpty with
  | false => rfl
  | true => rfl

theorem collapseFrom_congr (afterEmpty : Bool) {line : Text} {lines others : List Text}
    (h : ∀ between, collapseFrom between lines = collapseFrom between others) :
    collapseFrom afterEmpty (line :: lines) = collapseFrom afterEmpty (line :: others) := by
  simp only [collapseFrom, h]

theorem collapseFrom_sublist (afterEmpty : Bool) (lines : List Text) :
    (collapseFrom afterEmpty lines).Sublist lines := by
  induction lines generalizing afterEmpty with
  | nil => exact .slnil
  | cons line rest ih =>
      rw [collapseFrom]
      split
      · exact (ih true).cons line
      · exact (ih line.isEmpty).cons_cons line

theorem collapseFrom_append (afterEmpty : Bool) (front back : List Text) :
    ∃ between, collapseFrom afterEmpty (front ++ back) =
      collapseFrom afterEmpty front ++ collapseFrom between back := by
  induction front generalizing afterEmpty with
  | nil => exact ⟨afterEmpty, rfl⟩
  | cons line front ih =>
      rw [List.cons_append, collapseFrom, collapseFrom]
      split
      · exact ih true
      · obtain ⟨between, hfront⟩ := ih line.isEmpty
        exact ⟨between, by rw [hfront, List.cons_append]⟩

theorem collapseFrom_append_cons (afterEmpty : Bool) (front : List Text) {line : Text}
    (h : line ≠ []) (back : List Text) :
    collapseFrom afterEmpty (front ++ line :: back) =
      collapseFrom afterEmpty front ++ line :: collapseFrom false back := by
  obtain ⟨between, happend⟩ := collapseFrom_append afterEmpty front (line :: back)
  rw [happend, collapseFrom_cons_of_ne_nil between h]

theorem collapseFrom_append_of_ne_nil (afterEmpty : Bool) {front : List Text}
    (h : ∀ line ∈ front, line ≠ []) (back : List Text) :
    collapseFrom afterEmpty (front ++ back) =
      front ++ collapseFrom (afterEmpty && front.isEmpty) back := by
  induction front generalizing afterEmpty with
  | nil => simp
  | cons line front ih =>
      rw [List.forall_mem_cons] at h
      rw [List.cons_append, collapseFrom_cons_of_ne_nil afterEmpty h.1, ih false h.2]
      simp

theorem collapseFrom_collapseFrom (afterEmpty : Bool) (lines : List Text) :
    collapseFrom afterEmpty (collapseFrom afterEmpty lines) = collapseFrom afterEmpty lines := by
  induction lines generalizing afterEmpty with
  | nil => rfl
  | cons line rest ih =>
      rw [collapseFrom]
      split
      · next hempty =>
          obtain rfl : afterEmpty = true := (Bool.and_eq_true_iff.mp hempty).2
          exact ih true
      · next hkept => rw [collapseFrom, if_neg hkept, ih]

/-- What was collapsed is so up to any of its lines. -/
theorem collapseFrom_left {afterEmpty : Bool} {front back : List Text}
    (h : collapseFrom afterEmpty (front ++ back) = front ++ back) :
    collapseFrom afterEmpty front = front := by
  obtain ⟨between, happend⟩ := collapseFrom_append afterEmpty front back
  rw [h] at happend
  apply (collapseFrom_sublist afterEmpty front).eq_of_length_le
  have hlength := congrArg List.length happend
  have hback := (collapseFrom_sublist between back).length_le
  simp only [List.length_append] at hlength
  omega

theorem collapseFrom_of_afterEmpty {lines : List Text} (h : collapseFrom true lines = lines) :
    collapseFrom false lines = lines := by
  cases lines with
  | nil => rfl
  | cons line rest =>
      cases line with
      | nil =>
          have hlength := (collapseFrom_sublist true rest).length_le
          rw [collapseFrom_nil_cons] at h
          rw [h] at hlength
          exact absurd hlength (by simp)
      | cons c line => exact h

theorem collapseEmpty_eq (lines : List Text) :
    collapseEmpty lines = (collapseFrom true lines).rdropWhile List.isEmpty := rfl

theorem rdropWhile_append_empty (front : List Text) {back : List Text}
    (h : ∀ line ∈ back, line = []) :
    (front ++ back).rdropWhile List.isEmpty = front.rdropWhile List.isEmpty :=
  Text.rdropWhile_append_of_pos fun line hline => by rw [h line hline]; rfl

theorem collapseEmpty_nil_cons (lines : List Text) :
    collapseEmpty ([] :: lines) = collapseEmpty lines := rfl

theorem collapseEmpty_append_empty (front : List Text) {back : List Text}
    (h : ∀ line ∈ back, line = []) : collapseEmpty (front ++ back) = collapseEmpty front := by
  obtain ⟨between, happend⟩ := collapseFrom_append true front back
  rw [collapseEmpty_eq, happend, rdropWhile_append_empty, collapseEmpty_eq]
  intro line hline
  exact h line ((collapseFrom_sublist between back).subset hline)

theorem exists_rdropWhile (lines : List Text) :
    ∃ ends, lines = lines.rdropWhile List.isEmpty ++ ends ∧ ∀ line ∈ ends, line = [] := by
  refine ⟨lines.rtakeWhile List.isEmpty, List.rdropWhile_append_rtakeWhile.symm, ?_⟩
  intro line hline
  exact List.isEmpty_iff.mp (List.mem_rtakeWhile_imp hline)

theorem collapseFrom_collapseEmpty (lines : List Text) :
    collapseFrom true (collapseEmpty lines) = collapseEmpty lines := by
  obtain ⟨ends, hends, -⟩ := exists_rdropWhile (collapseFrom true lines)
  have htwice := collapseFrom_collapseFrom true lines
  rw [hends] at htwice
  exact collapseFrom_left htwice

theorem collapseEmpty_collapseEmpty (lines : List Text) :
    collapseEmpty (collapseEmpty lines) = collapseEmpty lines := by
  rw [collapseEmpty_eq (collapseEmpty lines), collapseFrom_collapseEmpty]
  exact List.rdropWhile_idempotent _ _

/-- An empty line in front of collapsed ones stays one. -/
theorem rdropWhile_collapse (lines : List Text) :
    ([] :: collapseFrom true (([] :: collapseFrom true lines).rdropWhile List.isEmpty)).rdropWhile
        List.isEmpty =
      ([] :: collapseFrom true lines).rdropWhile List.isEmpty := by
  let shown := ([] :: collapseFrom true lines).rdropWhile List.isEmpty
  obtain ⟨ends, hends⟩ : shown <+: [] :: collapseFrom true lines := List.rdropWhile_prefix _ _
  have hdropped : shown.rdropWhile List.isEmpty = shown := List.rdropWhile_idempotent _ _
  change ([] :: collapseFrom true shown).rdropWhile List.isEmpty = shown
  cases hshown : shown with
  | nil => rfl
  | cons line rest =>
      rw [hshown] at hends hdropped
      obtain ⟨rfl, hrest⟩ := List.cons.inj hends
      have hcollapsed := collapseFrom_collapseFrom true lines
      rw [← hrest] at hcollapsed
      rw [collapseFrom_nil_cons, collapseFrom_left hcollapsed, hdropped]

theorem collapseEmpty_subset (lines : List Text) : collapseEmpty lines ⊆ lines := by
  intro line hline
  apply (collapseFrom_sublist true lines).subset
  exact (List.rdropWhile_prefix _ _).subset hline

theorem filter_collapseFrom (afterEmpty : Bool) (lines : List Text) :
    (collapseFrom afterEmpty lines).filter (fun line => !line.isEmpty) =
      lines.filter fun line => !line.isEmpty := by
  induction lines generalizing afterEmpty with
  | nil => rfl
  | cons line rest ih =>
      rw [collapseFrom]
      split
      · next hempty =>
          have hline : line.isEmpty = true := (Bool.and_eq_true_iff.mp hempty).1
          rw [ih, List.filter_cons_of_neg (by simp [hline])]
      · rw [List.filter_cons, List.filter_cons, ih]

theorem filter_append_empty (front : List Text) {ends : List Text} (h : ∀ line ∈ ends, line = []) :
    (front ++ ends).filter (fun line => !line.isEmpty) =
      front.filter fun line => !line.isEmpty := by
  have hnone : ends.filter (fun line => !line.isEmpty) = [] := by
    rw [List.filter_eq_nil_iff]
    intro line hline
    simp [h line hline]
  rw [List.filter_append, hnone, List.append_nil]

theorem filter_rdropWhile (lines : List Text) :
    (lines.rdropWhile List.isEmpty).filter (fun line => !line.isEmpty) =
      lines.filter fun line => !line.isEmpty := by
  obtain ⟨ends, hends, hempty⟩ := exists_rdropWhile lines
  conv_rhs => rw [hends, filter_append_empty _ hempty]

theorem filter_collapseEmpty (lines : List Text) :
    (collapseEmpty lines).filter (fun line => !line.isEmpty) =
      lines.filter fun line => !line.isEmpty := by
  rw [collapseEmpty_eq, filter_rdropWhile, filter_collapseFrom]

/-- What empty lines add nothing to is told by the others. -/
theorem flatMap_filter {β : Type} {f : Text → List β} (h : f [] = []) (lines : List Text) :
    (lines.filter fun line => !line.isEmpty).flatMap f = lines.flatMap f := by
  induction lines with
  | nil => rfl
  | cons line rest ih =>
      cases line with
      | nil => rw [List.filter_cons_of_neg (by simp), ih, List.flatMap_cons, h, List.nil_append]
      | cons c line =>
          rw [List.filter_cons_of_pos (by simp), List.flatMap_cons, List.flatMap_cons, ih]

theorem flatMap_congr_filter {β : Type} {f : Text → List β} (h : f [] = [])
    {lines others : List Text}
    (heq : lines.filter (fun line => !line.isEmpty) = others.filter fun line => !line.isEmpty) :
    lines.flatMap f = others.flatMap f := by
  rw [← flatMap_filter h lines, heq, flatMap_filter h]

end SchemaCase.Layout
