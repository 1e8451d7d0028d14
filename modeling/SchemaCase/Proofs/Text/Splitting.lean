import Mathlib.Data.List.Basic
import SchemaCase.Text.Basic

namespace SchemaCase

namespace Text

variable {isSeparator : Char → Bool}

theorem exists_splitWhere (isSeparator : Char → Bool) (text : Text) :
    ∃ piece pieces, splitWhere isSeparator text = piece :: pieces := by
  cases text with
  | nil => exact ⟨_, _, rfl⟩
  | cons c rest =>
      rw [splitWhere]
      split
      · exact ⟨_, _, rfl⟩
      · split <;> exact ⟨_, _, rfl⟩

theorem splitWhere_cons_separator {c : Char} (h : isSeparator c) (rest : Text) :
    splitWhere isSeparator (c :: rest) = [] :: splitWhere isSeparator rest := by
  obtain ⟨piece, pieces, hrest⟩ := exists_splitWhere isSeparator rest
  rw [splitWhere, hrest]
  exact if_pos h

theorem splitWhere_cons_other {c : Char} {rest piece : Text} {pieces : List Text}
    (h : isSeparator c = false) (hrest : splitWhere isSeparator rest = piece :: pieces) :
    splitWhere isSeparator (c :: rest) = (c :: piece) :: pieces := by
  rw [splitWhere, hrest]
  exact if_neg (by simp [h])

theorem not_isSeparator_of_mem_splitWhere {text : Text} :
    ∀ piece ∈ splitWhere isSeparator text, ∀ c ∈ piece, isSeparator c = false := by
  induction text with
  | nil => simp [splitWhere]
  | cons c rest ih =>
      cases hc : isSeparator c with
      | true =>
          rw [splitWhere_cons_separator hc, List.forall_mem_cons]
          exact ⟨by simp, ih⟩
      | false =>
          obtain ⟨piece, pieces, hrest⟩ := exists_splitWhere isSeparator rest
          rw [hrest, List.forall_mem_cons] at ih
          rw [splitWhere_cons_other hc hrest, List.forall_mem_cons, List.forall_mem_cons]
          exact ⟨⟨hc, ih.1⟩, ih.2⟩

/-- Whatever separates nothing is in one of the pieces. -/
theorem exists_mem_splitWhere (isSeparator : Char → Bool) {text : Text} {c : Char}
    (hc : isSeparator c = false) (h : c ∈ text) :
    ∃ piece ∈ splitWhere isSeparator text, c ∈ piece := by
  induction text with
  | nil => cases h
  | cons d rest ih =>
      obtain ⟨piece, pieces, hrest⟩ := exists_splitWhere isSeparator rest
      cases hd : isSeparator d with
      | true =>
          rw [splitWhere_cons_separator hd]
          obtain rfl | h := List.mem_cons.mp h
          · rw [hc] at hd
            cases hd
          · obtain ⟨found, hfound, hmem⟩ := ih h
            exact ⟨found, List.mem_cons_of_mem _ hfound, hmem⟩
      | false =>
          rw [splitWhere_cons_other hd hrest]
          obtain rfl | h := List.mem_cons.mp h
          · exact ⟨c :: piece, List.mem_cons_self, List.mem_cons_self⟩
          · obtain ⟨found, hfound, hmem⟩ := ih h
            rw [hrest] at hfound
            obtain rfl | hfound := List.mem_cons.mp hfound
            · exact ⟨d :: found, List.mem_cons_self, List.mem_cons_of_mem d hmem⟩
            · exact ⟨found, List.mem_cons_of_mem _ hfound, hmem⟩

theorem splitWhere_run {run : Text} (h : ∀ c ∈ run, isSeparator c = false) :
    splitWhere isSeparator run = [run] := by
  induction run with
  | nil => rfl
  | cons c run ih =>
      rw [List.forall_mem_cons] at h
      exact splitWhere_cons_other h.1 (ih h.2)

theorem splitWhere_run_append {run : Text} {c : Char} (h : ∀ c ∈ run, isSeparator c = false)
    (hc : isSeparator c) (rest : Text) :
    splitWhere isSeparator (run ++ c :: rest) = run :: splitWhere isSeparator rest := by
  induction run with
  | nil => exact splitWhere_cons_separator hc rest
  | cons d run ih =>
      rw [List.forall_mem_cons] at h
      exact splitWhere_cons_other h.1 (ih h.2)

theorem splitWhere_join {c : Char} {words : List Text} (hc : isSeparator c)
    (hwords : ∀ word ∈ words, ∀ c ∈ word, isSeparator c = false) (hne : words ≠ []) :
    splitWhere isSeparator (join [c] words) = words := by
  induction words with
  | nil => exact absurd rfl hne
  | cons word words ih =>
      rw [List.forall_mem_cons] at hwords
      cases words with
      | nil => exact splitWhere_run hwords.1
      | cons next words =>
          rw [join, List.append_assoc, List.singleton_append, splitWhere_run_append hwords.1 hc,
            ih hwords.2 (List.cons_ne_nil _ _)]

theorem join_cons (separator first : Text) (rest : List Text) :
    join separator (first :: rest) = first ++ rest.flatMap (separator ++ ·) := by
  induction rest generalizing first with
  | nil => simp [join]
  | cons next rest ih =>
      rw [join, ih, List.flatMap_cons, List.append_assoc, List.append_assoc]

theorem mem_join {separator : Text} {words : List Text} {c : Char}
    (h : c ∈ join separator words) : c ∈ separator ∨ ∃ word ∈ words, c ∈ word := by
  induction words with
  | nil => cases h
  | cons word words ih =>
      cases words with
      | nil => exact .inr ⟨word, List.mem_cons_self, h⟩
      | cons next words =>
          rw [join, List.mem_append, List.mem_append] at h
          rcases h with (hword | hseparator) | hrest
          · exact .inr ⟨word, List.mem_cons_self, hword⟩
          · exact .inl hseparator
          · refine (ih hrest).imp_right fun ⟨other, hother, hc⟩ => ?_
            exact ⟨other, List.mem_cons_of_mem _ hother, hc⟩

end Text

end SchemaCase
