import Mathlib.Data.List.Forall2
import SchemaCase.Text.Basic

/-! Lists whose members correspond one by one, steps that may fail, and the longest of some
texts. -/

namespace SchemaCase

section Corresponding

variable {α β γ δ : Type} {Related : α → β → Prop} {items : List α} {others : List β}

theorem forall_left_of_forall₂ {Holds : α → Prop} (h : List.Forall₂ Related items others)
    (hholds : ∀ item other, Related item other → Holds item) : ∀ item ∈ items, Holds item := by
  have hboth := h.imp fun item other hrelated => And.intro (hholds item other hrelated) hrelated
  exact ((List.forall₂_and_left items others).mp hboth).1

theorem forall_right_of_forall₂ {Holds : β → Prop} (h : List.Forall₂ Related items others)
    (hholds : ∀ item other, Related item other → Holds other) :
    ∀ other ∈ others, Holds other := by
  have hflip : List.Forall₂ (flip Related) others items := h.flip
  exact forall_left_of_forall₂ hflip fun other item => hholds item other

theorem forall₂_compose {Next : β → γ → Prop} {Whole : α → γ → Prop} {ends : List γ}
    (hfirst : List.Forall₂ Related items others) (hnext : List.Forall₂ Next others ends)
    (hwhole : ∀ start middle last, Related start middle → Next middle last → Whole start last) :
    List.Forall₂ Whole items ends := by
  induction hfirst generalizing ends with
  | nil =>
      rw [List.forall₂_nil_left_iff] at hnext
      rw [hnext]
      exact .nil
  | cons hhead htail ih =>
      obtain ⟨last, rest, hlast, hrest, rfl⟩ := List.forall₂_cons_left_iff.mp hnext
      exact .cons (hwhole _ _ _ hhead hlast) (ih hrest)

theorem map_eq_of_forall₂ {first : α → γ} {second : β → γ}
    (h : List.Forall₂ Related items others)
    (hsame : ∀ item other, Related item other → second other = first item) :
    others.map second = items.map first := by
  rw [eq_comm, ← List.forall₂_eq_eq_eq, List.forall₂_map_left_iff, List.forall₂_map_right_iff]
  exact h.imp fun item other hrelated => (hsame item other hrelated).symm

theorem zipWith_congr_right {combine : δ → α → γ} {other : δ → β → γ} (left : List δ)
    (h : List.Forall₂ (fun item next => ∀ first, other first next = combine first item)
      items others) :
    List.zipWith other left others = List.zipWith combine left items := by
  induction h generalizing left with
  | nil => simp
  | cons hhead htail ih =>
      cases left with
      | nil => rfl
      | cons first left => rw [List.zipWith_cons_cons, List.zipWith_cons_cons, hhead, ih]

theorem mapM_eq_ok_iff {ε : Type} {step : α → Except ε β} :
    items.mapM step = .ok others ↔
      List.Forall₂ (fun item result => step item = .ok result) items others := by
  induction items generalizing others with
  | nil => cases others <;> simp [pure, Except.pure]
  | cons item items ih =>
      rw [List.mapM_cons]
      cases hitem : step item with
      | error error => cases others <;> simp [bind, Except.bind, hitem]
      | ok result =>
          cases hitems : items.mapM step with
          | error error => cases others <;> simp [bind, Except.bind, ← ih, hitems, hitem]
          | ok results =>
              cases others <;> simp [bind, Except.bind, pure, Except.pure, ← ih, hitems, hitem]

end Corresponding

namespace Text

theorem length_le_foldl (texts : List Text) (width : Nat) :
    width ≤ texts.foldl (fun width text => max width text.length) width ∧
      ∀ text ∈ texts,
        text.length ≤ texts.foldl (fun width text => max width text.length) width := by
  induction texts generalizing width with
  | nil => exact ⟨Nat.le_refl width, by simp⟩
  | cons first rest ih =>
      obtain ⟨hwidth, hrest⟩ := ih (max width first.length)
      rw [List.foldl_cons, List.forall_mem_cons]
      exact ⟨by omega, by omega, hrest⟩

theorem length_le_widest {text : Text} {texts : List Text} (h : text ∈ texts) :
    text.length ≤ widest texts :=
  (length_le_foldl texts 0).2 text h

end Text

end SchemaCase
