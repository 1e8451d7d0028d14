import SchemaCase.Proofs.Source.Scanning
import SchemaCase.Schema.Document

namespace SchemaCase

open Source

def codeBraces (cells : List Cell) : Text :=
  textOf (cells.filter Cell.isBrace)

@[simp] theorem codeBraces_nil : codeBraces [] = [] := rfl

@[simp] theorem codeBraces_append (front back : List Cell) :
    codeBraces (front ++ back) = codeBraces front ++ codeBraces back := by
  simp [codeBraces]

theorem codeBraces_cons_of_not {cell : Cell} (h : cell.isBrace = false) (rest : List Cell) :
    codeBraces (cell :: rest) = codeBraces rest := by
  simp [codeBraces, h]

theorem codeBraces_cons_of_visible {cell : Cell} {c : Char} (h : cell.visible = c)
    (hc : c = '\x7b' ∨ c = '\x7d') (rest : List Cell) :
    codeBraces (cell :: rest) = c :: codeBraces rest := by
  have hblank : c ≠ ' ' := by rcases hc with rfl | rfl <;> decide
  have hchar := ((cell.visible_eq_iff hblank).mp h).2
  have hbrace : cell.isBrace = true := by
    rcases hc with rfl | rfl <;> simp [Cell.isBrace, h]
  simp [codeBraces, hbrace, hchar]

theorem codeBraces_eq_nil_iff (cells : List Cell) :
    codeBraces cells = [] ↔ ∀ cell ∈ cells, cell.isBrace = false := by
  simp [codeBraces, textOf]

theorem codeBraces_cellsFrom_eq_nil (mode : Mode) {text : Text}
    (h : ∀ c ∈ text, c ≠ '\x7b' ∧ c ≠ '\x7d') : codeBraces (cellsFrom mode text) = [] := by
  rw [codeBraces_eq_nil_iff]
  intro cell hcell
  have hchar : cell.char ∈ text := by
    rw [← textOf_cellsFrom mode text]
    exact List.mem_map_of_mem hcell
  rw [Bool.eq_false_iff]
  intro hbrace
  rcases (cell.isBrace_iff.mp hbrace).2 with heq | heq
  · exact (h _ hchar).1 heq
  · exact (h _ hchar).2 heq

/-- With `depth` braces open in front, no brace closes that is not open, and in the end all are
closed. -/
structure Balanced (depth : Nat) (braces : Text) : Prop where
  closings_le : ∀ front, front <+: braces → front.count '\x7d' ≤ depth + front.count '\x7b'
  closings_eq : braces.count '\x7d' = depth + braces.count '\x7b'

theorem Balanced.nil : Balanced 0 [] where
  closings_le front hfront := by simp [List.prefix_nil.mp hfront]
  closings_eq := rfl

theorem Balanced.depth_eq_zero {depth : Nat} (h : Balanced depth []) : depth = 0 := by
  have := h.closings_eq
  simpa using this.symm

private theorem balanced_cons_iff {c : Char} {depth next : Nat}
    (h : next + [c].count '\x7d' = depth + [c].count '\x7b') (braces : Text) :
    Balanced depth (c :: braces) ↔ Balanced next braces := by
  simp only [List.count_singleton] at h
  constructor
  · intro hbalanced
    constructor
    · intro front hfront
      have hle := hbalanced.closings_le (c :: front) (List.cons_prefix_cons.mpr ⟨rfl, hfront⟩)
      simp only [List.count_cons] at hle
      omega
    · have heq := hbalanced.closings_eq
      simp only [List.count_cons] at heq
      omega
  · intro hbalanced
    constructor
    · intro front hfront
      rcases List.prefix_cons_iff.mp hfront with rfl | ⟨tail, rfl, htail⟩
      · simp
      · have hle := hbalanced.closings_le tail htail
        simp only [List.count_cons]
        omega
    · have heq := hbalanced.closings_eq
      simp only [List.count_cons]
      omega

theorem balanced_opening_iff (depth : Nat) (braces : Text) :
    Balanced depth ('\x7b' :: braces) ↔ Balanced (depth + 1) braces :=
  balanced_cons_iff (by simp) braces

theorem balanced_closing_iff (depth : Nat) (braces : Text) :
    Balanced (depth + 1) ('\x7d' :: braces) ↔ Balanced depth braces :=
  balanced_cons_iff (by simp) braces

theorem not_balanced_closing (braces : Text) : ¬Balanced 0 ('\x7d' :: braces) := by
  intro h
  have := h.closings_le ['\x7d'] (List.cons_prefix_cons.mpr ⟨rfl, List.nil_prefix⟩)
  simp at this

theorem splitBody_sound {depth : Nat} {cells body tail : List Cell}
    (h : splitBody depth cells = some (body, tail)) :
    ∃ closing, cells = body ++ closing :: tail ∧ closing.visible = '\x7d' ∧
      Balanced depth (codeBraces body) := by
  induction cells generalizing depth body with
  | nil => simp [splitBody] at h
  | cons cell rest ih =>
      simp only [splitBody, beq_iff_eq] at h
      split at h
      · next hopen =>
          obtain ⟨⟨inner, _⟩, hinner, heq⟩ := Option.map_eq_some_iff.mp h
          cases heq
          obtain ⟨closing, rfl, hclosing, hbalanced⟩ := ih hinner
          refine ⟨closing, rfl, hclosing, ?_⟩
          rw [codeBraces_cons_of_visible hopen (.inl rfl), balanced_opening_iff]
          exact hbalanced
      · next hopen =>
          split at h
          · next hclose =>
              split at h
              · cases h
                exact ⟨cell, rfl, hclose, .nil⟩
              · obtain ⟨⟨inner, _⟩, hinner, heq⟩ := Option.map_eq_some_iff.mp h
                cases heq
                obtain ⟨closing, rfl, hclosing, hbalanced⟩ := ih hinner
                refine ⟨closing, rfl, hclosing, ?_⟩
                rw [codeBraces_cons_of_visible hclose (.inr rfl), balanced_closing_iff]
                exact hbalanced
          · next hclose =>
              obtain ⟨⟨inner, _⟩, hinner, heq⟩ := Option.map_eq_some_iff.mp h
              cases heq
              obtain ⟨closing, rfl, hclosing, hbalanced⟩ := ih hinner
              refine ⟨closing, rfl, hclosing, ?_⟩
              rw [codeBraces_cons_of_not (by simp [Cell.isBrace, hopen, hclose])]
              exact hbalanced

theorem splitBody_complete {depth : Nat} {body : List Cell}
    (hbalanced : Balanced depth (codeBraces body)) {closing : Cell}
    (hclosing : closing.visible = '\x7d') (tail : List Cell) :
    splitBody depth (body ++ closing :: tail) = some (body, tail) := by
  induction body generalizing depth with
  | nil =>
      obtain rfl := hbalanced.depth_eq_zero
      simp [splitBody, hclosing]
  | cons cell rest ih =>
      simp only [List.cons_append, splitBody, beq_iff_eq]
      by_cases hopen : cell.visible = '\x7b'
      · rw [codeBraces_cons_of_visible hopen (.inl rfl), balanced_opening_iff] at hbalanced
        rw [if_pos hopen, ih hbalanced]
        rfl
      · by_cases hclose : cell.visible = '\x7d'
        · rw [codeBraces_cons_of_visible hclose (.inr rfl)] at hbalanced
          rw [if_neg hopen, if_pos hclose]
          cases depth with
          | zero => exact absurd hbalanced (not_balanced_closing _)
          | succ depth =>
              rw [balanced_closing_iff] at hbalanced
              simp only [ih hbalanced]
              rfl
        · rw [codeBraces_cons_of_not (by simp [Cell.isBrace, hopen, hclose])] at hbalanced
          rw [if_neg hopen, if_neg hclose, ih hbalanced]
          rfl

/-- However far one reads, no brace closes that is not among the `depth` open ones or opens
later. -/
def StaysOpen (depth : Nat) (braces : Text) : Prop :=
  ∀ front, front <+: braces → front.count '\x7d' ≤ depth + front.count '\x7b'

private theorem staysOpen_cons {c : Char} {depth next : Nat} {braces : Text}
    (h : next + [c].count '\x7d' = depth + [c].count '\x7b') (hopen : StaysOpen next braces) :
    StaysOpen depth (c :: braces) := by
  intro front hfront
  rcases List.prefix_cons_iff.mp hfront with rfl | ⟨tail, rfl, htail⟩
  · simp
  · have hle := hopen tail htail
    simp only [List.count_singleton] at h
    simp only [List.count_cons]
    omega

theorem staysOpen_of_splitBody {depth : Nat} {cells : List Cell}
    (h : splitBody depth cells = none) : StaysOpen depth (codeBraces cells) := by
  induction cells generalizing depth with
  | nil =>
      intro front hfront
      rw [codeBraces_nil, List.prefix_nil] at hfront
      simp [hfront]
  | cons cell rest ih =>
      simp only [splitBody, beq_iff_eq] at h
      split at h
      · next hopen =>
          rw [codeBraces_cons_of_visible hopen (.inl rfl)]
          exact staysOpen_cons (by simp) (ih (Option.map_eq_none_iff.mp h))
      · next hopen =>
          split at h
          · next hclose =>
              rw [codeBraces_cons_of_visible hclose (.inr rfl)]
              cases depth with
              | zero => cases h
              | succ depth => exact staysOpen_cons (by simp) (ih (Option.map_eq_none_iff.mp h))
          · next hclose =>
              rw [codeBraces_cons_of_not (by simp [Cell.isBrace, hopen, hclose])]
              exact ih (Option.map_eq_none_iff.mp h)

/-- As many closing braces as are missing. -/
theorem StaysOpen.balanced {depth : Nat} {braces : Text} (h : StaysOpen depth braces) :
    Balanced depth (braces ++
      List.replicate (depth + braces.count '\x7b' - braces.count '\x7d') '\x7d') := by
  have hall := h braces List.prefix_rfl
  constructor
  · intro front hfront
    rcases List.prefix_or_prefix_of_prefix hfront (List.prefix_append _ _) with hinside | hbehind
    · exact h front hinside
    · obtain ⟨closings, rfl⟩ := hbehind
      have hlength := ((List.prefix_append_right_inj braces).mp hfront).length_le
      have hcount := List.count_le_length (a := '\x7d') (l := closings)
      rw [List.length_replicate] at hlength
      simp only [List.count_append]
      omega
  · simp only [List.count_append, List.count_replicate]
    simp only [beq_self_eq_true, if_true]
    rw [if_neg (by decide)]
    omega

end SchemaCase
