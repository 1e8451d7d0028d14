import Mathlib.Data.List.DropRight
import SchemaCase.Rename.Plan

/-! Names and blanks: no character is both part of a word and blank, so runs of either kind are
read back from a text in which they follow each other. -/

namespace SchemaCase.Text

theorem takeWhile_run {α : Type} {p : α → Bool} {run rest : List α}
    (hrun : ∀ a ∈ run, p a) (hrest : ∀ a ∈ rest.head?, p a = false) :
    (run ++ rest).takeWhile p = run := by
  rw [List.takeWhile_append_of_pos hrun]
  cases rest with
  | nil => simp
  | cons a rest =>
      have ha : p a = false := hrest a rfl
      rw [List.takeWhile_cons_of_neg (by simp [ha]), List.append_nil]

theorem dropWhile_run {α : Type} {p : α → Bool} {run rest : List α}
    (hrun : ∀ a ∈ run, p a) (hrest : ∀ a ∈ rest.head?, p a = false) :
    (run ++ rest).dropWhile p = rest := by
  rw [List.dropWhile_append_of_pos hrun]
  cases rest with
  | nil => rfl
  | cons a rest =>
      have ha : p a = false := hrest a rfl
      rw [List.dropWhile_cons_of_neg (by simp [ha])]

theorem rdropWhile_append_of_pos {α : Type} {p : α → Bool} {front back : List α}
    (h : ∀ a ∈ back, p a) : (front ++ back).rdropWhile p = front.rdropWhile p := by
  rw [List.rdropWhile, List.reverse_append, List.dropWhile_append_of_pos (by simpa using h)]
  rfl

theorem rdropWhile_append {α : Type} {p : α → Bool} (front : List α) {back : List α}
    (h : back.rdropWhile p ≠ []) : (front ++ back).rdropWhile p = front ++ back.rdropWhile p := by
  rw [List.rdropWhile, List.reverse_append, List.dropWhile_append]
  split
  · next hnil => exact absurd (by simpa [List.rdropWhile] using hnil) h
  · simp [List.rdropWhile]

theorem rdropWhile_concat_append {α : Type} {p : α → Bool} (front : List α) {last : α}
    (h : p last = false) (back : List α) :
    (front ++ [last] ++ back).rdropWhile p = front ++ [last] ++ back.rdropWhile p := by
  by_cases hback : back.rdropWhile p = []
  · rw [hback, List.append_nil,
      rdropWhile_append_of_pos (List.rdropWhile_eq_nil_iff.mp hback),
      List.rdropWhile_concat_neg _ _ _ (by simp [h])]
  · exact rdropWhile_append _ hback

theorem head?_dropWhile_false {α : Type} (p : α → Bool) (items : List α) :
    ∀ a ∈ (items.dropWhile p).head?, p a = false := by
  intro a ha
  have h := List.head?_dropWhile_not p items
  rw [Option.mem_def.mp ha] at h
  simpa using h

private def blankCodes : List Nat :=
  List.range' 0x09 5 ++ List.range' 0x1C 5 ++ [0x85, 0xA0, 0x1680] ++ List.range' 0x2000 11 ++
    [0x2028, 0x2029, 0x202F, 0x205F, 0x3000]

private theorem toNat_mem_blankCodes {c : Char} (h : isBlank c) : c.toNat ∈ blankCodes := by
  simp only [isBlank, blankRanges, CodeRanges.contains, List.any_cons, List.any_nil,
    Bool.or_false, Bool.or_eq_true, Bool.and_eq_true, decide_eq_true_eq] at h
  simp only [blankCodes, List.mem_append, List.mem_range'_1, List.mem_cons, List.not_mem_nil,
    or_false]
  omega

private theorem isWordChar_blankCode :
    ∀ code ∈ blankCodes, isWordChar (Char.ofNat code) = false := by
  decide +kernel

theorem isWordChar_of_isBlank {c : Char} (h : isBlank c) : isWordChar c = false := by
  have hcode := isWordChar_blankCode _ (toNat_mem_blankCodes h)
  rwa [Char.ofNat_toNat] at hcode

theorem isBlank_of_isWordChar {c : Char} (h : isWordChar c) : isBlank c = false := by
  by_contra hblank
  simp [isWordChar_of_isBlank (by simpa using hblank)] at h

theorem ne_of_class {p : Char → Bool} {c d : Char} (hc : p c) (hd : p d = false) : c ≠ d := by
  rintro rfl
  simp [hc] at hd

theorem isBlank_of_isInlineBlank {c : Char} (h : isInlineBlank c) : isBlank c := by
  simp only [isInlineBlank, Bool.or_eq_true, beq_iff_eq] at h
  rcases h with rfl | rfl <;> decide

theorem isWordChar_of_isInlineBlank {c : Char} (h : isInlineBlank c) : isWordChar c = false :=
  isWordChar_of_isBlank (isBlank_of_isInlineBlank h)

theorem isInlineBlank_of_isWordChar {c : Char} (h : isWordChar c) : isInlineBlank c = false := by
  by_contra hblank
  simp [isWordChar_of_isInlineBlank (by simpa using hblank)] at h

theorem isWordChar_of_isNameStart {c : Char} (h : isNameStart c) : isWordChar c := by
  simp only [isNameStart, Bool.or_eq_true] at h
  rcases h with h | h
  · simp [isWordChar, Char.isAlphanum, h]
  · simp [isWordChar, h]

/-- A letter or an underscore with characters of words behind it. -/
def IsName : Text → Prop
  | [] => False
  | c :: rest => isNameStart c ∧ ∀ d ∈ rest, isWordChar d

theorem IsName.ne_nil {name : Text} (h : IsName name) : name ≠ [] := by
  rintro rfl
  exact h

theorem IsName.isWordChar {name : Text} (h : IsName name) : ∀ c ∈ name, isWordChar c := by
  cases name with
  | nil => exact h.elim
  | cons c rest =>
      intro d hd
      rcases List.mem_cons.mp hd with rfl | hd
      · exact isWordChar_of_isNameStart h.1
      · exact h.2 d hd

theorem IsName.not_mem {name : Text} (h : IsName name) {c : Char}
    (hc : Text.isWordChar c = false) : c ∉ name :=
  fun hmem => ne_of_class (h.isWordChar c hmem) hc rfl

theorem IsName.head? {name : Text} (h : IsName name) (rest : Text) :
    ∃ c, (name ++ rest).head? = some c ∧ Text.isWordChar c := by
  cases name with
  | nil => exact h.elim
  | cons c name => exact ⟨c, rfl, isWordChar_of_isNameStart h.1⟩

theorem isName_of_isIdentifier {name : Text} (h : isIdentifier name) : IsName name := by
  cases name with
  | nil => simp [isIdentifier] at h
  | cons c rest =>
      simp only [isIdentifier, Bool.and_eq_true, List.all_eq_true] at h
      refine ⟨h.1, fun d hd => ?_⟩
      simp only [Text.isWordChar, Bool.or_eq_true]
      exact Or.inl (by simpa using h.2 d hd)

theorem readName?_append {name rest : Text} (hname : IsName name)
    (hrest : ∀ c ∈ rest.head?, isWordChar c = false) :
    readName? (name ++ rest) = some (name, rest) := by
  cases name with
  | nil => exact hname.elim
  | cons c name =>
      simp only [List.cons_append, readName?, hname.1, if_true,
        takeWhile_run hname.2 hrest, dropWhile_run hname.2 hrest]

theorem readName?_sound {text name rest : Text} (h : readName? text = some (name, rest)) :
    text = name ++ rest ∧ IsName name ∧ ∀ c ∈ rest.head?, isWordChar c = false := by
  cases text with
  | nil => simp [readName?] at h
  | cons c tail =>
      simp only [readName?] at h
      split at h
      · next hstart =>
          cases h
          refine ⟨?_, ⟨hstart, ?_⟩, head?_dropWhile_false _ _⟩
          · rw [List.cons_append, List.takeWhile_append_dropWhile]
          · intro d hd
            exact List.mem_takeWhile_imp hd
      · cases h

theorem leadingBlanks_append_trimStart (text : Text) :
    leadingBlanks text ++ trimStart text = text :=
  List.takeWhile_append_dropWhile

theorem isBlank_leadingBlanks (text : Text) : ∀ c ∈ leadingBlanks text, isBlank c :=
  fun _ => List.mem_takeWhile_imp

theorem trimStart_head? (text : Text) : ∀ c ∈ (trimStart text).head?, isBlank c = false :=
  head?_dropWhile_false _ _

theorem leadingBlanks_run {blanks rest : Text} (hblanks : ∀ c ∈ blanks, isBlank c)
    (hrest : ∀ c ∈ rest.head?, isBlank c = false) : leadingBlanks (blanks ++ rest) = blanks :=
  takeWhile_run hblanks hrest

theorem trimStart_run {blanks rest : Text} (hblanks : ∀ c ∈ blanks, isBlank c)
    (hrest : ∀ c ∈ rest.head?, isBlank c = false) : trimStart (blanks ++ rest) = rest :=
  dropWhile_run hblanks hrest

theorem trimEnd_eq_rdropWhile (text : Text) : trimEnd text = text.rdropWhile isBlank := rfl

theorem trailingBlanks_eq_rtakeWhile (text : Text) :
    trailingBlanks text = text.rtakeWhile isBlank := by
  have h : (text.rdropWhile isBlank ++ text.rtakeWhile isBlank).drop
      (text.rdropWhile isBlank).length = text.rtakeWhile isBlank :=
    List.drop_left
  rwa [List.rdropWhile_append_rtakeWhile] at h

theorem trimEnd_append_trailingBlanks (text : Text) :
    trimEnd text ++ trailingBlanks text = text := by
  rw [trimEnd_eq_rdropWhile, trailingBlanks_eq_rtakeWhile,
    List.rdropWhile_append_rtakeWhile]

theorem isBlank_trailingBlanks (text : Text) : ∀ c ∈ trailingBlanks text, isBlank c := by
  intro c hc
  rw [trailingBlanks_eq_rtakeWhile] at hc
  exact List.mem_rtakeWhile_imp hc

theorem trimEnd_getLast? (text : Text) : ∀ c ∈ (trimEnd text).getLast?, isBlank c = false := by
  rw [trimEnd, List.getLast?_reverse]
  exact head?_dropWhile_false _ _

theorem trimEnd_run {front blanks : Text} (hblanks : ∀ c ∈ blanks, isBlank c)
    (hfront : ∀ c ∈ front.getLast?, isBlank c = false) : trimEnd (front ++ blanks) = front := by
  rw [← List.head?_reverse] at hfront
  rw [trimEnd, List.reverse_append, dropWhile_run (by simpa using hblanks) hfront,
    List.reverse_reverse]

theorem trimEnd_concat {text : Text} {c : Char} (hc : isBlank c = false) :
    trimEnd (text ++ [c]) = text ++ [c] :=
  List.rdropWhile_concat_neg _ _ _ (by simp [hc])

theorem trimEnd_eq_nil_iff (text : Text) : trimEnd text = [] ↔ ∀ c ∈ text, isBlank c :=
  List.rdropWhile_eq_nil_iff

theorem trim_eq_nil_iff (text : Text) : trim text = [] ↔ ∀ c ∈ text, isBlank c := by
  rw [trim, trimEnd_eq_nil_iff]
  constructor
  · intro h c hc
    rw [← leadingBlanks_append_trimStart text] at hc
    rcases List.mem_append.mp hc with hc | hc
    · exact isBlank_leadingBlanks _ _ hc
    · exact h c hc
  · intro h c hc
    exact h c (List.dropWhile_subset _ hc)

theorem trimEnd_trimEnd (text : Text) : trimEnd (trimEnd text) = trimEnd text :=
  List.rdropWhile_idempotent isBlank text

theorem trimEnd_append (front : Text) {back : Text} (h : trimEnd back ≠ []) :
    trimEnd (front ++ back) = front ++ trimEnd back :=
  rdropWhile_append front h

theorem trimEnd_append_blanks {front blanks : Text} (h : ∀ c ∈ blanks, isBlank c) :
    trimEnd (front ++ blanks) = trimEnd front :=
  rdropWhile_append_of_pos h

theorem trimEnd_cons {c : Char} (hc : isBlank c = false) (rest : Text) :
    trimEnd (c :: rest) = c :: trimEnd rest := by
  by_cases hrest : trimEnd rest = []
  · rw [hrest]
    have hblanks := (trimEnd_eq_nil_iff rest).mp hrest
    have hlast : ∀ d ∈ [c].getLast?, isBlank d = false := by simpa using hc
    exact trimEnd_run hblanks hlast
  · exact trimEnd_append [c] hrest

theorem trimStart_of_head? {text : Text} (h : ∀ c ∈ text.head?, isBlank c = false) :
    trimStart text = text := by
  have hnone : ∀ c ∈ ([] : Text), isBlank c := by simp
  exact trimStart_run hnone h

theorem trimEnd_of_getLast? {text : Text} (h : ∀ c ∈ text.getLast?, isBlank c = false) :
    trimEnd text = text := by
  have hnone : ∀ c ∈ ([] : Text), isBlank c := by simp
  simpa using trimEnd_run hnone h

theorem trim_blanks_append {blanks : Text} (h : ∀ c ∈ blanks, isBlank c) (back : Text) :
    trim (blanks ++ back) = trim back := by
  rw [trim, trimStart, List.dropWhile_append_of_pos h]
  rfl

theorem trim_append_blanks (front : Text) {blanks : Text} (h : ∀ c ∈ blanks, isBlank c) :
    trim (front ++ blanks) = trim front := by
  rw [trim, trimStart, List.dropWhile_append, List.dropWhile_eq_nil_iff.mpr h]
  split
  · next hempty =>
      rw [trim, trimStart, List.isEmpty_iff.mp hempty]
  · exact trimEnd_append_blanks h

theorem exists_trim (text : Text) :
    ∃ front back, text = front ++ trim text ++ back ∧ (∀ c ∈ front, isBlank c) ∧
      ∀ c ∈ back, isBlank c := by
  refine ⟨leadingBlanks text, trailingBlanks (trimStart text), ?_,
    isBlank_leadingBlanks _, isBlank_trailingBlanks _⟩
  rw [trim, List.append_assoc, trimEnd_append_trailingBlanks, leadingBlanks_append_trimStart]

theorem trim_subset (text : Text) : trim text ⊆ text := by
  obtain ⟨front, back, htext, -, -⟩ := exists_trim text
  intro c hc
  rw [htext]
  exact List.mem_append_left _ (List.mem_append_right _ hc)

theorem trimEnd_subset (text : Text) : trimEnd text ⊆ text :=
  (List.rdropWhile_prefix _ _).subset

theorem trim_trim (text : Text) : trim (trim text) = trim text := by
  obtain ⟨front, back, htext, hfront, hback⟩ := exists_trim text
  conv_rhs => rw [htext, trim_append_blanks _ hback, trim_blanks_append hfront]

theorem trim_trimEnd (text : Text) : trim (trimEnd text) = trim text := by
  have h := trim_append_blanks (trimEnd text) (isBlank_trailingBlanks text)
  rw [trimEnd_append_trailingBlanks] at h
  exact h.symm

theorem trim_getLast? (text : Text) : ∀ c ∈ (trim text).getLast?, isBlank c = false :=
  trimEnd_getLast? _

theorem trim_of_ends {text : Text} (hhead : ∀ c ∈ text.head?, isBlank c = false)
    (hlast : ∀ c ∈ text.getLast?, isBlank c = false) : trim text = text := by
  rw [trim, trimStart_of_head? hhead, trimEnd_of_getLast? hlast]

/-- A word is not continued by blanks. -/
theorem isPrefix_append_blanks {word : Text} (hword : ∀ c ∈ word, isBlank c = false)
    (front : Text) {blanks : Text} (hblanks : ∀ c ∈ blanks, isBlank c) :
    word <+: front ++ blanks ↔ word <+: front := by
  constructor
  · intro h
    rcases List.prefix_or_prefix_of_prefix h (List.prefix_append front blanks) with h' | ⟨tail, rfl⟩
    · exact h'
    · rw [List.prefix_append_right_inj] at h
      cases tail with
      | nil => simp
      | cons c tail =>
          have hc := hword c (by simp)
          have hblank := hblanks c (h.subset List.mem_cons_self)
          simp [hc] at hblank
  · exact fun h => h.trans (List.prefix_append front blanks)

theorem isPrefix_trimEnd {word : Text} (hword : ∀ c ∈ word, isBlank c = false) (text : Text) :
    word <+: trimEnd text ↔ word <+: text := by
  have h := isPrefix_append_blanks hword (trimEnd text)
    (isBlank_trailingBlanks text)
  rw [trimEnd_append_trailingBlanks] at h
  exact h.symm

theorem isBlank_slashes : ∀ c ∈ ['/', '/'], isBlank c = false := by
  intro c hc
  obtain rfl : c = '/' := by simpa using hc
  decide

end SchemaCase.Text
