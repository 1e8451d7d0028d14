import Mathlib
import SchemaCase.Name.Case
import SchemaCase.Proofs.Text.Splitting

/-! Case conventions applied to names that are in their case already. Capitals mark the words of
such a name, but not all capitals do: behind another one, a capital starts a word only if a small
letter follows. -/

namespace SchemaCase

namespace Name

theorem not_isUpper_of_isDigit {c : Char} (h : c.isDigit) : ¬ c.isUpper := by
  simp only [Char.isDigit, Char.isUpper, Bool.and_eq_true, decide_eq_true_eq, ge_iff_le,
    UInt32.le_iff_toNat_le] at h ⊢
  have hnine : '9'.val.toNat < 'A'.val.toNat := by decide
  omega

theorem not_isUpper_of_isWordLetter {c : Char} (h : isWordLetter c) : ¬ c.isUpper := by
  rw [isWordLetter, Bool.or_eq_true] at h
  rcases h with hdigit | hlower
  · exact not_isUpper_of_isDigit hdigit
  · exact Char.not_isUpper_of_isLower hlower

theorem isAlphanum_of_isWordLetter {c : Char} (h : isWordLetter c) : c.isAlphanum := by
  rw [isWordLetter, Bool.or_eq_true] at h
  rw [Char.isAlphanum, Char.isAlpha, Bool.or_eq_true, Bool.or_eq_true]
  exact h.symm.imp_left .inr

theorem isWordLetter_of_not_isUpper {c : Char} (h : c.isAlphanum) (hupper : ¬ c.isUpper) :
    isWordLetter c := by
  rw [Char.isAlphanum, Char.isAlpha, Bool.or_eq_true, Bool.or_eq_true] at h
  rw [isWordLetter, Bool.or_eq_true]
  exact h.symm.imp_right fun halpha => halpha.resolve_left hupper

theorem isWordLetter_toLower {c : Char} (h : c.isAlphanum) : isWordLetter c.toLower := by
  by_cases hupper : c.isUpper
  · simp [isWordLetter, Char.isAlpha, hupper]
  · rw [Char.toLower_eq_of_not_isUpper hupper]
    exact isWordLetter_of_not_isUpper h hupper

theorem isAlphanum_toUpper {c : Char} (h : c.isAlphanum) : c.toUpper.isAlphanum := by
  by_cases hlower : c.isLower
  · simp [Char.isAlphanum, Char.isAlpha, hlower]
  · rwa [Char.toUpper_eq_of_not_isLower hlower]

theorem toLower_eq_iff {c : Char} : c.toLower = c ↔ ¬ c.isUpper := by
  refine ⟨fun h => ?_, Char.toLower_eq_of_not_isUpper⟩
  rw [← h, Char.isUpper_toLower_eq_false]
  exact Bool.false_ne_true

theorem toNat_lt_of_isAlphanum {c : Char} (h : c.isAlphanum) : c.toNat < 0x80 := by
  simp only [Char.isAlphanum, Char.isAlpha, Char.isUpper, Char.isLower, Char.isDigit,
    Bool.or_eq_true, Bool.and_eq_true, decide_eq_true_eq, UInt32.le_iff_toNat_le] at h
  have hcode : c.toNat = c.val.toNat := rfl
  have hcapital : 'Z'.val.toNat < 0x80 := by decide
  have hsmall : 'z'.val.toNat < 0x80 := by decide
  have hdigit : '9'.val.toNat < 0x80 := by decide
  omega

end Name

theorem Text.lowerFrom_ascii {text : Text} (h : ∀ c ∈ text, c.toNat < 0x80) (afterCased : Bool) :
    lowerFrom afterCased text = text.map Char.toLower := by
  induction text generalizing afterCased with
  | nil => rfl
  | cons c rest ih =>
      rw [List.forall_mem_cons] at h
      have hsigma : (c == 'Σ') = false := by
        rw [beq_eq_false_iff_ne]
        rintro rfl
        exact absurd h.1 (by decide)
      have hchar : lowerChar c = [c.toLower] := if_pos h.1
      rw [lowerFrom, hsigma, hchar, ih h.2]
      rfl

theorem Text.toLower_mem_lowerFrom {text : Text} {c : Char} (h : c ∈ text) (hc : c.toNat < 0x80)
    (afterCased : Bool) : c.toLower ∈ lowerFrom afterCased text := by
  induction text generalizing afterCased with
  | nil => cases h
  | cons d rest ih =>
      rw [lowerFrom, List.mem_append]
      rcases List.mem_cons.mp h with rfl | h
      · have hsigma : (c == 'Σ') = false := by
          rw [beq_eq_false_iff_ne]
          rintro rfl
          exact absurd hc (by decide)
        have hchar : lowerChar c = [c.toLower] := if_pos hc
        simp [hsigma, hchar]
      · exact .inr (ih h _)

namespace Name

theorem words_spec {name word : Text} (h : word ∈ words name) :
    word ≠ [] ∧ ∀ c ∈ word, isWordLetter c := by
  obtain ⟨hmem, hne⟩ := List.mem_filter.mp h
  refine ⟨by simpa using hne, fun c hc => ?_⟩
  simpa using Text.not_isSeparator_of_mem_splitWhere word hmem c hc

theorem mem_separateFrom {previous : Option Char} {name : Text} {c : Char}
    (h : c ∈ separateFrom previous name) : c = '_' ∨ c ∈ name := by
  induction name generalizing previous with
  | nil => cases h
  | cons d rest ih =>
      rw [separateFrom] at h
      split at h
      · rcases List.mem_cons.mp h with rfl | h
        · exact .inl rfl
        · rcases List.mem_cons.mp h with rfl | h
          · exact .inr List.mem_cons_self
          · exact (ih h).imp_right (List.mem_cons_of_mem d)
      · rcases List.mem_cons.mp h with rfl | h
        · exact .inr List.mem_cons_self
        · exact (ih h).imp_right (List.mem_cons_of_mem d)

theorem mem_separateFrom_of_mem {name : Text} {c : Char} (h : c ∈ name) (previous : Option Char) :
    c ∈ separateFrom previous name := by
  induction name generalizing previous with
  | nil => cases h
  | cons d rest ih =>
      have hmem : c ∈ d :: separateFrom (some d) rest := by
        rcases List.mem_cons.mp h with rfl | h
        · exact List.mem_cons_self
        · exact List.mem_cons_of_mem d (ih h (some d))
      rw [separateFrom]
      split
      · exact List.mem_cons_of_mem '_' hmem
      · exact hmem

theorem separateFrom_of_not_isUpper {name : Text} (h : ∀ c ∈ name, ¬ c.isUpper)
    (previous : Option Char) : separateFrom previous name = name := by
  induction name generalizing previous with
  | nil => rfl
  | cons c rest ih =>
      rw [List.forall_mem_cons] at h
      have hstarts : previous.any (startsWord · c rest.head?) = false := by
        cases previous <;> simp [startsWord, h.1]
      rw [separateFrom, hstarts, ih h.2]
      rfl

/-- Without accents and the like, capitals turn into small letters one by one. -/
theorem separated_alphanum {name : Text} (h : ∀ c ∈ name, c.isAlphanum ∨ c = '_') :
    separated name = (separateFrom none name).map Char.toLower := by
  have hchars : ∀ c ∈ separateFrom none name, c.isAlphanum ∨ c = '_' := by
    intro c hc
    rcases mem_separateFrom hc with rfl | hc
    · exact .inr rfl
    · exact h c hc
  have hhyphen : Text.replace '-' '_' (separateFrom none name) = separateFrom none name := by
    refine (List.map_congr_left fun c hc => if_neg ?_).trans (List.map_id _)
    rw [beq_iff_eq]
    rintro rfl
    exact absurd (hchars '-' hc) (by decide)
  rw [separated, hhyphen, Text.lower, Text.lowerFrom_ascii]
  intro c hc
  rcases hchars c hc with halnum | rfl
  · exact toNat_lt_of_isAlphanum halnum
  · decide

/-- An ASCII letter or digit belongs to some word, whatever stands around it. -/
theorem words_ne_nil {name : Text} {c : Char} (hc : c ∈ name) (h : c.isAlphanum) :
    words name ≠ [] := by
  have hhyphen : c ≠ '-' := by
    rintro rfl
    exact absurd h (by decide)
  have hmem : c ∈ Text.replace '-' '_' (separateFrom none name) :=
    List.mem_map.mpr ⟨c, mem_separateFrom_of_mem hc none, if_neg (by simpa using hhyphen)⟩
  have hlower : c.toLower ∈ separated name :=
    Text.toLower_mem_lowerFrom hmem (toNat_lt_of_isAlphanum h) false
  have hletter : (!isWordLetter c.toLower) = false := by rw [isWordLetter_toLower h]; rfl
  obtain ⟨word, hword, hinside⟩ :=
    Text.exists_mem_splitWhere (fun d => !isWordLetter d) hletter hlower
  have hkept : word ∈ words name :=
    List.mem_filter.mpr ⟨hword, by simpa using List.ne_nil_of_mem hinside⟩
  exact List.ne_nil_of_mem hkept

/-- The words that are joined by underscores are found again. -/
theorem words_join {names : List Text}
    (h : ∀ word ∈ names, word ≠ [] ∧ ∀ c ∈ word, isWordLetter c) (hne : names ≠ []) :
    words (Text.join ['_'] names) = names := by
  have hchars : ∀ c ∈ Text.join ['_'] names, isWordLetter c ∨ c = '_' := by
    intro c hc
    rcases Text.mem_join hc with hc | ⟨word, hword, hc⟩
    · exact .inr (List.mem_singleton.mp hc)
    · exact .inl ((h word hword).2 c hc)
  have hsmall : ∀ c ∈ Text.join ['_'] names, ¬ c.isUpper := by
    intro c hc
    rcases hchars c hc with hletter | rfl
    · exact not_isUpper_of_isWordLetter hletter
    · decide
  have hseparated : separated (Text.join ['_'] names) = Text.join ['_'] names := by
    rw [separated_alphanum, separateFrom_of_not_isUpper hsmall]
    · exact (List.map_congr_left fun c hc =>
        Char.toLower_eq_of_not_isUpper (hsmall c hc)).trans (List.map_id _)
    · exact fun c hc => (hchars c hc).imp_left isAlphanum_of_isWordLetter
  have hsplit : Text.splitWhere (fun c => !isWordLetter c) (Text.join ['_'] names) = names :=
    Text.splitWhere_join (by decide) (fun word hword c hc => by simp [(h word hword).2 c hc]) hne
  rw [words, hseparated, hsplit]
  exact List.filter_eq_self.mpr fun word hword => by simp [(h word hword).1]

/-- Two capitals in a row with no small letter behind them: the second one starts no word. -/
def hasStackedCapitals : Text → Bool
  | first :: second :: rest =>
      (first.isUpper && second.isUpper && !rest.head?.any Char.isLower) ||
        hasStackedCapitals (second :: rest)
  | _ => false

/-- Of all capitals, only those that start a word stay; `previous` stands in front. -/
def recaseFrom (previous : Char) : Text → Text
  | [] => []
  | c :: rest =>
      (if startsWord previous c rest.head? then c else c.toLower) :: recaseFrom c rest

private theorem isDecimalDigit_capitals :
    ∀ code ∈ List.range' 65 26, Text.isDecimalDigit (Char.ofNat code) = false := by
  decide +kernel

theorem not_isDecimalDigit_of_isUpper {c : Char} (h : c.isUpper) :
    Text.isDecimalDigit c = false := by
  have hcode : c.toNat ∈ List.range' 65 26 := by
    simp only [Char.isUpper, decide_eq_true_eq, ge_iff_le, UInt32.le_iff_toNat_le] at h
    have hbounds : 65 ≤ c.toNat ∧ c.toNat ≤ 90 := h
    rw [List.mem_range'_1]
    omega
  have hfalse := isDecimalDigit_capitals _ hcode
  rwa [Char.ofNat_toNat] at hfalse

theorem startsWord_of_isUpper {previous c : Char} (next : Option Char)
    (hprevious : previous.isAlphanum) (hc : c.isUpper) :
    startsWord previous c next = (!previous.isUpper || next.any Char.isLower) := by
  by_cases hupper : previous.isUpper
  · simp [startsWord, hc, hupper, not_isDecimalDigit_of_isUpper hupper,
      Char.not_isLower_of_isUpper hupper]
  · have hletter := isWordLetter_of_not_isUpper hprevious hupper
    rw [isWordLetter, Bool.or_eq_true] at hletter
    rcases hletter with hdigit | hlower
    · simp [startsWord, hc, hupper, Text.isDecimalDigit, hdigit]
    · simp [startsWord, hc, hupper, hlower]

theorem recaseFrom_eq_iff {previous : Char} {name : Text}
    (h : ∀ c ∈ previous :: name, c.isAlphanum) :
    recaseFrom previous name = name ↔ hasStackedCapitals (previous :: name) = false := by
  induction name generalizing previous with
  | nil => simp [recaseFrom, hasStackedCapitals]
  | cons c rest ih =>
      rw [List.forall_mem_cons] at h
      rw [recaseFrom, hasStackedCapitals, List.cons.injEq, ih h.2, Bool.or_eq_false_iff]
      refine and_congr_left fun _ => ?_
      by_cases hupper : c.isUpper
      · rw [startsWord_of_isUpper _ h.1 hupper, ite_eq_left_iff, toLower_eq_iff]
        cases hprevious : previous.isUpper <;> simp [hupper]
      · have hstarts : startsWord previous c rest.head? = false := by simp [startsWord, hupper]
        simp [hstarts, hupper, Char.toLower_eq_of_not_isUpper hupper]

theorem splitWhere_toLower {c : Char} {rest piece : Text} {pieces : List Text} (h : c.isAlphanum)
    (hrest : Text.splitWhere (fun c => !isWordLetter c) rest = piece :: pieces) :
    Text.splitWhere (fun c => !isWordLetter c) (c.toLower :: rest) =
      (c.toLower :: piece) :: pieces :=
  Text.splitWhere_cons_other (by simp [isWordLetter_toLower h]) hrest

/-- The words of an alphanumeric name, put together again. -/
theorem splitWhere_separateFrom (previous : Char) {name : Text} (h : ∀ c ∈ name, c.isAlphanum) :
    ∃ piece pieces,
      Text.splitWhere (fun c => !isWordLetter c)
          ((separateFrom (some previous) name).map Char.toLower) = piece :: pieces ∧
        piece ++ pieces.flatMap Case.capitalize = recaseFrom previous name := by
  induction name generalizing previous with
  | nil => exact ⟨[], [], rfl, rfl⟩
  | cons c rest ih =>
      rw [List.forall_mem_cons] at h
      obtain ⟨piece, pieces, hsplit, hjoined⟩ := ih c h.2
      have hletter := splitWhere_toLower h.1 hsplit
      cases hstarts : startsWord previous c rest.head? with
      | true =>
          have hupper : c.isUpper := by
            rw [startsWord, Bool.and_eq_true] at hstarts
            exact hstarts.1
          refine ⟨[], (c.toLower :: piece) :: pieces, ?_, ?_⟩
          · rw [separateFrom, Option.any_some, hstarts, if_pos rfl, List.map_cons, List.map_cons,
              Text.splitWhere_cons_separator (by decide), hletter]
          · rw [recaseFrom, hstarts, if_pos rfl, ← hjoined]
            simp [Case.capitalize, Char.toUpper_eq_of_not_isLower
              (Char.not_isLower_of_isUpper hupper)]
      | false =>
          refine ⟨c.toLower :: piece, pieces, ?_, ?_⟩
          · rw [separateFrom, Option.any_some, hstarts]
            exact hletter
          · rw [recaseFrom, hstarts, ← hjoined]
            rfl

theorem flatMap_capitalize_filter (pieces : List Text) :
    (pieces.filter fun word => !word.isEmpty).flatMap Case.capitalize =
      pieces.flatMap Case.capitalize := by
  induction pieces with
  | nil => rfl
  | cons piece pieces ih => cases piece <;> simp [Case.capitalize, ih]

/-- The words of an alphanumeric name, and the name that they make up. -/
theorem words_alphanum {c : Char} {rest : Text} (h : ∀ d ∈ c :: rest, d.isAlphanum) :
    ∃ tail others, words (c :: rest) = (c.toLower :: tail) :: others ∧
      tail ++ others.flatMap Case.capitalize = recaseFrom c rest := by
  have hseparated := separated_alphanum fun d hd => .inl (h d hd)
  rw [List.forall_mem_cons] at h
  obtain ⟨tail, pieces, hsplit, hjoined⟩ := splitWhere_separateFrom c h.2
  refine ⟨tail, pieces.filter fun word => !word.isEmpty, ?_, ?_⟩
  · rw [words, hseparated, separateFrom, Option.any_none, if_neg Bool.false_ne_true,
      List.map_cons, splitWhere_toLower h.1 hsplit]
    rfl
  · rw [flatMap_capitalize_filter, hjoined]

end Name

namespace Case

open Name

theorem apply_of_no_words {name : Text} (convention : Case) (h : words name = []) :
    convention.apply name = name := by
  rw [apply, h]

theorem apply_of_words {name first : Text} {rest : List Text} (convention : Case)
    (h : words name = first :: rest) :
    convention.apply name = convention.ofWords (first :: rest) := by
  rw [apply, h]

theorem snake_apply {name : Text} (h : words name ≠ []) :
    snake.apply name = Text.join ['_'] (words name) := by
  obtain ⟨word, others, hwords⟩ := List.exists_cons_of_ne_nil h
  rw [apply_of_words snake hwords, hwords]
  rfl

theorem camel_apply {c : Char} {rest : Text} (h : ∀ d ∈ c :: rest, d.isAlphanum) :
    camel.apply (c :: rest) = c.toLower :: recaseFrom c rest := by
  obtain ⟨tail, others, hwords, hjoined⟩ := words_alphanum h
  rw [apply_of_words camel hwords, ← hjoined]
  rfl

theorem pascal_apply {c : Char} {rest : Text} (h : ∀ d ∈ c :: rest, d.isAlphanum) :
    pascal.apply (c :: rest) = c.toUpper :: recaseFrom c rest := by
  obtain ⟨tail, others, hwords, hjoined⟩ := words_alphanum h
  rw [apply_of_words pascal hwords, ← hjoined, ← Char.toUpper_toLower_eq_toUpper c]
  rfl

theorem isAlphanum_of_mem_capitalize {word : Text} (h : ∀ c ∈ word, isWordLetter c) :
    ∀ c ∈ capitalize word, c.isAlphanum := by
  cases word with
  | nil => nofun
  | cons c rest =>
      rw [List.forall_mem_cons] at h
      rw [capitalize, List.forall_mem_cons]
      exact ⟨isAlphanum_toUpper (isAlphanum_of_isWordLetter h.1),
        fun d hd => isAlphanum_of_isWordLetter (h.2 d hd)⟩

/-- What the conventions without underscores make of a name with words. -/
theorem exists_apply {name : Text} (h : words name ≠ []) :
    ∃ first tail, isWordLetter first ∧ (∀ c ∈ tail, c.isAlphanum) ∧
      camel.apply name = first :: tail ∧ pascal.apply name = first.toUpper :: tail := by
  obtain ⟨word, others, hwords⟩ := List.exists_cons_of_ne_nil h
  have hspec : ∀ member ∈ word :: others, member ≠ [] ∧ ∀ c ∈ member, isWordLetter c :=
    fun member hmember => words_spec (hwords ▸ hmember)
  rw [List.forall_mem_cons] at hspec
  obtain ⟨⟨hne, hletters⟩, hothers⟩ := hspec
  obtain ⟨first, rest, rfl⟩ := List.exists_cons_of_ne_nil hne
  rw [List.forall_mem_cons] at hletters
  refine ⟨first, rest ++ others.flatMap capitalize, hletters.1, ?_, ?_, ?_⟩
  · intro c hc
    rcases List.mem_append.mp hc with hc | hc
    · exact isAlphanum_of_isWordLetter (hletters.2 c hc)
    · obtain ⟨word, hword, hc⟩ := List.mem_flatMap.mp hc
      exact isAlphanum_of_mem_capitalize (hothers word hword).2 c hc
  · exact apply_of_words camel hwords
  · exact apply_of_words pascal hwords

theorem apply_apply_iff {convention : Case} (hsnake : convention ≠ .snake) {name : Text}
    (hwords : words name ≠ []) :
    convention.apply (convention.apply name) = convention.apply name ↔
      hasStackedCapitals (convention.apply name) = false := by
  obtain ⟨first, tail, hfirst, htail, hcamel, hpascal⟩ := exists_apply hwords
  have halnum := isAlphanum_of_isWordLetter hfirst
  cases convention with
  | camel =>
      have hname : ∀ c ∈ first :: tail, c.isAlphanum := List.forall_mem_cons.mpr ⟨halnum, htail⟩
      rw [hcamel, camel_apply hname, ← recaseFrom_eq_iff hname,
        Char.toLower_eq_of_not_isUpper (not_isUpper_of_isWordLetter hfirst)]
      exact List.cons_inj_right first
  | pascal =>
      have hname : ∀ c ∈ first.toUpper :: tail, c.isAlphanum :=
        List.forall_mem_cons.mpr ⟨isAlphanum_toUpper halnum, htail⟩
      rw [hpascal, pascal_apply hname, ← recaseFrom_eq_iff hname, Char.toUpper_toUpper_eq_toUpper]
      exact List.cons_inj_right first.toUpper
  | snake => exact absurd rfl hsnake

/-- The words of a name are those of the name in snake case. -/
theorem words_snake (name : Text) : words (snake.apply name) = words name := by
  by_cases hwords : words name = []
  · rw [apply_of_no_words snake hwords]
  · rw [snake_apply hwords]
    exact words_join (fun _ => words_spec) hwords

/-- A convention keeps the names that it gives, unless capitals are stacked in them. -/
theorem apply_apply {convention : Case} {name : Text}
    (h : convention ≠ .snake → hasStackedCapitals (convention.apply name) = false) :
    convention.apply (convention.apply name) = convention.apply name := by
  by_cases hwords : words name = []
  · rw [apply_of_no_words convention hwords, apply_of_no_words convention hwords]
  by_cases hsnake : convention = .snake
  · subst hsnake
    have hagain : words (snake.apply name) ≠ [] := by rwa [words_snake]
    rw [snake_apply hagain, words_snake, snake_apply hwords]
  · exact (apply_apply_iff hsnake hwords).mpr (h hsnake)

/-- Two capitals next to each other, with no small letter behind them. -/
def StackedCapitals (name : Text) : Prop :=
  ∃ front first second back, name = front ++ first :: second :: back ∧
    first.isUpper ∧ second.isUpper ∧ ∀ c ∈ back.head?, c.isLower = false

theorem hasStackedCapitals_cons (c : Char) {rest : Text} (h : hasStackedCapitals rest) :
    hasStackedCapitals (c :: rest) := by
  cases rest with
  | nil => cases h
  | cons d rest => rw [hasStackedCapitals, h, Bool.or_true]

theorem hasStackedCapitals_iff (name : Text) : hasStackedCapitals name ↔ StackedCapitals name := by
  constructor
  · intro h
    fun_induction hasStackedCapitals name with
    | case1 first second rest ih =>
        rw [Bool.or_eq_true] at h
        rcases h with hhere | hlater
        · simp only [Bool.and_eq_true, Bool.not_eq_true', Option.any_eq_false] at hhere
          exact ⟨[], first, second, rest, rfl, hhere.1.1, hhere.1.2, hhere.2⟩
        · obtain ⟨front, c, d, back, heq, hstacked⟩ := ih hlater
          exact ⟨first :: front, c, d, back, by rw [heq]; rfl, hstacked⟩
    | case2 => cases h
  · rintro ⟨front, first, second, back, rfl, hfirst, hsecond, hback⟩
    induction front with
    | nil =>
        have hlower : back.head?.any Char.isLower = false := (Option.any_eq_false _ _).mpr hback
        simp [hasStackedCapitals, hfirst, hsecond, hlower]
    | cons c front ih => exact hasStackedCapitals_cons c ih

/-- Capitals make words, so there are none in a name without words. -/
theorem not_stackedCapitals_of_no_words {name : Text} (h : words name = []) :
    ¬StackedCapitals name := by
  rintro ⟨front, first, second, back, rfl, hfirst, -⟩
  have halnum : first.isAlphanum := by simp [Char.isAlphanum, Char.isAlpha, hfirst]
  exact words_ne_nil (by simp) halnum h

theorem apply_apply_eq_iff {convention : Case} (hsnake : convention ≠ .snake) (name : Text) :
    convention.apply (convention.apply name) = convention.apply name ↔
      ¬StackedCapitals (convention.apply name) := by
  by_cases hwords : words name = []
  · rw [apply_of_no_words convention hwords, apply_of_no_words convention hwords]
    exact iff_of_true rfl (not_stackedCapitals_of_no_words hwords)
  · rw [apply_apply_iff hsnake hwords, ← hasStackedCapitals_iff, Bool.not_eq_true]

/-- The conventions that write words together keep the names they give where no capitals are
stacked, and nowhere else. -/
theorem apply_keeps_iff (name : Text) :
    (pascal.apply (pascal.apply name) = pascal.apply name ↔
        ¬StackedCapitals (pascal.apply name)) ∧
      (camel.apply (camel.apply name) = camel.apply name ↔
        ¬StackedCapitals (camel.apply name)) :=
  ⟨apply_apply_eq_iff (by decide) name, apply_apply_eq_iff (by decide) name⟩

end Case

end SchemaCase
