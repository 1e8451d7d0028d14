import SchemaCase.Proofs.Name.Case
import SchemaCase.Proofs.Text.Words

/-! Names cased by replacing parts of them. Two replacements, one after the other, set the
underscores between the words of a name, and a third one writes a capital for an underscore and the
letter behind it. They make of every name what the conventions make of its words. -/

namespace SchemaCase

namespace Text

/-- Replaces what `match?` finds, from left to right and without overlaps. For a match at the start
of a text, `match?` gives what is written instead and the length of the match; `covered` characters
belong to the match before. -/
def replaceFrom (match? : Text → Option (Text × Nat)) (covered : Nat) : Text → Text
  | [] => []
  | c :: rest =>
      match covered with
      | covered + 1 => replaceFrom match? covered rest
      | 0 =>
          match match? (c :: rest) with
          | some (written, length) => written ++ replaceFrom match? (length - 1) rest
          | none => c :: replaceFrom match? 0 rest

def replaceMatches (match? : Text → Option (Text × Nat)) (text : Text) : Text :=
  replaceFrom match? 0 text

variable {match? : Text → Option (Text × Nat)}

theorem replaceFrom_append (covered rest : Text) :
    replaceFrom match? covered.length (covered ++ rest) = replaceMatches match? rest := by
  induction covered with
  | nil => rfl
  | cons c covered ih => exact ih

theorem replaceMatches_match {c : Char} {tail rest written : Text}
    (h : match? (c :: (tail ++ rest)) = some (written, tail.length + 1)) :
    replaceMatches match? (c :: (tail ++ rest)) = written ++ replaceMatches match? rest := by
  rw [replaceMatches, replaceFrom, h]
  exact congrArg (written ++ ·) (replaceFrom_append tail rest)

theorem replaceMatches_other {c : Char} {rest : Text} (h : match? (c :: rest) = none) :
    replaceMatches match? (c :: rest) = c :: replaceMatches match? rest := by
  rw [replaceMatches, replaceFrom, h]
  rfl

end Text

namespace Name

open Text

def acronymOfLength? (text : Text) (length : Nat) : Option (Text × Nat) :=
  match text.drop length with
  | c :: d :: _ =>
      if (text.take length).all Char.isUpper && c.isUpper && d.isLower then
        some (text.take length ++ ['_', c, d], length + 2)
      else none
  | _ => none

/-- As many capitals as possible, but at least one, in front of a capital that starts a word. -/
def acronym? (text : Text) : Option (Text × Nat) :=
  (List.range' 1 text.length).reverse.findSome? (acronymOfLength? text)

def hump? : Text → Option (Text × Nat)
  | c :: d :: _ =>
      if (c.isLower || isDecimalDigit c) && d.isUpper then some ([c, '_', d], 2) else none
  | _ => none

def initial? : Text → Option (Text × Nat)
  | '_' :: c :: _ => if c == '\n' then none else some ([c.toUpper], 2)
  | _ => none

def underscored (name : Text) : Text :=
  lower (replace '-' '_' (replaceMatches hump? (replaceMatches acronym? name)))

/-- The first character is a match of its own, also if it is an underscore. -/
def camelized : Text → Text
  | [] => []
  | c :: rest => c.toUpper :: replaceMatches initial? rest

def replacedWords (name : Text) : List Text :=
  (splitWhere (fun c => !isWordLetter c) (underscored name)).filter fun word => !word.isEmpty

/-- Sets an underscore before every character that `starts` a word, told by the characters around
it; `previous` stands in front. -/
def insertFrom (starts : Char → Char → Option Char → Bool) (previous : Option Char) : Text → Text
  | [] => []
  | c :: rest =>
      if previous.any (starts · c rest.head?) then '_' :: c :: insertFrom starts (some c) rest
      else c :: insertFrom starts (some c) rest

def endsAcronym (previous c : Char) (next : Option Char) : Bool :=
  previous.isUpper && c.isUpper && next.any Char.isLower

def startsHump (previous c : Char) (_next : Option Char) : Bool :=
  (previous.isLower || isDecimalDigit previous) && c.isUpper

theorem insertFrom_of_starts {starts : Char → Char → Option Char → Bool} {previous : Option Char}
    {c : Char} {rest : Text} (h : previous.any (starts · c rest.head?) = true) :
    insertFrom starts previous (c :: rest) = '_' :: c :: insertFrom starts (some c) rest :=
  if_pos h

theorem insertFrom_of_not_starts {starts : Char → Char → Option Char → Bool}
    {previous : Option Char} {c : Char} {rest : Text}
    (h : previous.any (starts · c rest.head?) = false) :
    insertFrom starts previous (c :: rest) = c :: insertFrom starts (some c) rest :=
  if_neg (by simp [h])

theorem startsWord_eq (previous c : Char) (next : Option Char) :
    startsWord previous c next = (startsHump previous c next || endsAcronym previous c next) := by
  unfold startsWord startsHump endsAcronym
  cases c.isUpper <;> simp

/-- An underscore that was set hides the character in front of it from the second pass. -/
theorem insertFrom_insertFrom (previous : Option Char) (name : Text) :
    insertFrom startsHump previous (insertFrom endsAcronym previous name) =
      separateFrom previous name := by
  induction name generalizing previous with
  | nil => rfl
  | cons c rest ih =>
      have hunderscore : (some '_').any (startsHump · c
          (insertFrom endsAcronym (some c) rest).head?) = false := by
        have hclass : ('_'.isLower || isDecimalDigit '_') = false := by decide
        rw [Option.any_some, startsHump, hclass, Bool.false_and]
      rw [separateFrom]
      cases hends : previous.any (endsAcronym · c rest.head?) with
      | true =>
          have hstarts : previous.any (startsWord · c rest.head?) = true := by
            cases previous with
            | none => cases hends
            | some p =>
                have hends : endsAcronym p c rest.head? = true := hends
                rw [Option.any_some, startsWord_eq, hends, Bool.or_true]
          have hcapital : previous.any (startsHump · '_'
              (c :: insertFrom endsAcronym (some c) rest).head?) = false := by
            cases previous <;> simp [startsHump]
          rw [insertFrom_of_starts hends, insertFrom_of_not_starts hcapital,
            insertFrom_of_not_starts hunderscore, ih, hstarts, if_pos rfl]
      | false =>
          have hstarts : previous.any (startsWord · c rest.head?) =
              previous.any (startsHump · c (insertFrom endsAcronym (some c) rest).head?) := by
            cases previous with
            | none => rfl
            | some p =>
                have hends : endsAcronym p c rest.head? = false := hends
                rw [Option.any_some, Option.any_some, startsWord_eq, hends, Bool.or_false]
                rfl
          rw [insertFrom_of_not_starts hends, insertFrom, ih, hstarts]

/-- Capitals `run`, a capital behind them and a small letter behind that. -/
structure Acronym (text run : Text) (c d : Char) (rest : Text) : Prop where
  text_eq : text = run ++ c :: d :: rest
  run : ∀ e ∈ run, e.isUpper
  capital : c.isUpper
  small : d.isLower

theorem Acronym.takeWhile_isUpper {text run rest : Text} {c d : Char}
    (h : Acronym text run c d rest) : text.takeWhile Char.isUpper = run ++ [c] := by
  have hspread : text = (run ++ [c]) ++ d :: rest := by simp [h.text_eq]
  rw [hspread]
  apply takeWhile_run
  · intro e he
    rcases List.mem_append.mp he with he | he
    · exact h.run e he
    · rw [List.mem_singleton.mp he]
      exact h.capital
  · rintro e ⟨⟩
    exact Bool.eq_false_iff.mpr (Char.not_isUpper_of_isLower h.small)

theorem acronymOfLength?_eq_some {text written : Text} {length covered : Nat}
    (h : acronymOfLength? text length = some (written, covered)) :
    ∃ run c d rest, Acronym text run c d rest ∧ run.length = length ∧
      written = run ++ ['_', c, d] ∧ covered = length + 2 := by
  unfold acronymOfLength? at h
  split at h
  · next c d rest hdrop =>
      split at h
      · next hletters =>
          simp only [Bool.and_eq_true, List.all_eq_true] at hletters
          cases h
          refine ⟨text.take length, c, d, rest, ⟨?_, hletters.1.1, hletters.1.2, hletters.2⟩, ?_,
            rfl, rfl⟩
          · rw [← hdrop, List.take_append_drop]
          · have hlength := congrArg List.length hdrop
            simp only [List.length_drop, List.length_cons] at hlength
            rw [List.length_take]
            omega
      · cases h
  · cases h

theorem Acronym.acronymOfLength? {text run rest : Text} {c d : Char}
    (h : Acronym text run c d rest) :
    Name.acronymOfLength? text run.length = some (run ++ ['_', c, d], run.length + 2) := by
  have hrun : run.all Char.isUpper := List.all_eq_true.mpr h.run
  rw [Name.acronymOfLength?, h.text_eq, List.drop_left, List.take_left]
  simp [hrun, h.capital, h.small]

/-- The longest match is the only one: a small letter ends the capitals. -/
theorem Acronym.acronym?_eq {text run rest : Text} {c d : Char} (h : Acronym text run c d rest)
    (hrun : run ≠ []) : acronym? text = some (run ++ ['_', c, d], run.length + 2) := by
  have hmem : run.length ∈ (List.range' 1 text.length).reverse := by
    rw [List.mem_reverse, List.mem_range'_1]
    have hpos := List.length_pos_of_ne_nil hrun
    simp only [h.text_eq, List.length_append, List.length_cons]
    omega
  cases hfound : acronym? text with
  | none =>
      have hnone := List.findSome?_eq_none_iff.mp hfound run.length hmem
      rw [h.acronymOfLength?] at hnone
      cases hnone
  | some found =>
      obtain ⟨length, -, hlength⟩ := List.exists_of_findSome?_eq_some hfound
      obtain ⟨other, c', d', later, hother, rfl, hwritten, hcovered⟩ :=
        acronymOfLength?_eq_some hlength
      have hsame : other.length = run.length := by
        have hcapitals := hother.takeWhile_isUpper.symm.trans h.takeWhile_isUpper
        simpa using congrArg List.length hcapitals
      rw [hsame, h.acronymOfLength?] at hlength
      exact hlength.symm

theorem acronym?_eq_some {text written : Text} {covered : Nat}
    (h : acronym? text = some (written, covered)) :
    ∃ run c d rest, run ≠ [] ∧ Acronym text run c d rest ∧ written = run ++ ['_', c, d] ∧
      covered = run.length + 2 := by
  obtain ⟨length, hmem, hlength⟩ := List.exists_of_findSome?_eq_some h
  obtain ⟨run, c, d, rest, hacronym, rfl, hwritten, hcovered⟩ := acronymOfLength?_eq_some hlength
  rw [List.mem_reverse, List.mem_range'_1] at hmem
  exact ⟨run, c, d, rest, List.ne_nil_of_length_pos hmem.1, hacronym, hwritten, hcovered⟩

theorem Acronym.cons {text run rest : Text} {c d first : Char} (h : Acronym text run c d rest)
    (hfirst : first.isUpper) : Acronym (first :: text) (first :: run) c d rest :=
  ⟨by rw [h.text_eq]; rfl, List.forall_mem_cons.mpr ⟨hfirst, h.run⟩, h.capital, h.small⟩

/-- Within the capitals of an acronym, an underscore is set only before the last. -/
theorem Acronym.insertFrom_eq {text run rest : Text} {c d : Char} (h : Acronym text run c d rest)
    {previous : Char} (hprevious : previous.isUpper) :
    insertFrom endsAcronym (some previous) text =
      run ++ ['_', c, d] ++ insertFrom endsAcronym (some d) rest := by
  obtain ⟨rfl, hrun, hc, hd⟩ := h
  have hsmall : d.isUpper = false := Bool.eq_false_iff.mpr (Char.not_isUpper_of_isLower hd)
  induction run generalizing previous with
  | nil =>
      rw [List.nil_append, insertFrom_of_starts (by simp [endsAcronym, hprevious, hc, hd]),
        insertFrom_of_not_starts (by simp [endsAcronym, hsmall])]
      rfl
  | cons e run ih =>
      rw [List.forall_mem_cons] at hrun
      have hnext : ((run ++ c :: d :: rest).head?).any Char.isLower = false := by
        cases run with
        | nil => simpa using Char.not_isLower_of_isUpper hc
        | cons f run => simpa using Char.not_isLower_of_isUpper (hrun.2 f List.mem_cons_self)
      have hinside :
          (some previous).any (endsAcronym · e (run ++ c :: d :: rest).head?) = false := by
        rw [Option.any_some, endsAcronym, hnext, Bool.and_false]
      rw [List.cons_append, insertFrom_of_not_starts hinside, ih hrun.1 hrun.2]
      rfl

theorem Acronym.replaceMatches_eq {text run rest : Text} {c d : Char}
    (h : Acronym text run c d rest) (hrun : run ≠ []) :
    replaceMatches acronym? text = run ++ ['_', c, d] ++ replaceMatches acronym? rest := by
  have hfound := h.acronym?_eq hrun
  obtain ⟨first, run, rfl⟩ := List.exists_cons_of_ne_nil hrun
  have hspread : text = first :: ((run ++ [c, d]) ++ rest) := by simp [h.text_eq]
  rw [hspread] at hfound ⊢
  exact replaceMatches_match (by simpa using hfound)

theorem exists_acronym_of_endsAcronym {previous : Option Char} {c : Char} {rest : Text}
    (h : previous.any (endsAcronym · c rest.head?) = true) :
    previous.any Char.isUpper = true ∧ ∃ d later, Acronym (c :: rest) [] c d later := by
  cases previous with
  | none => cases h
  | some previous =>
      rw [Option.any_some, endsAcronym, Bool.and_eq_true, Bool.and_eq_true] at h
      obtain ⟨⟨hprevious, hc⟩, hnext⟩ := h
      cases rest with
      | nil => cases hnext
      | cons d later => exact ⟨hprevious, d, later, rfl, by simp, hc, hnext⟩

/-- The first pass. Behind a capital that no match covers, the capitals that follow hold no match
either. -/
theorem replaceMatches_acronym {previous : Option Char} {name : Text}
    (h : previous.any Char.isUpper → ∀ run c d rest, ¬Acronym name run c d rest) :
    replaceMatches acronym? name = insertFrom endsAcronym previous name := by
  -- A match is passed over as a whole, so what follows it is only known to be shorter.
  induction hlength : name.length using Nat.strong_induction_on generalizing name previous with
  | _ length ih =>
      subst hlength
      cases name with
      | nil => rfl
      | cons first tail =>
          have hstarts : previous.any (endsAcronym · first tail.head?) = false := by
            rw [Bool.eq_false_iff]
            intro hends
            obtain ⟨hprevious, d, later, hacronym⟩ := exists_acronym_of_endsAcronym hends
            exact h hprevious [] first d later hacronym
          rw [insertFrom_of_not_starts hstarts]
          cases hfound : acronym? (first :: tail) with
          | some found =>
              obtain ⟨run, c, d, rest, hrun, hacronym, -, -⟩ := acronym?_eq_some hfound
              obtain ⟨e, run, rfl⟩ := List.exists_cons_of_ne_nil hrun
              obtain ⟨rfl, rfl⟩ : first = e ∧ tail = run ++ c :: d :: rest :=
                List.cons.inj hacronym.text_eq
              have hcapitals := List.forall_mem_cons.mp hacronym.run
              have hinner : Acronym (run ++ c :: d :: rest) run c d rest :=
                ⟨rfl, hcapitals.2, hacronym.capital, hacronym.small⟩
              have hsmall : d.isUpper = false :=
                Bool.eq_false_iff.mpr (Char.not_isUpper_of_isLower hacronym.small)
              have hrest : replaceMatches acronym? rest = insertFrom endsAcronym (some d) rest := by
                refine ih rest.length ?_ (by simp [hsmall]) rfl
                simp only [List.length_cons, List.length_append]
                omega
              rw [hacronym.replaceMatches_eq hrun, hinner.insertFrom_eq hcapitals.1, hrest]
              rfl
          | none =>
              rw [replaceMatches_other hfound]
              refine congrArg (first :: ·) (ih tail.length (by simp) ?_ rfl)
              intro hfirst run c d rest hacronym
              have hlonger := hacronym.cons hfirst
              rw [hlonger.acronym?_eq (List.cons_ne_nil first run)] at hfound
              cases hfound

theorem hump?_cons_cons (c d : Char) (rest : Text) :
    hump? (c :: d :: rest) = if startsHump c d rest.head? then some ([c, '_', d], 2) else none :=
  rfl

/-- A small letter or a digit whose match has failed stands before no capital. -/
theorem replaceMatches_hump {previous : Option Char} {name : Text}
    (h : ∀ c rest, name = c :: rest → previous.any (startsHump · c rest.head?) = false) :
    replaceMatches hump? name = insertFrom startsHump previous name := by
  induction hlength : name.length using Nat.strong_induction_on generalizing name previous with
  | _ length ih =>
      subst hlength
      cases name with
      | nil => rfl
      | cons c tail =>
          rw [insertFrom_of_not_starts (h c tail rfl)]
          cases tail with
          | nil => rfl
          | cons d rest =>
              cases hstarts : startsHump c d rest.head? with
              | true =>
                  have hmatch : hump? (c :: ([d] ++ rest)) =
                      some ([c, '_', d], [d].length + 1) := by
                    rw [List.singleton_append, hump?_cons_cons, hstarts, if_pos rfl]
                    rfl
                  have hcapital : d.isUpper := (Bool.and_eq_true_iff.mp hstarts).2
                  have hrest : replaceMatches hump? rest = insertFrom startsHump (some d) rest := by
                    refine ih rest.length (by simp) ?_ rfl
                    rintro e later rfl
                    simp [startsHump, Char.not_isLower_of_isUpper hcapital,
                      not_isDecimalDigit_of_isUpper hcapital]
                  have hhump : (some c).any (startsHump · d rest.head?) = true := hstarts
                  rw [insertFrom_of_starts hhump, ← hrest]
                  exact replaceMatches_match hmatch
              | false =>
                  have hnone : hump? (c :: d :: rest) = none := by
                    rw [hump?_cons_cons, hstarts]
                    rfl
                  rw [replaceMatches_other hnone]
                  refine congrArg (c :: ·) (ih (d :: rest).length (by simp) ?_ rfl)
                  rintro e later ⟨rfl, rfl⟩
                  exact hstarts

/-- Both passes together set the underscores that one look at each character sets. -/
theorem underscored_eq (name : Text) : underscored name = separated name := by
  have hacronyms : replaceMatches acronym? name = insertFrom endsAcronym none name :=
    replaceMatches_acronym (by simp)
  have hhumps (text : Text) : replaceMatches hump? text = insertFrom startsHump none text :=
    replaceMatches_hump fun _ _ _ => rfl
  have hpasses : replaceMatches hump? (replaceMatches acronym? name) = separateFrom none name := by
    rw [hacronyms, hhumps, insertFrom_insertFrom]
  rw [underscored, hpasses, separated]

theorem replacedWords_eq (name : Text) : replacedWords name = words name := by
  rw [replacedWords, underscored_eq, words]

theorem initial?_of_ne {c : Char} (h : c ≠ '_') (rest : Text) : initial? (c :: rest) = none := by
  unfold initial?
  split
  · next heq => exact absurd (List.cons.inj heq).1 h
  · rfl

theorem replaceMatches_word {word : Text} (h : '_' ∉ word) (rest : Text) :
    replaceMatches initial? (word ++ rest) = word ++ replaceMatches initial? rest := by
  induction word with
  | nil => rfl
  | cons c word ih =>
      rw [List.mem_cons, not_or] at h
      rw [List.cons_append, replaceMatches_other (initial?_of_ne (Ne.symm h.1) _), ih h.2]
      rfl

theorem replaceMatches_underscore {c : Char} (h : c ≠ '\n') (rest : Text) :
    replaceMatches initial? ('_' :: c :: rest) = c.toUpper :: replaceMatches initial? rest := by
  have hmatch : initial? ('_' :: ([c] ++ rest)) = some ([c.toUpper], [c].length + 1) :=
    if_neg (by simpa using h)
  exact replaceMatches_match hmatch

theorem not_mem_of_isWordLetter {word : Text} (h : ∀ c ∈ word, isWordLetter c) {d : Char}
    (hd : isWordLetter d = false) : d ∉ word := by
  intro hmem
  rw [h d hmem] at hd
  cases hd

/-- Words in a row, each behind an underscore, are written together again. -/
theorem replaceMatches_words {names : List Text}
    (h : ∀ word ∈ names, word ≠ [] ∧ ∀ c ∈ word, isWordLetter c) :
    replaceMatches initial? (names.flatMap ('_' :: ·)) = names.flatMap Case.capitalize := by
  induction names with
  | nil => rfl
  | cons word names ih =>
      rw [List.forall_mem_cons] at h
      obtain ⟨⟨hne, hletters⟩, hnames⟩ := h
      obtain ⟨c, word, rfl⟩ := List.exists_cons_of_ne_nil hne
      have hfeed : '\n' ∉ c :: word := not_mem_of_isWordLetter hletters (by decide)
      have hunderscore : '_' ∉ c :: word := not_mem_of_isWordLetter hletters (by decide)
      rw [List.mem_cons, not_or] at hfeed hunderscore
      rw [List.flatMap_cons, List.flatMap_cons, List.cons_append, List.cons_append,
        replaceMatches_underscore (Ne.symm hfeed.1), replaceMatches_word hunderscore.2, ih hnames]
      rfl

theorem camelized_join {first : Text} {rest : List Text}
    (h : ∀ word ∈ first :: rest, word ≠ [] ∧ ∀ c ∈ word, isWordLetter c) :
    camelized (join ['_'] (first :: rest)) =
      Case.capitalize first ++ rest.flatMap Case.capitalize := by
  rw [List.forall_mem_cons] at h
  obtain ⟨⟨hne, hletters⟩, hrest⟩ := h
  obtain ⟨c, word, rfl⟩ := List.exists_cons_of_ne_nil hne
  have hunderscore : '_' ∉ c :: word := not_mem_of_isWordLetter hletters (by decide)
  rw [List.mem_cons, not_or] at hunderscore
  have hjoin : join ['_'] ((c :: word) :: rest) = c :: (word ++ rest.flatMap ('_' :: ·)) :=
    join_cons ['_'] (c :: word) rest
  rw [hjoin, camelized, replaceMatches_word hunderscore.2, replaceMatches_words hrest]
  rfl

end Name

namespace Case

open Name

/-- A name in a convention, by replacements alone. In camel case, all but the first character is
taken from the name in pascal case. -/
def replaced (convention : Case) (name : Text) : Text :=
  if replacedWords name = [] then name
  else
    let joined := Text.join ['_'] (replacedWords name)
    match convention with
    | snake => joined
    | pascal => camelized joined
    | camel => (joined.head?.map Char.toLower).toList ++ (camelized joined).tail

theorem replaced_eq (convention : Case) (name : Text) :
    convention.replaced name = convention.apply name := by
  unfold replaced
  rw [replacedWords_eq]
  cases hwords : words name with
  | nil =>
      rw [if_pos rfl, apply_of_no_words convention hwords]
  | cons first rest =>
      have hspec : ∀ word ∈ first :: rest, word ≠ [] ∧ ∀ c ∈ word, isWordLetter c :=
        fun word hword => words_spec (hwords ▸ hword)
      have hcamelized := camelized_join hspec
      rw [if_neg (List.cons_ne_nil first rest), apply_of_words convention hwords]
      cases convention with
      | snake => rfl
      | pascal => exact hcamelized
      | camel =>
          obtain ⟨⟨hne, hletters⟩, -⟩ := List.forall_mem_cons.mp hspec
          obtain ⟨c, word, rfl⟩ := List.exists_cons_of_ne_nil hne
          have hsmall := not_isUpper_of_isWordLetter (hletters c List.mem_cons_self)
          dsimp only
          rw [hcamelized, Text.join_cons, List.cons_append, List.head?_cons, Option.map_some,
            Char.toLower_eq_of_not_isUpper hsmall]
          rfl

theorem mem_ofWords {names : List Text} (h : ∀ word ∈ names, ∀ c ∈ word, isWordLetter c)
    (convention : Case) {c : Char} (hc : c ∈ convention.ofWords names) :
    c.isAlphanum ∨ c = '_' := by
  cases names with
  | nil => cases hc
  | cons first rest =>
      have hcapitalize : ∀ word ∈ first :: rest, c ∈ capitalize word → c.isAlphanum :=
        fun word hword => isAlphanum_of_mem_capitalize (h word hword) c
      have hrest : c ∈ rest.flatMap capitalize → c.isAlphanum := by
        intro hc
        obtain ⟨word, hword, hc⟩ := List.mem_flatMap.mp hc
        exact hcapitalize word (List.mem_cons_of_mem first hword) hc
      cases convention with
      | snake =>
          rcases Text.mem_join hc with hunderscore | ⟨word, hword, hc⟩
          · exact .inr (List.mem_singleton.mp hunderscore)
          · exact .inl (isAlphanum_of_isWordLetter (h word hword c hc))
      | pascal =>
          rcases List.mem_append.mp hc with hc | hc
          · exact .inl (hcapitalize first List.mem_cons_self hc)
          · exact .inl (hrest hc)
      | camel =>
          rcases List.mem_append.mp hc with hc | hc
          · exact .inl (isAlphanum_of_isWordLetter (h first List.mem_cons_self c hc))
          · exact .inl (hrest hc)

theorem head?_ofWords (convention : Case) (c : Char) (word : Text) (rest : List Text) :
    (convention.ofWords ((c :: word) :: rest)).head? =
      some (if convention = pascal then c.toUpper else c) := by
  cases convention with
  | snake => rw [ofWords, Text.join_cons]; rfl
  | pascal => rfl
  | camel => rfl

theorem isNameStart_of_isAlphanum {c : Char} (h : c.isAlphanum) :
    Text.isNameStart c = c.isAlpha := by
  have hunderscore : (c == '_') = false := by
    rw [beq_eq_false_iff_ne]
    rintro rfl
    exact absurd h (by decide)
  rw [Text.isNameStart, hunderscore, Bool.or_false]

/-- What a convention makes of words is an identifier if they start with a letter. -/
theorem isIdentifier_ofWords {first : Text} {rest : List Text}
    (h : ∀ word ∈ first :: rest, word ≠ [] ∧ ∀ c ∈ word, isWordLetter c) (convention : Case) :
    isIdentifier (convention.ofWords (first :: rest)) = first.head?.any Char.isAlpha := by
  obtain ⟨c, word, rfl⟩ := List.exists_cons_of_ne_nil (h first List.mem_cons_self).1
  have halnum : c.isAlphanum :=
    isAlphanum_of_isWordLetter ((h (c :: word) List.mem_cons_self).2 c List.mem_cons_self)
  have hhead := head?_ofWords convention c word rest
  have hchars : ∀ d ∈ convention.ofWords ((c :: word) :: rest), d.isAlphanum ∨ d = '_' :=
    fun d hd => mem_ofWords (fun word hword => (h word hword).2) convention hd
  cases hname : convention.ofWords ((c :: word) :: rest) with
  | nil =>
      rw [hname] at hhead
      cases hhead
  | cons start others =>
      rw [hname] at hhead hchars
      obtain rfl := Option.some.inj hhead
      have hothers : others.all (fun d => d.isAlphanum || d == '_') = true := by
        rw [List.all_eq_true]
        intro d hd
        simpa using hchars d (List.mem_cons_of_mem _ hd)
      rw [isIdentifier, hothers, Bool.and_true, List.head?_cons, Option.any_some]
      split
      · rw [isNameStart_of_isAlphanum (isAlphanum_toUpper halnum), Char.isAlpha_toUpper_eq_isAlpha]
      · rw [isNameStart_of_isAlphanum halnum]

end Case

/-- What becomes of a name for which another one was computed, `accepted` or not. -/
def Resolution.ofDecision (oldName candidate : Text) (accepted : Bool) : Resolution :=
  if accepted then { plan := ⟨oldName, candidate, candidate != oldName⟩ }
  else
    { plan := .keep oldName
      events := [.keptInvalid oldName (Value.text candidate).describe] }

theorem Resolution.ofCandidate_text (oldName candidate : Text) :
    ofCandidate oldName (.text candidate) =
      ofDecision oldName candidate (isIdentifier candidate) := by
  unfold ofCandidate ofDecision Plan.ofCandidate
  dsimp only
  cases isIdentifier candidate with
  | true => rfl
  | false => rfl

namespace Case

open Name

/-- The conventions work word by word, and the words of a name are those of the name in snake
case. -/
theorem apply_wordwise (name : Text) :
    words name = replacedWords name ∧
      (∀ convention : Case, convention.apply name = convention.replaced name) ∧
      (∀ first rest, words name = first :: rest →
        snake.apply name = Text.join ['_'] (first :: rest) ∧
        pascal.apply name = (first :: rest).flatMap capitalize ∧
        camel.apply name = first ++ rest.flatMap capitalize ∧
        ∀ convention : Case,
          Resolution.ofTransforms name (.ofCase convention) .absent =
            .ok (.ofDecision name (convention.apply name) (first.head?.any Char.isAlpha)) ∧
          ∀ oldName inflect, inflect oldName = name →
            Resolution.ofTransforms oldName (.ofCase convention) (.function (.ofNames inflect)) =
              .ok (.ofDecision oldName (convention.apply name) (first.head?.any Char.isAlpha))) ∧
      ∀ convention : Case, convention.apply (snake.apply name) = convention.apply name := by
  refine ⟨(replacedWords_eq name).symm, fun convention => (replaced_eq convention name).symm,
    ?_, ?_⟩
  · intro first rest hwords
    have happly := fun convention => apply_of_words convention hwords
    refine ⟨happly snake, happly pascal, happly camel, fun convention => ?_⟩
    have hspec : ∀ word ∈ first :: rest, word ≠ [] ∧ ∀ c ∈ word, isWordLetter c :=
      fun word hword => words_spec (hwords ▸ hword)
    rw [← isIdentifier_ofWords hspec convention, ← happly convention]
    refine ⟨?_, ?_⟩
    · rw [← Resolution.ofCandidate_text]
      rfl
    · rintro oldName inflect rfl
      rw [← Resolution.ofCandidate_text]
      rfl
  · intro convention
    by_cases hwords : words name = []
    · rw [apply_of_no_words snake hwords]
    · obtain ⟨first, rest, hcons⟩ := List.exists_cons_of_ne_nil hwords
      rw [apply_of_words convention ((words_snake name).trans hcons),
        apply_of_words convention hcons]

theorem apply_wordwise_digit :
    replacedWords "2HTTPField".toList = ["2", "http", "field"].map String.toList ∧
      pascal.replaced "2HTTPField".toList = "2HttpField".toList ∧
      Resolution.ofTransforms "2HTTPFields".toList (.ofCase .pascal) (.ofInflection .singular) =
        .ok
          { plan := ⟨"2HTTPFields".toList, "2HTTPFields".toList, false⟩
            events := [.keptInvalid "2HTTPFields".toList "'2HttpField'".toList] } := by
  have hwords : words "2HTTPField".toList = ["2", "http", "field"].map String.toList := by
    decide +kernel
  have hsingular : Inflection.singular.apply "2HTTPFields".toList = "2HTTPField".toList := by
    decide +kernel
  obtain ⟨hreplaced, hconventions, hwordwise, -⟩ := apply_wordwise "2HTTPField".toList
  obtain ⟨-, hpascal, -, hresolution⟩ := hwordwise _ _ hwords
  refine ⟨hreplaced ▸ hwords, (hconventions pascal).symm.trans (hpascal.trans (by decide)), ?_⟩
  rw [Transform.ofInflection, (hresolution pascal).2 _ _ hsingular, hpascal]
  rfl

end Case

end SchemaCase
