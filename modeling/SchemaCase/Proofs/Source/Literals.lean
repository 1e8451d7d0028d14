import SchemaCase.Proofs.Source.Ink

/-! The string literals of a text. A quote of the code opens a literal where none is open and
closes it otherwise; one that its line does not close is none. -/

namespace SchemaCase.Source

def nextLiteral (part? : Option Text) (cell : Cell) : Option Text :=
  if cell.visible = '"' then if part?.isSome then none else some []
  else if cell.region = .string then part?.map (· ++ [cell.char])
  else none

/-- The literals that are closed among some cells; `part?` is read of the one that is open. -/
def literalsFrom (part? : Option Text) : List Cell → List Text
  | [] => []
  | cell :: rest =>
      (if cell.visible = '"' then part?.toList else []) ++
        literalsFrom (nextLiteral part? cell) rest

def literals (text : Text) : List Text :=
  literalsFrom none (cells text)

def literalAfter (part? : Option Text) (cells : List Cell) : Option Text :=
  cells.foldl nextLiteral part?

theorem nextLiteral_quote {cell : Cell} (h : cell.visible = '"') (part? : Option Text) :
    nextLiteral part? cell = if part?.isSome then none else some [] :=
  if_pos h

theorem nextLiteral_string {cell : Cell} (h : cell.region = .string) (part? : Option Text) :
    nextLiteral part? cell = part?.map (· ++ [cell.char]) := by
  have hquote : cell.visible ≠ '"' := by simp [Cell.visible, h]
  rw [nextLiteral, if_neg hquote, if_pos h]

theorem nextLiteral_other {cell : Cell} (hquote : cell.visible ≠ '"') (h : cell.region ≠ .string)
    (part? : Option Text) : nextLiteral part? cell = none := by
  rw [nextLiteral, if_neg hquote, if_neg h]

theorem nextLiteral_none {cell : Cell} (h : cell.visible ≠ '"') : nextLiteral none cell = none := by
  rw [nextLiteral, if_neg h]
  split <;> rfl

/-- Behind a cell of the code, nothing is read of a literal yet. -/
theorem nextLiteral_code {cell : Cell} (h : cell.region = .code) (part? : Option Text) :
    nextLiteral part? cell = none ∨ nextLiteral part? cell = some [] := by
  by_cases hquote : cell.visible = '"'
  · rw [nextLiteral_quote hquote]
    cases part? with
    | none => exact .inr rfl
    | some part => exact .inl rfl
  · exact .inl (nextLiteral_other hquote (by simp [h]) part?)

theorem literalAfter_append (part? : Option Text) (front back : List Cell) :
    literalAfter part? (front ++ back) = literalAfter (literalAfter part? front) back :=
  List.foldl_append

theorem literalsFrom_append (part? : Option Text) (front back : List Cell) :
    literalsFrom part? (front ++ back) =
      literalsFrom part? front ++ literalsFrom (literalAfter part? front) back := by
  induction front generalizing part? with
  | nil => rfl
  | cons cell front ih =>
      rw [List.cons_append, literalsFrom, ih, literalsFrom, List.append_assoc]
      rfl

theorem literalsFrom_eq_nil {cells : List Cell} (h : ∀ cell ∈ cells, cell.visible ≠ '"')
    (part? : Option Text) : literalsFrom part? cells = [] := by
  induction cells generalizing part? with
  | nil => rfl
  | cons cell rest ih =>
      rw [List.forall_mem_cons] at h
      rw [literalsFrom, if_neg h.1, ih h.2]
      rfl

theorem literalAfter_none {cells : List Cell} (h : ∀ cell ∈ cells, cell.visible ≠ '"') :
    literalAfter none cells = none := by
  induction cells with
  | nil => rfl
  | cons cell rest ih =>
      rw [List.forall_mem_cons] at h
      rw [literalAfter, List.foldl_cons, nextLiteral_none h.1]
      exact ih h.2

theorem literalAfter_stringCells (part text : Text) :
    literalAfter (some part) (stringCells text) = some (part ++ text) := by
  induction text generalizing part with
  | nil => rw [List.append_nil]; rfl
  | cons c text ih =>
      have hstep : nextLiteral (some part) ⟨c, .string⟩ = some (part ++ [c]) :=
        nextLiteral_string rfl _
      rw [stringCells, List.map_cons, literalAfter, List.foldl_cons, hstep,
        List.append_cons part c text]
      exact ih (part ++ [c])

/-- Blanks at the start of an open literal are the only thing that its beginning decides. -/
theorem map_trimStart_literalsFrom {part other : Text}
    (h : Text.trimStart part = Text.trimStart other) (cells : List Cell) :
    (literalsFrom (some part) cells).map Text.trimStart =
      (literalsFrom (some other) cells).map Text.trimStart := by
  induction cells generalizing part other with
  | nil => rfl
  | cons cell rest ih =>
      rw [literalsFrom, literalsFrom]
      by_cases hquote : cell.visible = '"'
      · simp [nextLiteral_quote hquote, hquote, h]
      · rw [if_neg hquote, if_neg hquote, List.nil_append, List.nil_append]
        by_cases hstring : cell.region = .string
        · rw [nextLiteral_string hstring, nextLiteral_string hstring]
          apply ih
          simp only [Text.trimStart, List.dropWhile_append] at h ⊢
          rw [h]
        · rw [nextLiteral_other hquote hstring, nextLiteral_other hquote hstring]

def Mode.isOpen : Mode → Bool
  | .string | .escape => true
  | .code | .comment => false

theorem isSome_nextLiteral {mode : Mode} {part? : Option Text} (h : part?.isSome = mode.isOpen)
    (c : Char) (next : Option Char) :
    (nextLiteral part? ⟨c, (mode.step c next).1⟩).isSome = (mode.step c next).2.isOpen := by
  by_cases hfeed : c = '\n'
  · subst hfeed
    rfl
  cases mode with
  | comment =>
      rw [Mode.step_comment hfeed]
      rfl
  | escape =>
      have hstep : Mode.escape.step c next = (.string, .string) := by simp [Mode.step, hfeed]
      rw [hstep, nextLiteral_string rfl, Option.isSome_map, h]
      rfl
  | string =>
      by_cases hquote : c = '"'
      · subst hquote
        have hstep : Mode.string.step '"' next = (.code, .code) := rfl
        rw [hstep, nextLiteral_quote rfl, h]
        rfl
      · by_cases hescape : c = '\\'
        · subst hescape
          have hstep : Mode.string.step '\\' next = (.string, .escape) := rfl
          rw [hstep, nextLiteral_string rfl, Option.isSome_map, h]
          rfl
        · rw [Mode.step_string ⟨hquote, hescape, hfeed⟩, nextLiteral_string rfl, Option.isSome_map,
            h]
  | code =>
      obtain rfl := Option.isNone_iff_eq_none.mp (Option.isSome_eq_false_iff.mp h)
      by_cases hquote : c = '"'
      · subst hquote
        rfl
      · by_cases hopens : c = '/' ∧ next = some '/'
        · obtain ⟨rfl, rfl⟩ := hopens
          rfl
        · rw [Mode.step_code hquote fun hslash hnext => hopens ⟨hslash, hnext⟩]
          have hcell : Cell.visible ⟨c, .code⟩ ≠ '"' := hquote
          exact congrArg Option.isSome (nextLiteral_none hcell)

/-- A literal is open exactly inside of a string. -/
theorem isSome_literalAfter {mode : Mode} {part? : Option Text} (h : part?.isSome = mode.isOpen)
    (text : Text) :
    (literalAfter part? (cellsFrom mode text)).isSome = (modeAfter mode text).isOpen := by
  induction text generalizing mode part? with
  | nil => exact h
  | cons c rest ih =>
      rw [cellsFrom_cons, modeAfter_cons]
      exact ih (isSome_nextLiteral h c rest.head?)

theorem literalAfter_of_closed {text : Text} (h : (modeAfter .code text).isOpen = false) :
    literalAfter none (cells text) = none := by
  have hopen : (literalAfter none (cells text)).isSome = (modeAfter .code text).isOpen :=
    isSome_literalAfter rfl text
  rw [h] at hopen
  exact Option.isNone_iff_eq_none.mp (Option.isSome_eq_false_iff.mp hopen)

/-- Blanks in an open string belong to its literal. -/
theorem literalAfter_blanks (part : Text) {blanks : Text} (h : ∀ c ∈ blanks, Text.isBlank c)
    (hfeed : '\n' ∉ blanks) :
    literalAfter (some part) (cellsFrom .string blanks) = some (part ++ blanks) := by
  have hcells : cellsFrom .string blanks = stringCells blanks := by
    induction blanks with
    | nil => rfl
    | cons c rest ih =>
        rw [List.forall_mem_cons] at h
        rw [List.mem_cons, not_or] at hfeed
        have hquote : c ≠ '"' := Text.ne_of_class h.1 (by decide)
        have hescape : c ≠ '\\' := Text.ne_of_class h.1 (by decide)
        rw [cellsFrom_cons, Mode.step_string ⟨hquote, hescape, Ne.symm hfeed.1⟩, ih h.2 hfeed.2]
        rfl
  rw [hcells, literalAfter_stringCells]

theorem literals_append {front back : Text} (hjoins : Joins front back)
    (hmode : modeAfter .code front = .code) :
    literals (front ++ back) = literals front ++ literals back := by
  rw [literals, cells, cellsFrom_append .code hjoins, literalsFrom_append, ← cells,
    literalAfter_of_closed (by rw [hmode]; rfl), hmode]
  rfl

theorem visible_ne_quote {mode : Mode} {text : Text} (h : '"' ∉ text) :
    ∀ cell ∈ cellsFrom mode text, cell.visible ≠ '"' := by
  intro cell hcell hquote
  rcases visible_of_mem_cellsFrom hcell with hvisible | hvisible
  · rw [hquote] at hvisible
    cases hvisible
  · exact h (hquote ▸ hvisible)

theorem literals_plain_append {front : Text} (h : Plain front) (back : Text) :
    literals (front ++ back) = literals back := by
  have hquote : '"' ∉ front := fun hmem => (h '"' hmem).1 rfl
  rw [literals_append (h.joins back) h.modeAfter]
  exact congrArg (· ++ literals back) (literalsFrom_eq_nil (visible_ne_quote hquote) none)

theorem literals_plain {text : Text} (h : Plain text) : literals text = [] := by
  have hliterals := literals_plain_append h []
  rwa [List.append_nil] at hliterals

theorem literals_append_unquoted {front back : Text} (hjoins : Joins front back)
    (h : ∀ cell ∈ cellsFrom (modeAfter .code front) back, cell.visible ≠ '"') :
    literals (front ++ back) = literals front := by
  rw [literals, cells, cellsFrom_append .code hjoins, literalsFrom_append, literalsFrom_eq_nil h,
    List.append_nil]
  rfl

theorem literals_append_blanks (front : Text) {blanks : Text}
    (h : ∀ c ∈ blanks, Text.isBlank c) : literals (front ++ blanks) = literals front := by
  exact literals_append_unquoted (joins_blanks front h)
    (visible_ne_quote fun hmem => (plain_of_isBlank h '"' hmem).1 rfl)

theorem literals_lineFeed (front back : Text) :
    literals (front ++ '\n' :: back) = literals front ++ literals back := by
  have hfeed : ∀ part?, nextLiteral part? ⟨'\n', .code⟩ = none :=
    nextLiteral_other (by decide) (by decide)
  rw [literals, cells, cellsFrom_lineFeed, literalsFrom_append, literalsFrom, hfeed,
    if_neg (by decide), List.nil_append]
  rfl

end SchemaCase.Source
