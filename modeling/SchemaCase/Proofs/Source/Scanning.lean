import SchemaCase.Source.Region

/-! The regions of a text follow from the regions of its parts: a text may be cut anywhere but
between two slashes, and each part is read on its own, from the mode that the parts in front of it
leave. -/

namespace SchemaCase.Source

theorem Cell.visible_eq_iff (cell : Cell) {c : Char} (hc : c ≠ ' ') :
    cell.visible = c ↔ cell.region = .code ∧ cell.char = c := by
  unfold Cell.visible
  split
  · next hregion => simp [hregion]
  · next hregion => simp [hregion, hc.symm]

theorem Cell.isBrace_iff (cell : Cell) :
    cell.isBrace = true ↔
      cell.region = .code ∧ (cell.char = '\x7b' ∨ cell.char = '\x7d') := by
  simp only [Cell.isBrace, Bool.or_eq_true, beq_iff_eq,
    cell.visible_eq_iff (show '\x7b' ≠ ' ' by decide),
    cell.visible_eq_iff (show '\x7d' ≠ ' ' by decide), and_or_left]

@[simp] theorem textOf_nil : textOf [] = [] := rfl

@[simp] theorem textOf_cons (cell : Cell) (cells : List Cell) :
    textOf (cell :: cells) = cell.char :: textOf cells := rfl

@[simp] theorem textOf_append (front back : List Cell) :
    textOf (front ++ back) = textOf front ++ textOf back :=
  List.map_append

@[simp] theorem length_textOf (cells : List Cell) : (textOf cells).length = cells.length :=
  List.length_map _

def codeCells (text : Text) : List Cell :=
  text.map (Cell.mk · .code)

@[simp] theorem codeCells_append (front back : Text) :
    codeCells (front ++ back) = codeCells front ++ codeCells back :=
  List.map_append

@[simp] theorem textOf_codeCells (text : Text) : textOf (codeCells text) = text := by
  simp [textOf, codeCells, Function.comp_def]

theorem visible_of_mem_codeCells {text : Text} {cell : Cell} (h : cell ∈ codeCells text) :
    cell.visible = cell.char ∧ cell.char ∈ text := by
  obtain ⟨c, hc, rfl⟩ := List.mem_map.mp h
  exact ⟨rfl, hc⟩

theorem eq_codeCells {cells : List Cell} (h : ∀ cell ∈ cells, cell.region = .code) :
    cells = codeCells (textOf cells) := by
  induction cells with
  | nil => rfl
  | cons cell rest ih =>
      obtain ⟨c, region⟩ := cell
      have hregion : region = .code := h _ List.mem_cons_self
      subst hregion
      rw [textOf_cons, codeCells, List.map_cons]
      exact congrArg _ (ih fun other hother => h other (List.mem_cons_of_mem _ hother))

theorem map_visible_codeCells (text : Text) : (codeCells text).map Cell.visible = text := by
  simp [codeCells, Function.comp_def, Cell.visible]

theorem map_visible_eq_textOf {cells : List Cell} (h : ∀ cell ∈ cells, cell.region = .code) :
    cells.map Cell.visible = textOf cells := by
  rw [eq_codeCells h, map_visible_codeCells, textOf_codeCells]

def modeAfter (mode : Mode) : Text → Mode
  | [] => mode
  | c :: rest => modeAfter (mode.step c rest.head?).2 rest

@[simp] theorem modeAfter_nil (mode : Mode) : modeAfter mode [] = mode := rfl

theorem modeAfter_cons (mode : Mode) (c : Char) (rest : Text) :
    modeAfter mode (c :: rest) = modeAfter (mode.step c rest.head?).2 rest := rfl

@[simp] theorem cellsFrom_nil (mode : Mode) : cellsFrom mode [] = [] := rfl

theorem cellsFrom_cons (mode : Mode) (c : Char) (rest : Text) :
    cellsFrom mode (c :: rest) =
      ⟨c, (mode.step c rest.head?).1⟩ :: cellsFrom (mode.step c rest.head?).2 rest := rfl

@[simp] theorem textOf_cellsFrom (mode : Mode) (text : Text) :
    textOf (cellsFrom mode text) = text := by
  induction text generalizing mode with
  | nil => rfl
  | cons c rest ih => rw [cellsFrom_cons, textOf_cons, ih]

theorem textOf_cells (text : Text) : textOf (cells text) = text :=
  textOf_cellsFrom .code text

@[simp] theorem length_cellsFrom (mode : Mode) (text : Text) :
    (cellsFrom mode text).length = text.length := by
  rw [← length_textOf, textOf_cellsFrom]

/-- What comes next matters only to a slash in code, and then only whether it is another one. -/
theorem Mode.step_congr {mode : Mode} {c : Char} {next other : Option Char}
    (h : mode = .code → c = '/' → (next = some '/' ↔ other = some '/')) :
    mode.step c next = mode.step c other := by
  cases mode with
  | code =>
      by_cases hslash : c = '/'
      · have hnext : (next == some '/') = (other == some '/') := by
          rw [Bool.eq_iff_iff, beq_iff_eq, beq_iff_eq]
          exact h rfl hslash
        simp [Mode.step, hnext]
      · simp [Mode.step, hslash]
  | string => rfl
  | escape => rfl
  | comment => rfl

@[simp] theorem Mode.step_lineFeed (mode : Mode) (next : Option Char) :
    mode.step '\n' next = (.code, .code) := rfl

theorem Mode.step_comment {c : Char} (h : c ≠ '\n') (next : Option Char) :
    Mode.comment.step c next = (.comment, .comment) := by
  simp [Mode.step, h]

theorem Mode.step_code_comment : Mode.code.step '/' (some '/') = (.comment, .comment) := rfl

theorem Mode.step_code {c : Char} {next : Option Char} (hquote : c ≠ '"')
    (hslash : c = '/' → next ≠ some '/') : Mode.code.step c next = (.code, .code) := by
  by_cases hfeed : c = '\n'
  · rw [hfeed, Mode.step_lineFeed]
  · simp only [Mode.step, beq_iff_eq, hfeed, hquote, Bool.and_eq_true, if_false]
    rw [if_neg fun h => hslash h.1 h.2]

theorem Mode.step_code_plain {c : Char} (hquote : c ≠ '"') (hslash : c ≠ '/')
    (next : Option Char) : Mode.code.step c next = (.code, .code) :=
  Mode.step_code hquote fun h => absurd h hslash

/-- A brace is code only where the reader is in code, and it leaves the reader there. -/
theorem Mode.step_brace {mode : Mode} {c : Char} {next : Option Char}
    (hc : c = '\x7b' ∨ c = '\x7d') (h : (mode.step c next).1 = .code) :
    mode = .code ∧ (mode.step c next).2 = .code := by
  rcases hc with rfl | rfl <;> cases mode <;> simp_all [Mode.step]

/-- No comment starts on the seam of two texts. -/
def Joins (front back : Text) : Prop :=
  front.getLast? = some '/' → back.head? ≠ some '/'

theorem Joins.of_last {front : Text} (h : front.getLast? ≠ some '/') (back : Text) :
    Joins front back :=
  fun hlast => absurd hlast h

theorem Joins.of_head (front : Text) {back : Text} (h : back.head? ≠ some '/') :
    Joins front back :=
  fun _ => h

theorem Joins.concat (front : Text) {c : Char} (h : c ≠ '/') (back : Text) :
    Joins (front ++ [c]) back :=
  .of_last (by simpa using h) back

theorem Joins.cons (front : Text) {c : Char} (h : c ≠ '/') (back : Text) :
    Joins front (c :: back) :=
  .of_head front (by simpa using h)

theorem Joins.tail {c d : Char} {front back : Text} (h : Joins (c :: d :: front) back) :
    Joins (d :: front) back := by
  intro hlast
  apply h
  rw [List.getLast?_cons_cons]
  exact hlast

/-- The step over the last character in front of the seam does not look across it. -/
private theorem Joins.step_last {c : Char} {back : Text} (h : Joins [c] back) (mode : Mode) :
    mode.step c back.head? = mode.step c none := by
  apply Mode.step_congr
  intro _ hc
  have hback : back.head? ≠ some '/' := h (by simp [hc])
  simp [hback]

theorem cellsFrom_append (mode : Mode) {front back : Text} (h : Joins front back) :
    cellsFrom mode (front ++ back) =
      cellsFrom mode front ++ cellsFrom (modeAfter mode front) back := by
  induction front generalizing mode with
  | nil => rfl
  | cons c rest ih =>
      cases rest with
      | nil =>
          simp only [List.singleton_append, cellsFrom_cons, modeAfter_cons, h.step_last mode]
          rfl
      | cons d rest =>
          rw [List.cons_append, cellsFrom_cons, ih _ h.tail]
          rfl

theorem modeAfter_append (mode : Mode) {front back : Text} (h : Joins front back) :
    modeAfter mode (front ++ back) = modeAfter (modeAfter mode front) back := by
  induction front generalizing mode with
  | nil => rfl
  | cons c rest ih =>
      cases rest with
      | nil => simp only [List.singleton_append, modeAfter_cons, h.step_last mode]; rfl
      | cons d rest =>
          rw [List.cons_append, modeAfter_cons, ih _ h.tail]
          rfl

/-- A cut of the cells is a cut of the text, each part read on its own. -/
theorem cellsFrom_eq_append {mode : Mode} {text : Text} {front back : List Cell}
    (hcells : cellsFrom mode text = front ++ back)
    (hjoins : Joins (textOf front) (textOf back)) :
    front = cellsFrom mode (textOf front) ∧
      back = cellsFrom (modeAfter mode (textOf front)) (textOf back) := by
  have htext : text = textOf front ++ textOf back := by
    rw [← textOf_cellsFrom mode text, hcells, textOf_append]
  rw [htext, cellsFrom_append mode hjoins] at hcells
  have hlength : (cellsFrom mode (textOf front)).length = front.length := by simp
  obtain ⟨hfront, hback⟩ := List.append_inj hcells hlength
  exact ⟨hfront.symm, hback.symm⟩

/-- A brace of the code cuts a text in two, and what stands behind it is read from code on. -/
theorem cellsFrom_brace {mode : Mode} {text : Text} {front back : List Cell} {brace : Cell}
    (hcells : cellsFrom mode text = front ++ brace :: back) (hbrace : brace.isBrace) :
    front = cellsFrom mode (textOf front) ∧ modeAfter mode (textOf front) = .code ∧
      back = cells (textOf back) := by
  obtain ⟨hregion, hchar⟩ := brace.isBrace_iff.mp hbrace
  have hslash : brace.char ≠ '/' := by rcases hchar with h | h <;> rw [h] <;> decide
  obtain ⟨hfront, hrest⟩ := cellsFrom_eq_append hcells (.cons (textOf front) hslash (textOf back))
  rw [textOf_cons, cellsFrom_cons] at hrest
  obtain ⟨hcell, hback⟩ := List.cons.inj hrest
  rw [hcell] at hregion
  obtain ⟨hmode, hafter⟩ := Mode.step_brace hchar hregion
  rw [hafter] at hback
  exact ⟨hfront, hmode, hback⟩

@[simp] theorem modeAfter_lineFeed (mode : Mode) (text : Text) :
    modeAfter mode (text ++ ['\n']) = .code := by
  rw [modeAfter_append mode (.cons text (by decide) [])]
  rfl

/-- Lines are read independently of each other. -/
theorem cellsFrom_lineFeed (mode : Mode) (front back : Text) :
    cellsFrom mode (front ++ '\n' :: back) =
      cellsFrom mode front ++ ⟨'\n', .code⟩ :: cells back := by
  rw [cellsFrom_append mode (.cons front (by decide) back), cellsFrom_cons,
    Mode.step_lineFeed]
  rfl

theorem modeAfter_append_lineFeed (mode : Mode) (front back : Text) :
    modeAfter mode (front ++ '\n' :: back) = modeAfter .code back := by
  rw [modeAfter_append mode (.cons front (by decide) back), modeAfter_cons,
    Mode.step_lineFeed]

/-- A text that opens neither a string nor a comment. -/
def Plain (text : Text) : Prop :=
  ∀ c ∈ text, c ≠ '"' ∧ c ≠ '/'

-- Found by search, the instance may run through all characters instead of those of the text.
instance : DecidablePred Plain :=
  fun text => List.decidableBAll (fun c => c ≠ '"' ∧ c ≠ '/') text

theorem Plain.append {front back : Text} (hfront : Plain front) (hback : Plain back) :
    Plain (front ++ back) := by
  intro c hc
  rcases List.mem_append.mp hc with hc | hc
  · exact hfront c hc
  · exact hback c hc

theorem Plain.joins {front : Text} (h : Plain front) (back : Text) : Joins front back := by
  apply Joins.of_last
  intro hlast
  exact (h '/' (List.mem_of_getLast? hlast)).2 rfl

theorem Plain.modeAfter {text : Text} (h : Plain text) : modeAfter .code text = .code := by
  induction text with
  | nil => rfl
  | cons c rest ih =>
      obtain ⟨hquote, hslash⟩ := h c List.mem_cons_self
      rw [modeAfter_cons, Mode.step_code_plain hquote hslash]
      exact ih fun d hd => h d (List.mem_cons_of_mem c hd)

theorem Plain.cells {text : Text} (h : Plain text) :
    Source.cells text = codeCells text := by
  unfold Source.cells
  induction text with
  | nil => rfl
  | cons c rest ih =>
      obtain ⟨hquote, hslash⟩ := h c List.mem_cons_self
      rw [cellsFrom_cons, Mode.step_code_plain hquote hslash,
        ih fun d hd => h d (List.mem_cons_of_mem c hd)]
      rfl

theorem Plain.cells_append {front : Text} (h : Plain front) (back : Text) :
    Source.cells (front ++ back) = codeCells front ++ Source.cells back := by
  unfold Source.cells
  rw [cellsFrom_append .code (h.joins back), h.modeAfter]
  congr 1
  exact h.cells

theorem Plain.modeAfter_append {front : Text} (h : Plain front) (back : Text) :
    Source.modeAfter .code (front ++ back) = Source.modeAfter .code back := by
  rw [Source.modeAfter_append .code (h.joins back), h.modeAfter]

theorem Plain.cells_eq_append {text : Text} {front back : List Cell}
    (hcells : Source.cells text = front ++ back) (hfront : Plain (textOf front)) :
    front = codeCells (textOf front) ∧ back = Source.cells (textOf back) := by
  obtain ⟨hfrontCells, hback⟩ := cellsFrom_eq_append hcells (hfront.joins _)
  rw [hfront.modeAfter] at hback
  exact ⟨hfrontCells.trans hfront.cells, hback⟩

/-- A text that may stand between quotes as it is. -/
def Literal (text : Text) : Prop :=
  ∀ c ∈ text, c ≠ '"' ∧ c ≠ '\\' ∧ c ≠ '\n'

def stringCells (text : Text) : List Cell :=
  text.map (Cell.mk · .string)

theorem visible_of_mem_stringCells {text : Text} {cell : Cell} (h : cell ∈ stringCells text) :
    cell.visible = ' ' := by
  obtain ⟨c, -, rfl⟩ := List.mem_map.mp h
  rfl

theorem Mode.step_string {c : Char} (h : c ≠ '"' ∧ c ≠ '\\' ∧ c ≠ '\n') (next : Option Char) :
    Mode.string.step c next = (.string, .string) := by
  simp [Mode.step, h]

theorem Literal.cells {text : Text} (h : Literal text) (back : Text) :
    cellsFrom .string (text ++ '"' :: back) =
      stringCells text ++ ⟨'"', .code⟩ :: Source.cells back := by
  induction text with
  | nil => rfl
  | cons c rest ih =>
      rw [List.cons_append, cellsFrom_cons, Mode.step_string (h c List.mem_cons_self),
        ih fun d hd => h d (List.mem_cons_of_mem c hd)]
      rfl

theorem Literal.modeAfter {text : Text} (h : Literal text) (back : Text) :
    Source.modeAfter .string (text ++ '"' :: back) = Source.modeAfter .code back := by
  induction text with
  | nil => rfl
  | cons c rest ih =>
      rw [List.cons_append, modeAfter_cons, Mode.step_string (h c List.mem_cons_self)]
      exact ih fun d hd => h d (List.mem_cons_of_mem c hd)

/-! A comment lasts until the end of its line, so code that stands behind blanks on a line shows
that these are code as well. -/

theorem region_comment {text : Text} {front back : List Cell} {last : Cell}
    (hcells : cellsFrom .comment text = front ++ last :: back)
    (hfront : ∀ cell ∈ front, cell.visible ≠ '\n') (hlast : last.char ≠ '\n') :
    last.region = .comment := by
  induction text generalizing front with
  | nil => simp at hcells
  | cons c rest ih =>
      rw [cellsFrom_cons] at hcells
      cases front with
      | nil =>
          obtain ⟨rfl, -⟩ := List.cons.inj hcells
          rw [Mode.step_comment hlast]
      | cons cell front =>
          obtain ⟨rfl, htail⟩ := List.cons.inj hcells
          have hfeed : c ≠ '\n' := by
            rintro rfl
            exact hfront _ List.mem_cons_self rfl
          rw [Mode.step_comment hfeed] at htail
          exact ih htail fun other hother => hfront other (List.mem_cons_of_mem _ hother)

theorem region_code_of_visible {text : Text} {front back : List Cell} {last : Cell}
    (hcells : cellsFrom .code text = front ++ last :: back)
    (hfront : ∀ cell ∈ front, cell.visible ≠ '\n' ∧ cell.visible ≠ '"')
    (hlast : last.region = .code) (hfeed : last.char ≠ '\n') :
    ∀ cell ∈ front, cell.region = .code := by
  induction text generalizing front with
  | nil => simp at hcells
  | cons c rest ih =>
      rw [cellsFrom_cons] at hcells
      cases front with
      | nil => simp
      | cons cell front =>
          obtain ⟨rfl, htail⟩ := List.cons.inj hcells
          have hrest := fun other hother => hfront other (List.mem_cons_of_mem _ hother)
          by_cases hopens : c = '/' ∧ rest.head? = some '/'
          · obtain ⟨rfl, hnext⟩ := hopens
            rw [hnext, Mode.step_code_comment] at htail
            have hcomment := region_comment htail (fun other hother => (hrest other hother).1)
              hfeed
            rw [hlast] at hcomment
            cases hcomment
          · have hquote : c ≠ '"' := by
              rintro rfl
              exact (hfront _ List.mem_cons_self).2 rfl
            have hstep : Mode.code.step c rest.head? = (.code, .code) :=
              Mode.step_code hquote fun hslash hnext => hopens ⟨hslash, hnext⟩
            rw [hstep] at htail ⊢
            intro other hother
            rcases List.mem_cons.mp hother with rfl | hother
            · rfl
            · exact ih htail hrest other hother

end SchemaCase.Source
