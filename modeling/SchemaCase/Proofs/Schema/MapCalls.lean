import SchemaCase.Proofs.Source.CodeItems
import SchemaCase.Proofs.Source.Ink
import SchemaCase.Rename.Block

/-! The calls of a text. A call that a rename writes behind the code of a line is found again and
gives the name that was written, and no other call comes or goes. -/

namespace SchemaCase

open Source

namespace MapCall

def calls (admits : Option Char → Bool) (word : Text) (previous : Option Char) :
    List Cell → List Text
  | [] => []
  | cell :: rest =>
      (if admits previous then callAt? word (cell :: rest) else none).toList ++
        calls admits word (some cell.visible) rest

theorem findCall?_eq_head? (admits : Option Char → Bool) (word : Text) (previous : Option Char)
    (cells : List Cell) :
    findCall? admits word previous cells = (calls admits word previous cells).head? := by
  induction cells generalizing previous with
  | nil => rfl
  | cons cell rest ih =>
      simp only [findCall?, calls]
      cases (if admits previous then callAt? word (cell :: rest) else none) with
      | none => exact ih (some cell.visible)
      | some argument => rfl

def lastVisible (previous : Option Char) (cells : List Cell) : Option Char :=
  (cells.getLast?.map Cell.visible).or previous

theorem lastVisible_cons (previous : Option Char) (cell : Cell) (rest : List Cell) :
    lastVisible previous (cell :: rest) = lastVisible (some cell.visible) rest := by
  unfold lastVisible
  cases hrest : rest.getLast? with
  | none => simp [List.getLast?_cons, hrest]
  | some last => simp [List.getLast?_cons, hrest]

theorem callAt?_eq_none_of_ne {word : Text} {cells : List Cell}
    (h : (cells.take word.length).map Cell.visible ≠ word) : callAt? word cells = none := by
  unfold callAt?
  rw [if_neg h]

theorem callAt?_eq_none {word : Text} {sign : Char} {cell : Cell} {rest : List Cell}
    (h : cell.visible ≠ sign) : callAt? (sign :: word) (cell :: rest) = none := by
  apply callAt?_eq_none_of_ne
  intro hmatch
  simp only [List.length_cons, List.take_succ_cons, List.map_cons] at hmatch
  exact h (List.cons.inj hmatch).1

theorem calls_skip {admits : Option Char → Bool} {word : Text} {sign : Char}
    {previous : Option Char} {front : List Cell} (h : ∀ cell ∈ front, cell.visible ≠ sign)
    (back : List Cell) :
    calls admits (sign :: word) previous (front ++ back) =
      calls admits (sign :: word) (lastVisible previous front) back := by
  induction front generalizing previous with
  | nil => rfl
  | cons cell rest ih =>
      rw [List.cons_append, calls, callAt?_eq_none (h cell List.mem_cons_self), lastVisible_cons,
        ← ih fun other hother => h other (List.mem_cons_of_mem _ hother)]
      simp

theorem calls_eq_nil {admits : Option Char → Bool} {word : Text} {sign : Char}
    {previous : Option Char} {cells : List Cell} (h : ∀ cell ∈ cells, cell.visible ≠ sign) :
    calls admits (sign :: word) previous cells = [] := by
  rw [← List.append_nil cells, calls_skip h]
  rfl

theorem calls_congr {admits : Option Char → Bool} {word : Text} {previous other : Option Char}
    (h : admits previous = admits other) (cells : List Cell) :
    calls admits word previous cells = calls admits word other cells := by
  cases cells with
  | nil => rfl
  | cons cell rest => rw [calls, calls, h]

/-- Blanks come first, and no parenthesis opens behind them. -/
structure Detached (cells : List Cell) : Prop where
  blank : ∀ cell ∈ cells.head?, Text.isBlank cell.visible
  behind : ∀ cell ∈ (cells.dropWhile fun cell => Text.isBlank cell.visible).head?,
    cell.visible ≠ '('

theorem callAt?_append {word : Text} (hword : ∀ c ∈ word, Text.isBlank c = false)
    (front : List Cell) {back : List Cell} (hback : Detached back) :
    callAt? word (front ++ back) = (callAt? word front).map (· ++ textOf back) := by
  by_cases hlength : word.length ≤ front.length
  · unfold callAt?
    rw [List.take_append_of_le_length hlength, List.drop_append_of_le_length hlength,
      List.dropWhile_append]
    split
    · cases hfront : (front.drop word.length).dropWhile fun cell => Text.isBlank cell.visible with
      | nil =>
          cases hopen : back.dropWhile fun cell => Text.isBlank cell.visible with
          | nil => rfl
          | cons cell rest =>
              have hparen := hback.behind cell (by rw [hopen]; rfl)
              simp [hparen]
      | cons cell rest =>
          simp only [List.isEmpty_cons, Bool.false_eq_true, if_false, List.cons_append]
          split <;> simp
    · rfl
  · have hshort : front.length < word.length := Nat.lt_of_not_le hlength
    rw [callAt?_eq_none_of_ne, callAt?_eq_none_of_ne]
    · rfl
    · intro hmatch
      have hlengths := congrArg List.length hmatch
      simp only [List.length_map, List.length_take] at hlengths
      omega
    · intro hmatch
      cases back with
      | nil =>
          have hlengths := congrArg List.length hmatch
          simp only [List.append_nil, List.length_map, List.length_take] at hlengths
          omega
      | cons cell rest =>
          obtain ⟨more, hmore⟩ := Nat.exists_eq_add_of_lt hshort
          have hmem : cell.visible ∈ word := by
            rw [← hmatch, List.take_append, hmore, show front.length + more + 1 - front.length =
              more + 1 by omega, List.take_succ_cons]
            simp
          have hblank := hback.blank cell rfl
          simp [hword _ hmem] at hblank

theorem calls_append {admits : Option Char → Bool} {word : Text} {previous : Option Char}
    (hword : ∀ c ∈ word, Text.isBlank c = false) (front : List Cell) {back : List Cell}
    (hback : Detached back) :
    calls admits word previous (front ++ back) =
      (calls admits word previous front).map (· ++ textOf back) ++
        calls admits word (lastVisible previous front) back := by
  induction front generalizing previous with
  | nil => rfl
  | cons cell rest ih =>
      -- No call reaches over the seam: its word has no blanks, and no parenthesis follows.
      have hcall := callAt?_append hword (cell :: rest) hback
      rw [List.cons_append] at hcall ⊢
      rw [calls, calls, hcall, ih, lastVisible_cons]
      split
      · cases callAt? word (cell :: rest) <;> simp
      · simp

theorem callAt?_written (word : Text) (back : List Cell) :
    callAt? word (codeCells (word ++ ['(']) ++ back) = some (textOf back) := by
  have htake : ((codeCells (word ++ ['(']) ++ back).take word.length).map Cell.visible = word := by
    rw [codeCells_append, List.append_assoc, List.take_left' (by simp [codeCells]),
      map_visible_codeCells]
  have hdrop : (codeCells (word ++ ['(']) ++ back).drop word.length = ⟨'(', .code⟩ :: back := by
    rw [codeCells_append, List.append_assoc, List.drop_left' (by simp [codeCells])]
    rfl
  have hparen : Text.isBlank (Cell.visible ⟨'(', .code⟩) = false := by decide
  unfold callAt?
  rw [if_pos htake, hdrop, List.dropWhile_cons_of_neg (by simp [hparen])]
  rfl

theorem literal?_contents {contents : Text} (h : StringContents contents)
    (hfeed : '\n' ∉ contents) (rest : Text) :
    literal? (contents ++ '"' :: rest) = some contents := by
  induction h with
  | nil =>
      rw [List.nil_append, literal?.eq_def]
      rfl
  | char quote escape tail ih =>
      rw [List.mem_cons, not_or] at hfeed
      rw [List.cons_append, literal?.eq_def]
      simp [quote, escape, ih hfeed.2]
  | @pair c contents tail ih =>
      simp only [List.mem_cons, not_or] at hfeed
      rw [List.cons_append, List.cons_append, literal?.eq_def]
      simp [Ne.symm hfeed.2.1, ih hfeed.2.2]

theorem argument_literal {contents : Text} (h : Literal contents) (back : Text) :
    argument ('"' :: (contents ++ '"' :: back)) = contents := by
  have hquote : ∀ c ∈ ('"' :: (contents ++ '"' :: back)).head?, Text.isBlank c = false := by
    rintro c ⟨⟩
    decide
  have htrim := Text.trimStart_of_head? hquote
  have hlabel : skipLabel ('"' :: (contents ++ '"' :: back)) =
      '"' :: (contents ++ '"' :: back) := rfl
  have hfeed : '\n' ∉ contents := fun hmem => (h '\n' hmem).2.2 rfl
  rw [argument, literalArgument?, htrim, hlabel]
  simp [literal?_contents h.stringContents hfeed]

def recordedArgument (name back : Text) : Text :=
  '"' :: (name ++ '"' :: ')' :: back)

theorem mapCall_append (name back : Text) :
    mapCall name ++ back = ['@', 'm', 'a', 'p'] ++ ['('] ++ recordedArgument name back := by
  have hcall : mapCall name = '@' :: 'm' :: 'a' :: 'p' :: '(' :: '"' :: (name ++ ['"', ')']) := rfl
  simp [hcall, recordedArgument]

theorem cells_recordedArgument {name : Text} (h : Literal name) (back : Text) :
    cells (recordedArgument name back) =
      ⟨'"', .code⟩ :: (stringCells name ++ ⟨'"', .code⟩ :: ⟨')', .code⟩ :: cells back) := by
  have hcells : cells (recordedArgument name back) =
      ⟨'"', .code⟩ :: cellsFrom .string (name ++ '"' :: ')' :: back) := rfl
  rw [hcells, h.cells]
  rfl

theorem modeAfter_recordedArgument {name : Text} (h : Literal name) (back : Text) :
    modeAfter .code (recordedArgument name back) = modeAfter .code back :=
  h.modeAfter (')' :: back)

theorem visible_recordedArgument {name back : Text} (hname : Literal name)
    (hback : ∀ cell ∈ cells back, cell.visible ≠ '@') :
    ∀ cell ∈ cells (recordedArgument name back), cell.visible ≠ '@' := by
  intro cell hcell
  rw [cells_recordedArgument hname] at hcell
  simp only [List.mem_cons, List.mem_append] at hcell
  rcases hcell with rfl | hcell | rfl | rfl | hcell
  · decide
  · rw [visible_of_mem_stringCells hcell]
    decide
  · decide
  · decide
  · exact hback cell hcell

def standsAlone (previous : Option Char) : Bool :=
  !previous.any fun c => c == '@' || Text.isWordChar c

def inlineCalls (fragment : Text) : List Text :=
  calls standsAlone ['@', 'm', 'a', 'p'] none (cells fragment)

theorem isBlank_mapWord : ∀ c ∈ ['@', 'm', 'a', 'p'], Text.isBlank c = false := by
  simp only [List.mem_cons, List.not_mem_nil, or_false, forall_eq_or_imp, forall_eq]
  decide

theorem inline?_eq (fragment : Text) :
    inline? fragment = (inlineCalls fragment).head?.map argument := by
  rw [inlineCalls, ← findCall?_eq_head?]
  rfl

/-- The name that a text starts with neither holds a call nor lets one start behind it. -/
theorem inlineCalls_token {token : Text} (h : Text.IsName token) (behind : Text) :
    inlineCalls (token ++ behind) =
      calls standsAlone ['@', 'm', 'a', 'p'] (some '_') (cells behind) := by
  have hat : Text.isWordChar '@' = false := by decide +kernel
  have hskip : ∀ cell ∈ codeCells token, cell.visible ≠ '@' := by
    intro cell hcell
    obtain ⟨hvisible, hmem⟩ := visible_of_mem_codeCells hcell
    rw [hvisible]
    exact Text.ne_of_class (h.isWordChar _ hmem) hat
  have hlast : standsAlone (lastVisible none (codeCells token)) = standsAlone (some '_') := by
    obtain ⟨front, last, rfl⟩ := (List.eq_nil_or_concat token).resolve_left h.ne_nil
    have hword : Text.isWordChar last := h.isWordChar last (by simp)
    have hunderscore : Text.isWordChar '_' = true := by decide +kernel
    simp [lastVisible, codeCells, Cell.visible, standsAlone, hword, hunderscore]
  rw [inlineCalls, (plain_of_isName h).cells_append, calls_skip hskip, calls_congr hlast]

theorem inlineCalls_blank {code back : Text} (hjoins : Joins code back)
    (hback : ∀ cell ∈ cellsFrom (modeAfter .code code) back, Text.isBlank cell.visible) :
    inlineCalls (code ++ back) = (inlineCalls code).map (· ++ back) := by
  have hdetached : Detached (cellsFrom (modeAfter .code code) back) := by
    refine ⟨fun cell hcell => hback cell (List.mem_of_mem_head? hcell), ?_⟩
    rw [List.dropWhile_eq_nil_iff.mpr hback]
    simp
  have hat : ∀ cell ∈ cellsFrom (modeAfter .code code) back, cell.visible ≠ '@' :=
    fun cell hcell => Text.ne_of_class (hback cell hcell) (by decide)
  rw [inlineCalls, cells, cellsFrom_append .code hjoins, calls_append isBlank_mapWord _ hdetached,
    calls_eq_nil hat, List.append_nil, textOf_cellsFrom]
  rfl

theorem calls_written {previous : Option Char} (h : standsAlone previous) {back : List Cell}
    (hback : ∀ cell ∈ back, cell.visible ≠ '@') :
    calls standsAlone ['@', 'm', 'a', 'p'] previous
      (codeCells (['@', 'm', 'a', 'p'] ++ ['(']) ++ back) = [textOf back] := by
  have hword : ∀ cell ∈ codeCells ['m', 'a', 'p', '('], cell.visible ≠ '@' := by decide
  have hrest : ∀ cell ∈ codeCells ['m', 'a', 'p', '('] ++ back, cell.visible ≠ '@' := by
    intro cell hcell
    rcases List.mem_append.mp hcell with hcell | hcell
    · exact hword cell hcell
    · exact hback cell hcell
  have hcons : codeCells (['@', 'm', 'a', 'p'] ++ ['(']) ++ back =
      ⟨'@', .code⟩ :: (codeCells ['m', 'a', 'p', '('] ++ back) := rfl
  have hwritten := callAt?_written ['@', 'm', 'a', 'p'] back
  rw [hcons] at hwritten ⊢
  rw [calls, h, hwritten, calls_eq_nil hrest]
  rfl

theorem inlineCalls_recorded {code name back : Text} (hcode : modeAfter .code code = .code)
    (hname : Literal name) (hback : ∀ cell ∈ cells back, cell.visible ≠ '@') :
    inlineCalls (code ++ ' ' :: (mapCall name ++ back)) =
      (inlineCalls code).map (· ++ ' ' :: (mapCall name ++ back)) ++
        [recordedArgument name back] := by
  have hplain : Plain (['@', 'm', 'a', 'p'] ++ ['(']) := by decide
  have hcells : cellsFrom .code (' ' :: (mapCall name ++ back)) =
      ⟨' ', .code⟩ :: (codeCells (['@', 'm', 'a', 'p'] ++ ['(']) ++
        cells (recordedArgument name back)) := by
    rw [mapCall_append, ← hplain.cells_append]
    rfl
  have hdetached : Detached (cellsFrom .code (' ' :: (mapCall name ++ back))) := by
    rw [hcells]
    constructor
    · rintro cell ⟨⟩
      decide
    · rintro cell ⟨⟩
      decide
  have hblank : standsAlone (some ' ') = true := by decide +kernel
  have hcall : calls standsAlone ['@', 'm', 'a', 'p'] (lastVisible none (cells code))
      (cellsFrom .code (' ' :: (mapCall name ++ back))) = [recordedArgument name back] := by
    have hwritten := calls_written hblank (visible_recordedArgument hname hback)
    rw [cells, textOf_cellsFrom, ← cells] at hwritten
    have hvisible : Cell.visible ⟨' ', .code⟩ = ' ' := rfl
    rw [hcells, calls, callAt?_eq_none (by decide), ite_self, hvisible, hwritten]
    rfl
  rw [inlineCalls, cells, cellsFrom_append .code (.cons code (by decide) _), hcode,
    calls_append isBlank_mapWord _ hdetached, textOf_cellsFrom]
  exact congrArg _ hcall

theorem ofBlock?_mapCall {indent name : Text} (hindent : ∀ c ∈ indent, Text.isBlank c)
    (hname : Literal name) : ofBlock? (indent ++ '@' :: mapCall name) = some name := by
  have hplain : Plain (['@', '@', 'm', 'a', 'p'] ++ ['(']) := by decide
  have hskip : ∀ cell ∈ codeCells indent, cell.visible ≠ '@' := by
    intro cell hcell
    obtain ⟨hvisible, hmem⟩ := visible_of_mem_codeCells hcell
    rw [hvisible]
    exact Text.ne_of_class (hindent _ hmem) (by decide)
  have hcells : cells ('@' :: mapCall name) =
      codeCells (['@', '@', 'm', 'a', 'p'] ++ ['(']) ++ cells (recordedArgument name []) := by
    rw [← hplain.cells_append, ← List.append_nil (mapCall name), ← List.cons_append,
      List.cons_append, mapCall_append]
    rfl
  have hwritten := callAt?_written ['@', '@', 'm', 'a', 'p'] (cells (recordedArgument name []))
  have hcons : codeCells (['@', '@', 'm', 'a', 'p'] ++ ['(']) ++ cells (recordedArgument name []) =
      ⟨'@', .code⟩ :: (codeCells ['@', 'm', 'a', 'p', '('] ++ cells (recordedArgument name [])) :=
    rfl
  have hfind : findCall? (fun _ => true) ['@', '@', 'm', 'a', 'p'] none
      (cells (indent ++ '@' :: mapCall name)) = some (recordedArgument name []) := by
    rw [findCall?_eq_head?, (plain_of_isBlank hindent).cells_append, calls_skip hskip, hcells,
      hcons, calls, ← hcons, hwritten, cells, textOf_cellsFrom]
    rfl
  have harg : argument (recordedArgument name []) = name := argument_literal hname [')']
  calc ofBlock? (indent ++ '@' :: mapCall name)
      = (findCall? (fun _ => true) ['@', '@', 'm', 'a', 'p'] none
          (cells (indent ++ '@' :: mapCall name))).map argument := rfl
    _ = some name := by rw [hfind, Option.map_some, harg]

end MapCall

end SchemaCase
