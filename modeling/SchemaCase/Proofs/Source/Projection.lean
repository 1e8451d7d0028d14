import SchemaCase.Proofs.Source.CodeItems
import SchemaCase.Proofs.Source.Mask
import SchemaCase.Proofs.Source.Position

/-! Masking as a projection: a masked text shows what it shows already, line by line, and of the
braces exactly those that the grammar of code leaves outside of strings and comments. -/

namespace SchemaCase.Source

/-- The mode of a reader of the masked text while the text itself is read in `mode`: escapes and
comments are blank there. -/
def Mode.shown : Mode → Mode
  | .code | .comment => .code
  | .string | .escape => .string

/-- One character of a masked text is shown again, and both readers go on side by side. -/
theorem Mode.step_shown (mode : Mode) (c : Char) {next nextShown : Option Char}
    (hnext : nextShown = some '/' → next = some '/') :
    let region := (mode.step c next).1
    let visible := Cell.visible ⟨c, region⟩
    Cell.visible ⟨visible, (mode.shown.step visible nextShown).1⟩ = visible ∧
      (mode.shown.step visible nextShown).2 = (mode.step c next).2.shown := by
  by_cases hfeed : c = '\n'
  · subst hfeed
    exact ⟨rfl, rfl⟩
  cases mode with
  | comment =>
      rw [Mode.step_comment hfeed]
      exact ⟨rfl, rfl⟩
  | escape =>
      rw [Mode.step_escape hfeed]
      exact ⟨rfl, rfl⟩
  | string =>
      by_cases hquote : c = '"'
      · subst hquote
        exact ⟨rfl, rfl⟩
      by_cases hescape : c = '\\'
      · subst hescape
        exact ⟨rfl, rfl⟩
      rw [Mode.step_string ⟨hquote, hescape, hfeed⟩]
      exact ⟨rfl, rfl⟩
  | code =>
      by_cases hquote : c = '"'
      · subst hquote
        exact ⟨rfl, rfl⟩
      by_cases hopens : c = '/' ∧ next = some '/'
      · obtain ⟨rfl, rfl⟩ := hopens
        exact ⟨rfl, rfl⟩
      have hslash : c = '/' → next ≠ some '/' := fun hc hnext => hopens ⟨hc, hnext⟩
      have hstep := Mode.step_code hquote hslash
      have hagain : Mode.code.step c nextShown = (.code, .code) :=
        Mode.step_code hquote fun hc hshown => hslash hc (hnext hshown)
      rw [hstep]
      change Cell.visible ⟨c, (Mode.code.step c nextShown).1⟩ = c ∧
        (Mode.code.step c nextShown).2 = .code
      rw [hagain]
      exact ⟨rfl, rfl⟩

theorem head?_visible (mode : Mode) (text : Text)
    (h : ((cellsFrom mode text).map Cell.visible).head? = some '/') : text.head? = some '/' := by
  cases text with
  | nil => cases h
  | cons c rest =>
      rw [cellsFrom_cons, List.map_cons, List.head?_cons, Option.some.injEq,
        Cell.visible_eq_iff _ (by decide)] at h
      exact congrArg some h.2

theorem map_visible_shown (mode : Mode) (text : Text) :
    (cellsFrom mode.shown ((cellsFrom mode text).map Cell.visible)).map Cell.visible =
      (cellsFrom mode text).map Cell.visible := by
  induction text generalizing mode with
  | nil => rfl
  | cons c rest ih =>
      rw [cellsFrom_cons, List.map_cons, cellsFrom_cons, List.map_cons]
      obtain ⟨hvisible, hmode⟩ := mode.step_shown c (head?_visible (mode.step c rest.head?).2 rest)
      rw [hvisible, hmode, ih]

theorem mask_mask (text : Text) : mask (mask text) = mask text :=
  map_visible_shown .code text

theorem getElem?_mask (text : Text) (offset : Nat) :
    (mask text)[offset]? = ((cells text)[offset]?).map Cell.visible := by
  rw [mask, List.getElem?_map]

theorem getElem?_text (text : Text) (offset : Nat) :
    text[offset]? = ((cells text)[offset]?).map Cell.char := by
  conv_lhs => rw [← textOf_cells text, textOf, List.getElem?_map]

theorem getElem?_mask_of_ne {text : Text} {offset : Nat}
    (h : (mask text)[offset]? ≠ text[offset]?) : (mask text)[offset]? = some ' ' := by
  rw [getElem?_mask, getElem?_text] at h
  rw [getElem?_mask]
  cases hcell : (cells text)[offset]? with
  | none => simp [hcell] at h
  | some cell =>
      rw [hcell, Option.map_some, Option.map_some, Ne, Option.some.injEq] at h
      have hregion : cell.region ≠ .code := fun hcode => h (if_pos hcode)
      exact congrArg some (if_neg hregion)

theorem getElem?_mask_lineFeed (text : Text) (offset : Nat) :
    (mask text)[offset]? = some '\n' ↔ text[offset]? = some '\n' := by
  rw [getElem?_mask, getElem?_text]
  cases hcell : (cells text)[offset]? with
  | none => simp
  | some cell =>
      simp only [Option.map_some, Option.some.injEq]
      exact visible_eq_lineFeed_iff (List.mem_of_getElem? hcell)

theorem modeAfter_lastLine (text : Text) :
    modeAfter .code (lastLine text) = modeAfter .code text := by
  induction text using Line.body_induction with
  | last text h => rw [lastLine_of_not_mem h]
  | line front back hfront ih =>
      rw [lastLine_lineFeed, ih, modeAfter_append_lineFeed]

theorem lineFeed_not_mem_lastLine (text : Text) : '\n' ∉ lastLine text := by
  intro hmem
  have hrun := List.mem_takeWhile_imp (List.mem_reverse.mp hmem)
  simp at hrun

/-- A brace is shown if what stands in front of it on its line is whole strings and single
characters. -/
theorem getElem?_mask_brace (front back : Text) {brace : Char}
    (hbrace : brace = '\x7b' ∨ brace = '\x7d') :
    (mask (front ++ brace :: back))[front.length]? = some brace ↔
      CodeItems (brace :: back) (lastLine front) := by
  have hslash : brace ≠ '/' := by rcases hbrace with rfl | rfl <;> decide
  have hquote : brace ≠ '"' := by rcases hbrace with rfl | rfl <;> decide
  have hblank : brace ≠ ' ' := by rcases hbrace with rfl | rfl <;> decide
  have hcell : (cells (front ++ brace :: back))[front.length]? =
      some ⟨brace, ((modeAfter .code front).step brace back.head?).1⟩ := by
    rw [cells, cellsFrom_append .code (.cons front hslash back),
      List.getElem?_append_right (by simp), length_cellsFrom, Nat.sub_self, cellsFrom_cons,
      List.getElem?_cons_zero]
  rw [getElem?_mask, hcell, Option.map_some, Option.some.injEq, Cell.visible_eq_iff _ hblank,
    codeItems_iff (lineFeed_not_mem_lastLine front), modeAfter_lastLine]
  constructor
  · rintro ⟨hregion, -⟩
    exact ⟨(Mode.step_brace hbrace hregion).1, .cons _ hslash back⟩
  · rintro ⟨hmode, -⟩
    rw [hmode, Mode.step_code_plain hquote hslash]
    exact ⟨rfl, rfl⟩

/-- Masking keeps lengths, line feeds and the braces of the code, blanks whatever else it changes,
changes nothing a second time and treats every line on its own. -/
theorem mask_projects (text : Text) :
    (mask text).length = text.length ∧
      (∀ offset : Nat,
        (mask text)[offset]? ≠ text[offset]? → (mask text)[offset]? = some ' ') ∧
      (∀ offset : Nat, (mask text)[offset]? = some '\n' ↔ text[offset]? = some '\n') ∧
      (∀ front brace back, text = front ++ brace :: back → (brace = '\x7b' ∨ brace = '\x7d') →
        ((mask text)[front.length]? = some brace ↔ CodeItems (brace :: back) (lastLine front))) ∧
      mask (mask text) = mask text ∧
      ∀ other, mask (text ++ '\n' :: other) = mask text ++ '\n' :: mask other := by
  refine ⟨length_mask text, fun offset => getElem?_mask_of_ne, getElem?_mask_lineFeed text, ?_,
    mask_mask text, mask_lineFeed text⟩
  rintro front brace back rfl hbrace
  exact getElem?_mask_brace front back hbrace

/-- Of two braces behind an escaped quote, the first is still in the string. -/
theorem mask_projects_quoted :
    let front := "a \"\\\" ".toList
    let between := "\" ".toList
    let back := " // \x7b\n\"".toList
    let text := front ++ '\x7d' :: (between ++ '\x7d' :: back)
    let later := front ++ '\x7d' :: between
    ((mask text)[3]? ≠ text[3]? ∧ (mask text)[3]? = some ' ') ∧
      ¬CodeItems ('\x7d' :: (between ++ '\x7d' :: back)) (lastLine front) ∧
      CodeItems ('\x7d' :: back) (lastLine later) ∧ (mask text)[later.length]? = some '\x7d' := by
  intro front between back text later
  obtain ⟨-, hblank, -, hbraces, -⟩ := mask_projects text
  have hchanged : (mask text)[3]? ≠ text[3]? := by decide
  have hhidden : (mask text)[front.length]? ≠ some '\x7d' := by decide
  have hvisible : (mask text)[later.length]? = some '\x7d' := by decide
  have hinside := hbraces front '\x7d' (between ++ '\x7d' :: back) rfl (.inr rfl)
  have houtside := hbraces later '\x7d' back rfl (.inr rfl)
  exact ⟨⟨hchanged, hblank 3 hchanged⟩, mt hinside.mpr hhidden, houtside.mp hvisible, hvisible⟩

end SchemaCase.Source
