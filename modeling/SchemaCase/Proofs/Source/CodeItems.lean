import Mathlib.Data.List.Basic
import SchemaCase.Proofs.Source.Scanning

/-! The grammar of a line of code, told without modes: characters one by one, and strings from quote
to quote. A reader is in code behind a part of a line exactly if that part is made up so. -/

namespace SchemaCase.Source

/-- What may stand between the quotes of a string. A backslash takes the next character with it. -/
inductive StringContents : Text → Prop
  | nil : StringContents []
  | char {c : Char} {rest : Text} (quote : c ≠ '"') (escape : c ≠ '\\')
      (tail : StringContents rest) : StringContents (c :: rest)
  | pair {c : Char} {rest : Text} (tail : StringContents rest) : StringContents ('\\' :: c :: rest)

/-- A part of a line that holds whole strings and single characters, none of which opens a comment;
`behind` is the rest of the line. -/
inductive CodeItems (behind : Text) : Text → Prop
  | nil : CodeItems behind []
  | char {c : Char} {rest : Text} (quote : c ≠ '"')
      (opens : ¬['/', '/'] <+: c :: (rest ++ behind)) (tail : CodeItems behind rest) :
      CodeItems behind (c :: rest)
  | string {contents rest : Text} (inside : StringContents contents)
      (tail : CodeItems behind rest) : CodeItems behind ('"' :: contents ++ '"' :: rest)

theorem Mode.step_escape {c : Char} (h : c ≠ '\n') (next : Option Char) :
    Mode.escape.step c next = (.string, .string) := by
  simp [Mode.step, h]

/-- Inside of a string nothing depends on the next character, so contents may be cut off
anywhere. -/
theorem StringContents.read {contents : Text} (h : StringContents contents)
    (hfeed : '\n' ∉ contents) (rest : Text) :
    cellsFrom .string (contents ++ rest) = stringCells contents ++ cellsFrom .string rest ∧
      Source.modeAfter .string (contents ++ rest) = Source.modeAfter .string rest := by
  induction h with
  | nil => exact ⟨rfl, rfl⟩
  | char quote escape tail ih =>
      rw [List.mem_cons, not_or] at hfeed
      obtain ⟨hcells, hmode⟩ := ih hfeed.2
      rw [List.cons_append, cellsFrom_cons, modeAfter_cons,
        Mode.step_string ⟨quote, escape, Ne.symm hfeed.1⟩, hcells]
      exact ⟨rfl, hmode⟩
  | @pair c contents tail ih =>
      simp only [List.mem_cons, not_or] at hfeed
      obtain ⟨hcells, hmode⟩ := ih hfeed.2.2
      have hescape : Mode.string.step '\\' (some c) = (.string, .escape) := rfl
      rw [List.cons_append, List.cons_append, cellsFrom_cons, modeAfter_cons, List.head?_cons,
        hescape, cellsFrom_cons, modeAfter_cons, Mode.step_escape (Ne.symm hfeed.2.1), hcells]
      exact ⟨rfl, hmode⟩

theorem StringContents.modeAfter {contents : Text} (h : StringContents contents)
    (hfeed : '\n' ∉ contents) (rest : Text) :
    Source.modeAfter .string (contents ++ '"' :: rest) = Source.modeAfter .code rest :=
  (h.read hfeed ('"' :: rest)).2

theorem Literal.stringContents {text : Text} (h : Literal text) : StringContents text := by
  induction text with
  | nil => exact .nil
  | cons c rest ih =>
      obtain ⟨hquote, hbackslash, -⟩ := h c List.mem_cons_self
      exact .char hquote hbackslash (ih fun d hd => h d (List.mem_cons_of_mem c hd))

theorem Joins.of_cons {c : Char} {rest behind : Text} (h : Joins (c :: rest) behind) :
    Joins rest behind := by
  cases rest with
  | nil => exact .of_last (by simp) behind
  | cons d rest => exact h.tail

theorem opens_iff {c : Char} {rest behind : Text} :
    ['/', '/'] <+: c :: (rest ++ behind) ↔ c = '/' ∧ (rest ++ behind).head? = some '/' := by
  rw [List.cons_prefix_cons, eq_comm, List.head?_eq_some_iff]
  exact and_congr_right fun _ => ⟨fun ⟨tail, h⟩ => ⟨tail, h.symm⟩, fun ⟨tail, h⟩ => ⟨tail, h.symm⟩⟩

theorem CodeItems.closed {behind front : Text} (h : CodeItems behind front)
    (hfeed : '\n' ∉ front) : modeAfter .code front = .code ∧ Joins front behind := by
  induction h with
  | nil => exact ⟨rfl, .of_last (by simp) behind⟩
  | @char c rest quote opens tail ih =>
      rw [List.mem_cons, not_or] at hfeed
      rw [opens_iff, not_and] at opens
      obtain ⟨hmode, hjoins⟩ := ih hfeed.2
      cases rest with
      | nil =>
          rw [modeAfter_cons, Mode.step_code quote (by simp)]
          exact ⟨rfl, fun hlast => opens (by simpa using hlast)⟩
      | cons d rest =>
          have hstep : Mode.code.step c (some d) = (.code, .code) := Mode.step_code quote opens
          rw [modeAfter_cons, List.head?_cons, hstep, Joins, List.getLast?_cons_cons]
          exact ⟨hmode, hjoins⟩
  | @string contents rest inside tail ih =>
      simp only [List.cons_append, List.mem_cons, List.mem_append, not_or] at hfeed
      obtain ⟨hmode, hjoins⟩ := ih hfeed.2.2.2
      refine ⟨(inside.modeAfter hfeed.2.1 rest).trans hmode, ?_⟩
      cases rest with
      | nil => exact .concat ('"' :: contents) (by decide) behind
      | cons d rest =>
          rw [Joins, List.getLast?_append_of_ne_nil _ (List.cons_ne_nil _ _),
            List.getLast?_cons_cons]
          exact hjoins

/-- What reading some text from a mode has to find for the reader to end up in code. -/
def Mode.Completes (behind text : Text) : Mode → Prop
  | .code => CodeItems behind text
  | .string => ∃ contents rest, text = contents ++ '"' :: rest ∧ StringContents contents ∧
      CodeItems behind rest
  | .escape => ∃ c contents rest, text = c :: contents ++ '"' :: rest ∧ StringContents contents ∧
      CodeItems behind rest
  | .comment => False

theorem completes_of_modeAfter {mode : Mode} {behind text : Text} (hfeed : '\n' ∉ text)
    (hjoins : Joins text behind) (h : modeAfter mode text = .code) :
    mode.Completes behind text := by
  induction text generalizing mode with
  | nil =>
      obtain rfl : mode = .code := h
      exact .nil
  | cons c rest ih =>
      rw [List.mem_cons, not_or] at hfeed
      have hc : c ≠ '\n' := Ne.symm hfeed.1
      have hrest := ih hfeed.2 hjoins.of_cons h
      cases mode with
      | comment =>
          rw [Mode.step_comment hc] at hrest
          exact hrest
      | escape =>
          rw [Mode.step_escape hc] at hrest
          obtain ⟨contents, later, rfl, hinside, hlater⟩ := hrest
          exact ⟨c, contents, later, rfl, hinside, hlater⟩
      | string =>
          by_cases hquote : c = '"'
          · subst hquote
            exact ⟨[], rest, rfl, .nil, hrest⟩
          by_cases hescape : c = '\\'
          · subst hescape
            obtain ⟨d, contents, later, rfl, hinside, hlater⟩ := hrest
            exact ⟨'\\' :: d :: contents, later, rfl, .pair hinside, hlater⟩
          rw [Mode.step_string ⟨hquote, hescape, hc⟩] at hrest
          obtain ⟨contents, later, rfl, hinside, hlater⟩ := hrest
          exact ⟨c :: contents, later, rfl, .char hquote hescape hinside, hlater⟩
      | code =>
          by_cases hquote : c = '"'
          · subst hquote
            obtain ⟨contents, later, rfl, hinside, hlater⟩ := hrest
            exact .string hinside hlater
          have hslash : c = '/' → rest.head? ≠ some '/' := by
            rintro rfl hnext
            rw [hnext] at hrest
            exact hrest
          rw [Mode.step_code hquote hslash] at hrest
          refine .char hquote ?_ hrest
          rw [opens_iff]
          rintro ⟨rfl, hnext⟩
          cases rest with
          | nil => exact hjoins rfl hnext
          | cons d rest => exact hslash rfl hnext

/-- A part of a line is code to its end, also with a view to what is behind it. -/
theorem codeItems_iff {behind front : Text} (hfeed : '\n' ∉ front) :
    CodeItems behind front ↔ modeAfter .code front = .code ∧ Joins front behind :=
  ⟨fun h => h.closed hfeed, fun h => completes_of_modeAfter hfeed h.2 h.1⟩

end SchemaCase.Source
