import SchemaCase.Layout.Schema
import SchemaCase.Proofs.Schema.Lines
import SchemaCase.Proofs.Source.Ink

namespace SchemaCase.Layout

open Source

/-- A line that can be read back whichever terminator follows it. -/
structure IsShown (line : Text) : Prop where
  oneLine : '\n' ∉ line
  carriageReturn : line.getLast? ≠ some '\r'

theorem isShown_nil : IsShown [] :=
  ⟨by simp, by simp⟩

theorem isShown_of_getLast? {line : Text} (hfeed : '\n' ∉ line)
    (h : ∀ c ∈ line.getLast?, Text.isBlank c = false) : IsShown line := by
  refine ⟨hfeed, fun hreturn => ?_⟩
  have hblank := h '\r' hreturn
  revert hblank
  decide

def IsTerminator (terminator : Text) : Prop :=
  terminator = ['\n'] ∨ terminator = ['\r', '\n']

theorem isTerminator_lineTerminator (text : Text) : IsTerminator (lineTerminator text) := by
  unfold lineTerminator
  split
  · exact .inr rfl
  · exact .inl rfl

theorem IsTerminator.exists_returns {terminator : Text} (h : IsTerminator terminator) :
    ∃ returns, terminator = returns ++ ['\n'] ∧ '\n' ∉ returns ∧ ∀ c ∈ returns, Text.isBlank c := by
  rcases h with rfl | rfl
  · exact ⟨[], rfl, by simp, by simp⟩
  · refine ⟨['\r'], rfl, by decide, ?_⟩
    intro c hc
    rw [List.mem_singleton.mp hc]
    decide

def linesText (terminator : Text) (lines : List Text) : Text :=
  lines.flatMap (· ++ terminator)

theorem linesText_cons (terminator line : Text) (lines : List Text) :
    linesText terminator (line :: lines) = line ++ terminator ++ linesText terminator lines :=
  List.flatMap_cons

theorem linesText_append (terminator : Text) (front back : List Text) :
    linesText terminator (front ++ back) =
      linesText terminator front ++ linesText terminator back :=
  List.flatMap_append

theorem linesText_eq_concat {terminator : Text} (h : IsTerminator terminator) {lines : List Text}
    (hlines : lines ≠ []) : ∃ front, linesText terminator lines = front ++ ['\n'] := by
  obtain ⟨returns, rfl, -, -⟩ := h.exists_returns
  obtain ⟨front, last, rfl⟩ := (List.eq_nil_or_concat lines).resolve_left hlines
  rw [List.concat_eq_append, linesText_append, linesText_cons]
  exact ⟨linesText (returns ++ ['\n']) front ++ (last ++ returns), by simp [linesText]⟩

theorem modeAfter_linesText {terminator : Text} (h : IsTerminator terminator) {lines : List Text}
    (hlines : lines ≠ []) : modeAfter .code (linesText terminator lines) = .code := by
  obtain ⟨front, hfront⟩ := linesText_eq_concat h hlines
  rw [hfront, modeAfter_append_lineFeed]
  rfl

theorem split_linesText {returns : Text} (hreturns : '\n' ∉ returns) {lines : List Text}
    (h : ∀ line ∈ lines, '\n' ∉ line) (back : Text) :
    Text.split '\n' (linesText (returns ++ ['\n']) lines ++ back) =
      lines.map (· ++ returns) ++ Text.split '\n' back := by
  induction lines with
  | nil => rfl
  | cons line lines ih =>
      rw [List.forall_mem_cons] at h
      have hspread : linesText (returns ++ ['\n']) (line :: lines) ++ back =
          (line ++ returns) ++ '\n' :: (linesText (returns ++ ['\n']) lines ++ back) := by
        simp [linesText_cons]
      have hline : '\n' ∉ line ++ returns := by simp [h.1, hreturns]
      rw [hspread, Text.split_append hline, ih h.2]
      rfl

theorem ofTerminated_text {line returns : Text} (hline : IsShown line)
    (h : returns = [] ∨ returns = ['\r']) : (Line.ofTerminated (line ++ returns)).text = line := by
  rcases h with rfl | rfl
  · rw [List.append_nil, Line.ofTerminated, if_neg hline.carriageReturn]
  · rw [Line.ofTerminated, if_pos (by simp), List.dropLast_concat]

theorem ofBody_linesText {terminator : Text} (h : IsTerminator terminator) {lines : List Text}
    (hlines : ∀ line ∈ lines, IsShown line) {last : Text} (hlast : '\n' ∉ last) :
    (Line.ofBody (linesText terminator lines ++ last)).map (·.text) = lines ++ [last] := by
  obtain ⟨returns, rfl, hreturns⟩ : ∃ returns, terminator = returns ++ ['\n'] ∧
      (returns = [] ∨ returns = ['\r']) := by
    rcases h with rfl | rfl
    · exact ⟨[], rfl, .inl rfl⟩
    · exact ⟨['\r'], rfl, .inr rfl⟩
  have hfeed : '\n' ∉ returns := by
    rcases hreturns with rfl | rfl <;> simp
  induction lines with
  | nil => exact congrArg (List.map _) (Line.ofBody_of_not_mem hlast)
  | cons line lines ih =>
      rw [List.forall_mem_cons] at hlines
      have hspread : linesText (returns ++ ['\n']) (line :: lines) ++ last =
          (line ++ returns) ++ '\n' :: (linesText (returns ++ ['\n']) lines ++ last) := by
        simp [linesText_cons]
      have hline : '\n' ∉ line ++ returns := by simp [hlines.1.oneLine, hfeed]
      rw [hspread, Line.ofBody_append hline, List.map_cons, ih hlines.2,
        ofTerminated_text hlines.1 hreturns]
      rfl

theorem lineFeed_not_mem_split (text : Text) : ∀ piece ∈ Text.split '\n' text, '\n' ∉ piece := by
  induction text using Line.body_induction with
  | last text h =>
      rw [Text.split_of_not_mem h]
      simpa using h
  | line front back hfront ih =>
      rw [Text.split_append hfront, List.forall_mem_cons]
      exact ⟨hfront, ih⟩

/-- What a text says is what its lines say one after the other, and blanks at either end of a line
say nothing. -/
structure Linewise {β : Type} (f : Text → List β) : Prop where
  nil : f [] = []
  blanks_append : ∀ {blanks : Text}, (∀ c ∈ blanks, Text.isBlank c) →
    ∀ text, f (blanks ++ text) = f text
  append_blanks : ∀ (text : Text) {blanks : Text}, (∀ c ∈ blanks, Text.isBlank c) →
    f (text ++ blanks) = f text
  lineFeed : ∀ front back, f (front ++ '\n' :: back) = f front ++ f back

theorem linewise_ink : Linewise ink :=
  ⟨rfl, ink_blanks_append, ink_append_blanks, ink_lineFeed⟩

namespace Linewise

variable {β : Type} {f : Text → List β} (hf : Linewise f)

include hf

theorem trimEnd (text : Text) : f (Text.trimEnd text) = f text := by
  have h := hf.append_blanks (Text.trimEnd text)
    (Text.isBlank_trailingBlanks text)
  rw [Text.trimEnd_append_trailingBlanks] at h
  exact h.symm

theorem trim (text : Text) : f (Text.trim text) = f text := by
  have h := hf.blanks_append
    (Text.isBlank_leadingBlanks text) (Text.trimStart text)
  rw [Text.leadingBlanks_append_trimStart] at h
  rw [Text.trim, hf.trimEnd, h]

theorem linesText {terminator : Text} (h : IsTerminator terminator) (lines : List Text) :
    f (linesText terminator lines) = lines.flatMap f := by
  obtain ⟨returns, rfl, -, hblanks⟩ := h.exists_returns
  induction lines with
  | nil => exact hf.nil
  | cons line lines ih =>
      have hspread : Layout.linesText (returns ++ ['\n']) (line :: lines) =
          (line ++ returns) ++ '\n' :: Layout.linesText (returns ++ ['\n']) lines := by
        simp [linesText_cons]
      rw [hspread, hf.lineFeed, ih, hf.append_blanks _ hblanks, List.flatMap_cons]

theorem split (text : Text) : (Text.split '\n' text).flatMap f = f text := by
  induction text using Line.body_induction with
  | last text h =>
      rw [Text.split_of_not_mem h]
      simp
  | line front back hfront ih => rw [Text.split_append hfront, List.flatMap_cons, ih, hf.lineFeed]

theorem ofTerminated (piece : Text) : f (Line.ofTerminated piece).text = f piece := by
  unfold Line.ofTerminated
  split
  · next hlast =>
      obtain ⟨front, rfl⟩ := List.getLast?_eq_some_iff.mp hlast
      have hreturn : ∀ c ∈ ['\r'], Text.isBlank c := List.all_eq_true.mp (by decide)
      rw [List.dropLast_concat, hf.append_blanks _ hreturn]
  · rfl

theorem ofBody (body : Text) : ((Line.ofBody body).map (·.text)).flatMap f = f body := by
  induction body using Line.body_induction with
  | last text h =>
      rw [Line.ofBody_of_not_mem h]
      simp
  | line front back hfront ih =>
      rw [Line.ofBody_append hfront, List.map_cons, List.flatMap_cons, ih, hf.ofTerminated,
        hf.lineFeed]

end Linewise

theorem hasCarriageReturns_line {line : Text} (h : IsShown line) (rest : Text) :
    hasCarriageReturns (line ++ '\n' :: rest) = hasCarriageReturns rest := by
  induction line with
  | nil => rfl
  | cons c line ih =>
      have hfeed := h.oneLine
      rw [List.mem_cons, not_or] at hfeed
      cases line with
      | nil =>
          have hc : c ≠ '\r' := by
            rintro rfl
            exact h.carriageReturn rfl
          rw [List.cons_append, hasCarriageReturns]
          · exact ih isShown_nil
          · intro tail hreturn
            exact fun _ => hc hreturn
      | cons d line =>
          have hlast := h.carriageReturn
          rw [List.getLast?_cons_cons] at hlast
          rw [List.cons_append, hasCarriageReturns]
          · exact ih ⟨hfeed.2, hlast⟩
          · rintro tail - ⟨⟩
            exact hfeed.2 List.mem_cons_self

theorem hasCarriageReturns_pair (front rest : Text) :
    hasCarriageReturns (front ++ '\r' :: '\n' :: rest) = true := by
  induction front with
  | nil => rfl
  | cons c front ih =>
      rw [List.cons_append]
      unfold hasCarriageReturns
      split
      · rfl
      · next htail =>
          rw [← (List.cons.inj htail).2]
          exact ih
      · next hnil => cases hnil

theorem hasCarriageReturns_linesText {lines : List Text} (h : ∀ line ∈ lines, IsShown line) :
    hasCarriageReturns (linesText ['\n'] lines) = false := by
  induction lines with
  | nil => rfl
  | cons line lines ih =>
      rw [List.forall_mem_cons] at h
      rw [linesText_cons, List.append_assoc, List.singleton_append, hasCarriageReturns_line h.1,
        ih h.2]

theorem lineTerminator_linesText {terminator : Text} (h : IsTerminator terminator)
    {lines : List Text} (hlines : ∀ line ∈ lines, IsShown line) (hne : lines ≠ []) :
    lineTerminator (linesText terminator lines) = terminator := by
  rcases h with rfl | rfl
  · rw [lineTerminator, hasCarriageReturns_linesText hlines]
    rfl
  · obtain ⟨line, lines, rfl⟩ := List.exists_cons_of_ne_nil hne
    have hspread : linesText ['\r', '\n'] (line :: lines) =
        line ++ '\r' :: '\n' :: linesText ['\r', '\n'] lines := by
      simp [linesText_cons]
    rw [lineTerminator, hspread, hasCarriageReturns_pair]
    rfl

end SchemaCase.Layout
