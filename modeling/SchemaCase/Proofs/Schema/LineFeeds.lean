import SchemaCase.Proofs.Schema.Header
import SchemaCase.Proofs.Schema.Lines

/-! Texts with a carriage return in front of every line feed. Whether a text is one can be told line
by line, from the terminators. -/

namespace SchemaCase

namespace Text

/-- Every line feed stands right behind a carriage return. -/
def PairedFeeds (text : Text) : Prop :=
  ∀ front back, text = front ++ '\n' :: back → front.getLast? = some '\r'

def pairedFrom (last : Option Char) : Text → Bool
  | [] => true
  | c :: rest => (c != '\n' || last == some '\r') && pairedFrom (some c) rest

theorem pairedFrom_iff {last : Option Char} {text : Text} :
    pairedFrom last text ↔
      ∀ front back, text = front ++ '\n' :: back → front.getLast?.or last = some '\r' := by
  induction text generalizing last with
  | nil => simp [pairedFrom]
  | cons c rest ih =>
      rw [pairedFrom, Bool.and_eq_true, ih]
      constructor
      · rintro ⟨hfirst, hrest⟩ front back htext
        cases front with
        | nil =>
            obtain ⟨rfl, -⟩ := List.cons.inj htext
            simpa using hfirst
        | cons d front =>
            obtain ⟨rfl, hback⟩ := List.cons.inj htext
            simpa [List.getLast?_cons] using hrest front back hback
      · intro h
        refine ⟨?_, fun front back hrest => ?_⟩
        · by_cases hc : c = '\n'
          · simpa [hc] using h [] rest (by rw [hc]; rfl)
          · simp [hc]
        · simpa [List.getLast?_cons] using h (c :: front) back (by rw [hrest]; rfl)

theorem pairedFeeds_iff (text : Text) : PairedFeeds text ↔ pairedFrom none text := by
  simp only [pairedFrom_iff, Option.or_none, PairedFeeds]

instance decidablePairedFeeds : DecidablePred PairedFeeds :=
  fun text => decidable_of_iff _ (pairedFeeds_iff text).symm

theorem pairedFrom_append (last : Option Char) (front back : Text) :
    pairedFrom last (front ++ back) =
      (pairedFrom last front && pairedFrom (front.getLast?.or last) back) := by
  induction front generalizing last with
  | nil => simp [pairedFrom]
  | cons c front ih =>
      have hlast : (c :: front).getLast?.or last = front.getLast?.or (some c) := by
        cases hfront : front.getLast? <;> simp [List.getLast?_cons, hfront]
      rw [List.cons_append, pairedFrom, pairedFrom, ih, hlast, Bool.and_assoc]

theorem pairedFrom_of_not_mem (last : Option Char) {text : Text} (h : '\n' ∉ text) :
    pairedFrom last text := by
  rw [pairedFrom_iff]
  rintro front back rfl
  exact absurd (List.mem_append_right _ List.mem_cons_self) h

end Text

namespace Line

theorem IsTerminated.getLast?_render {line : Line} (h : line.IsTerminated) :
    line.render.getLast? = some '\n' := by
  rcases h.terminator with ⟨hend, -⟩ | hend <;> simp [render, hend]

theorem IsTerminated.pairedFrom_render {line : Line} (h : line.IsTerminated) {last : Option Char}
    (hlast : last ≠ some '\r') :
    Text.pairedFrom last line.render ↔ line.terminator ≠ ['\n'] := by
  rw [render, Text.pairedFrom_append, Text.pairedFrom_of_not_mem last h.text, Bool.true_and]
  rcases h.terminator with ⟨hend, hreturn⟩ | hend
  · cases htext : line.text.getLast? with
    | none => simp [hend, Text.pairedFrom, hlast]
    | some c =>
        rw [htext] at hreturn
        simpa [hend, Text.pairedFrom] using hreturn
  · simp [hend, Text.pairedFrom]

/-- In a body whose first character does not complete a pair, only a lone line feed at the end of a
line is unpaired. -/
theorem IsBody.pairedFrom_render {lines : List Line} (h : IsBody lines) {last : Option Char}
    (hlast : last ≠ some '\r') :
    Text.pairedFrom last (lines.flatMap render) ↔ ∀ line ∈ lines, line.terminator ≠ ['\n'] := by
  induction lines generalizing last with
  | nil => exact h.elim
  | cons line rest ih =>
      by_cases hrest : rest = []
      · subst hrest
        simp [render, h.2, Text.pairedFrom_of_not_mem last h.1]
      · obtain ⟨hline, hbody⟩ := (isBody_cons hrest).mp h
        have hnext : line.render.getLast?.or last ≠ some '\r' := by
          rw [hline.getLast?_render, Option.some_or]
          decide
        rw [List.flatMap_cons, Text.pairedFrom_append, Bool.and_eq_true,
          hline.pairedFrom_render hlast, ih hbody hnext, List.forall_mem_cons]

theorem IsBody.lineFeed_mem_render {lines : List Line} (h : IsBody lines) :
    '\n' ∈ lines.flatMap render ↔ ∃ line ∈ lines, line.terminator ≠ [] := by
  rw [List.mem_flatMap]
  refine exists_congr fun line => and_congr_right fun hline => ?_
  have htext := h.oneLine line hline
  rcases h.terminator line hline with hend | hend | hend <;> simp [render, hend, htext]

end Line

theorem Header.WellFormed.lineFeed_not_mem {header : Header} (h : header.WellFormed) :
    '\n' ∉ header.render :=
  h.not_mem_render (by decide) (by decide +kernel) (by decide)

/-- Before and behind its body a block has no line feeds. -/
theorem Block.pairedFrom_render {block : Block} (hheader : block.toHeader.WellFormed)
    (hbody : Line.IsBody block.lines) (hclosing : block.closing = ['\x7d'])
    (last : Option Char) :
    Text.pairedFrom last block.render ↔ ∀ line ∈ block.lines, line.terminator ≠ ['\n'] := by
  have hbrace : block.header.getLast?.or last = some '\x7b' := by simp [header, Header.render]
  have hfront : Text.pairedFrom last block.header :=
    Text.pairedFrom_of_not_mem last hheader.lineFeed_not_mem
  rw [render, hclosing, Text.pairedFrom_append, Text.pairedFrom_append, hfront, hbrace,
    Bool.true_and, Bool.and_eq_true, body, hbody.pairedFrom_render (by decide)]
  simp [Text.pairedFrom]

end SchemaCase
