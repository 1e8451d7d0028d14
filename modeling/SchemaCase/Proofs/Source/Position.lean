import Mathlib.Data.List.TakeWhile
import SchemaCase.Proofs.Schema.Lines
import SchemaCase.Source.Position

/-! Lines and columns, counted on the lines of a text. Each offset has a place of its own, from
which it can be counted back, and places are in the order of offsets. -/

namespace SchemaCase

namespace Text

theorem length_split (separator : Char) (text : Text) :
    (split separator text).length = text.count separator + 1 := by
  induction text with
  | nil => rfl
  | cons c rest ih =>
      unfold split at ih ⊢
      by_cases hc : c = separator
      · rw [splitWhere_cons_separator (by simp [hc]), List.length_cons, ih, hc,
          List.count_cons_self]
      · obtain ⟨piece, pieces, hrest⟩ := exists_splitWhere (· == separator) rest
        rw [hrest] at ih
        rw [splitWhere_cons_other (by simpa using hc) hrest, List.count_cons_of_ne hc, ← ih]
        rfl

theorem split_append_of_not_mem {separator : Char} {front back piece : Text} {pieces : List Text}
    (h : separator ∉ front) (hback : split separator back = piece :: pieces) :
    split separator (front ++ back) = (front ++ piece) :: pieces := by
  induction front with
  | nil => exact hback
  | cons c front ih =>
      rw [List.mem_cons, not_or] at h
      exact splitWhere_cons_other (beq_false_of_ne (Ne.symm h.1)) (ih h.2)

end Text

namespace Source

theorem lastLine_of_not_mem {text : Text} (h : '\n' ∉ text) : lastLine text = text := by
  have hrun : ∀ c ∈ text.reverse, (c != '\n') = true := by
    intro c hc
    rw [bne_iff_ne]
    exact ne_of_mem_of_not_mem (List.mem_reverse.mp hc) h
  rw [lastLine, List.takeWhile_eq_self_iff.mpr hrun, List.reverse_reverse]

theorem lastLine_lineFeed (front back : Text) :
    lastLine (front ++ '\n' :: back) = lastLine back := by
  have hstop : ('\n' :: front.reverse).takeWhile (· != '\n') = [] :=
    List.takeWhile_cons_of_neg (by simp)
  have hreverse : (front ++ '\n' :: back).reverse = back.reverse ++ '\n' :: front.reverse := by
    simp
  rw [lastLine, hreverse, List.takeWhile_append, hstop, List.append_nil, lastLine]
  split
  · next hlength =>
      rw [(List.takeWhile_prefix _).eq_of_length hlength]
  · rfl

theorem getLast?_split (text : Text) : (Text.split '\n' text).getLast? = some (lastLine text) := by
  induction text using Line.body_induction with
  | last text h =>
      rw [Text.split_of_not_mem h, lastLine_of_not_mem h]
      rfl
  | line front back hfront ih =>
      obtain ⟨piece, pieces, hback⟩ : ∃ piece pieces, Text.split '\n' back = piece :: pieces :=
        Text.exists_splitWhere _ back
      rw [Text.split_append hfront, hback, List.getLast?_cons_cons, ← hback, ih,
        lastLine_lineFeed]

/-- The place behind `front`: on its last line, behind what stands there. -/
theorem positionAt_append (front back : Text) :
    positionAt (front ++ back) front.length =
      ⟨(Text.split '\n' front).length, ((Text.split '\n' front).getLast?.getD []).length + 1⟩ := by
  rw [Text.length_split, getLast?_split]
  simp [positionAt]

theorem positionAt_extend {text : Text} {offset : Nat} (h : offset ≤ text.length) (more : Text) :
    positionAt (text ++ more) offset = positionAt text offset := by
  simp only [positionAt, List.take_append_of_le_length h]

/-- All that is in front of a line: the lines in front of it and their line feeds. Lines are counted
from zero here. -/
def lineStart (pieces : List Text) (line : Nat) : Nat :=
  ((pieces.take line).flatMap (· ++ ['\n'])).length

theorem lineStart_append (front back : List Text) :
    lineStart (front ++ back) front.length = (front.flatMap (· ++ ['\n'])).length := by
  rw [lineStart, List.take_left]

theorem lineStart_succ {pieces : List Text} {line : Nat} {piece : Text}
    (h : pieces[line]? = some piece) :
    lineStart pieces (line + 1) = lineStart pieces line + (piece.length + 1) := by
  rw [lineStart, lineStart, List.take_add_one, h, List.flatMap_append, List.length_append]
  simp

theorem lineStart_mono (pieces : List Text) {line other : Nat} (h : line ≤ other) :
    lineStart pieces line ≤ lineStart pieces other := by
  obtain ⟨more, rfl⟩ := Nat.exists_eq_add_of_le h
  rw [lineStart, lineStart, List.take_add, List.flatMap_append, List.length_append]
  exact Nat.le_add_right _ _

/-- A text that is cut anywhere: the line with the cut is put together of both parts, and all other
lines are lines of one of them. -/
theorem exists_split_append (front back : Text) :
    ∃ lines piece pieces, Text.split '\n' front = lines ++ [lastLine front] ∧
      Text.split '\n' (front ++ back) = lines ++ (lastLine front ++ piece) :: pieces ∧
      front = lines.flatMap (· ++ ['\n']) ++ lastLine front := by
  induction front using Line.body_induction with
  | last text h =>
      obtain ⟨piece, pieces, hback⟩ : ∃ piece pieces, Text.split '\n' back = piece :: pieces :=
        Text.exists_splitWhere _ back
      refine ⟨[], piece, pieces, ?_⟩
      rw [Text.split_of_not_mem h, lastLine_of_not_mem h, Text.split_append_of_not_mem h hback]
      simp
  | line front rest hfront ih =>
      obtain ⟨lines, piece, pieces, hrest, hwhole, hrestText⟩ := ih
      refine ⟨front :: lines, piece, pieces, ?_, ?_, ?_⟩
      · rw [Text.split_append hfront, lastLine_lineFeed, hrest]
        rfl
      · rw [List.append_assoc, List.cons_append, Text.split_append hfront, lastLine_lineFeed,
          hwhole]
        rfl
      · rw [lastLine_lineFeed, List.flatMap_cons, List.append_assoc, ← hrestText]
        simp

/-- The place of an offset: on a line of the text, not behind its end, and as far behind the start
of the text as the offset says. -/
structure Position.Marks (position : Position) (text : Text) (offset : Nat) : Prop where
  line_pos : 0 < position.line
  column_pos : 0 < position.column
  onLine : ∃ piece, (Text.split '\n' text)[position.line - 1]? = some piece ∧
    position.column - 1 ≤ piece.length
  offset_eq : lineStart (Text.split '\n' text) (position.line - 1) + (position.column - 1) = offset

def Position.Precedes (position other : Position) : Prop :=
  position.line < other.line ∨ position.line = other.line ∧ position.column < other.column

/-- The places of a text are in the order of their offsets. -/
theorem Position.Marks.precedes {text : Text} {position other : Position} {offset otherOffset : Nat}
    (h : position.Marks text offset) (hother : other.Marks text otherOffset)
    (hlt : offset < otherOffset) : position.Precedes other := by
  have hoffset := h.offset_eq
  have hotherOffset := hother.offset_eq
  have hcolumn := h.column_pos
  have hotherColumn := hother.column_pos
  rcases Nat.lt_trichotomy position.line other.line with hline | hline | hline
  · exact .inl hline
  · refine .inr ⟨hline, ?_⟩
    rw [hline] at hoffset
    omega
  · -- A later line starts behind all of an earlier one.
    obtain ⟨piece, hpiece, hinside⟩ := hother.onLine
    have hnext := lineStart_succ hpiece
    have hotherLine := hother.line_pos
    have hmono := lineStart_mono (Text.split '\n' text)
      (show other.line - 1 + 1 ≤ position.line - 1 by omega)
    omega

theorem marks_positionAt {text : Text} {offset : Nat} (h : offset ≤ text.length) :
    (positionAt text offset).Marks text offset := by
  obtain ⟨lines, piece, pieces, hfront, hwhole, hfrontText⟩ :=
    exists_split_append (text.take offset) (text.drop offset)
  have hlength := congrArg List.length hfrontText
  rw [List.length_append, List.length_take_of_le h] at hlength
  have hposition := positionAt_append (text.take offset) (text.drop offset)
  rw [List.length_take_of_le h] at hposition
  rw [List.take_append_drop] at hposition hwhole
  rw [hposition, hfront]
  constructor
  · simp
  · simp
  · rw [hwhole]
    exact ⟨lastLine (text.take offset) ++ piece, by simp, by simp⟩
  · simp only [List.length_append, List.length_singleton, Nat.add_sub_cancel, List.getLast?_append,
      List.getLast?_singleton, Option.some_or, Option.getD_some]
    rw [hwhole, lineStart_append, ← hlength]

/-- The place of an offset tells the offset, and places are in the order of their offsets. -/
theorem positionAt_identifies_offset (text : Text) :
    (∀ offset ≤ text.length, (positionAt text offset).Marks text offset) ∧
      ∀ offset other, offset < other → other ≤ text.length →
        (positionAt text offset).Precedes (positionAt text other) := by
  constructor
  · intro offset h
    exact marks_positionAt h
  · intro offset other hlt h
    exact (marks_positionAt (Nat.le_trans (Nat.le_of_lt hlt) h)).precedes (marks_positionAt h) hlt

/-- A line feed is the last place of its line, and the end of a text is a place as well. -/
theorem positionAt_identifies_offset_feeds :
    let text := "a\n\nbc".toList
    (5 ≤ text.length ∧ positionAt text 5 = ⟨3, 3⟩ ∧ (⟨3, 3⟩ : Position).Marks text 5) ∧
      positionAt text 1 = ⟨1, 2⟩ ∧ positionAt text 2 = ⟨2, 1⟩ ∧
      (⟨1, 2⟩ : Position).Precedes ⟨2, 1⟩ := by
  intro text
  obtain ⟨hmarks, hprecedes⟩ := positionAt_identifies_offset text
  exact ⟨⟨by decide, by decide, hmarks 5 (by decide)⟩, by decide, by decide,
    hprecedes 1 2 (by decide) (by decide)⟩

end Source

end SchemaCase
