import SchemaCase.Proofs.Source.Comment
import SchemaCase.Proofs.Source.Ink
import SchemaCase.Source.Position

/-! What a masked text tells of the text behind it: where its lines end, and its code wherever a
character other than a blank shows that a comment has not begun. -/

namespace SchemaCase.Source

@[simp] theorem length_mask (text : Text) : (mask text).length = text.length := by
  simp [mask, cells]

theorem mask_lineFeed (front back : Text) :
    mask (front ++ '\n' :: back) = mask front ++ '\n' :: mask back := by
  rw [mask, cells, cellsFrom_lineFeed, List.map_append, List.map_cons]
  rfl

theorem Plain.mask_append {front : Text} (h : Plain front) (back : Text) :
    mask (front ++ back) = front ++ mask back := by
  rw [mask, h.cells_append, List.map_append, map_visible_codeCells]
  rfl

theorem mask_cons (c : Char) (rest : Text) :
    ∃ shown, mask (c :: rest) = (if ['/', '/'] <+: c :: rest then ' ' else c) :: shown := by
  have hregion : (Mode.code.step c rest.head?).1 =
      if ['/', '/'] <+: c :: rest then .comment else .code := by
    by_cases hquote : c = '"'
    · subst hquote
      simp [Mode.step]
    · split
      · next hopens =>
          obtain ⟨tail, htail⟩ := hopens
          obtain ⟨rfl, rfl⟩ := List.cons.inj htail
          rfl
      · next hopens =>
          rw [Mode.step_code hquote]
          rintro rfl hnext
          obtain ⟨tail, rfl⟩ := List.head?_eq_some_iff.mp hnext
          exact hopens ⟨tail, rfl⟩
  refine ⟨(cellsFrom (Mode.code.step c rest.head?).2 rest).map Cell.visible, ?_⟩
  rw [mask, cells, cellsFrom_cons, List.map_cons, hregion]
  split <;> rfl

theorem region_lineFeed {mode : Mode} {text : Text} {cell : Cell} (h : cell ∈ cellsFrom mode text)
    (hfeed : cell.char = '\n') : cell.region = .code := by
  induction text generalizing mode with
  | nil => cases h
  | cons c rest ih =>
      rw [cellsFrom_cons] at h
      rcases List.mem_cons.mp h with rfl | h
      · obtain rfl : c = '\n' := hfeed
        rfl
      · exact ih h

theorem visible_eq_lineFeed_iff {mode : Mode} {text : Text} {cell : Cell}
    (h : cell ∈ cellsFrom mode text) : cell.visible = '\n' ↔ cell.char = '\n' := by
  rw [cell.visible_eq_iff (by decide)]
  exact ⟨And.right, fun hfeed => ⟨region_lineFeed h hfeed, hfeed⟩⟩

theorem map_isFeed_mask (text : Text) : (mask text).map (· == '\n') = text.map (· == '\n') := by
  have hshown : (cells text).map (fun cell => cell.visible == '\n') =
      (cells text).map (fun cell => cell.char == '\n') := by
    apply List.map_congr_left
    intro cell hcell
    rw [Bool.eq_iff_iff, beq_iff_eq, beq_iff_eq]
    exact visible_eq_lineFeed_iff hcell
  calc (mask text).map (· == '\n') = (cells text).map (fun cell => cell.visible == '\n') :=
        List.map_map
    _ = (cells text).map (fun cell => cell.char == '\n') := hshown
    _ = (textOf (cells text)).map (· == '\n') := by rw [textOf, List.map_map]; rfl
    _ = text.map (· == '\n') := by rw [textOf_cells]

/-- A place depends on nothing but where the lines end. -/
theorem positionAt_congr {text other : Text}
    (h : text.map (· == '\n') = other.map (· == '\n')) (offset : Nat) :
    positionAt text offset = positionAt other offset := by
  have htake : (text.take offset).map (· == '\n') = (other.take offset).map (· == '\n') := by
    rw [List.map_take, List.map_take, h]
  have hcount : ∀ part : Text, part.count '\n' = (part.map (· == '\n')).count true := by
    intro part
    rw [List.count, List.count, List.countP_map]
    congr 1
    funext c
    simp
  have hlast : ∀ part : Text, (lastLine part).length =
      ((part.map (· == '\n')).reverse.takeWhile (! ·)).length := by
    intro part
    rw [lastLine, List.length_reverse, ← List.map_reverse, List.takeWhile_map, List.length_map]
    rfl
  have hlength : (text.take offset).length = (other.take offset).length := by
    simpa using congrArg List.length htake
  simp only [positionAt, hcount, hlast, htake, hlength]

theorem positionAt_of_mask {text other : Text} (h : mask text = mask other) (offset : Nat) :
    positionAt text offset = positionAt other offset := by
  apply positionAt_congr
  rw [← map_isFeed_mask text, h, map_isFeed_mask]

theorem lineFeed_mem_mask (text : Text) : '\n' ∈ mask text ↔ '\n' ∈ text := by
  have hmem : ∀ part : Text, '\n' ∈ part ↔ true ∈ part.map (· == '\n') := by simp
  rw [hmem, map_isFeed_mask, ← hmem]

theorem exists_lineFeed_of_mask {text shown behind : Text}
    (h : mask text = shown ++ '\n' :: behind) :
    ∃ front back, text = front ++ '\n' :: back ∧ mask front = shown ∧ mask back = behind := by
  obtain ⟨frontCells, tail, hcells, hshown, htail⟩ := List.map_eq_append_iff.mp h
  obtain ⟨cell, backCells, rfl, hfeed, -⟩ := List.map_eq_cons_iff.mp htail
  have hmem : cell ∈ cells text := by simp [hcells]
  have hchar : cell.char = '\n' := (visible_eq_lineFeed_iff hmem).mp hfeed
  have htext : text = textOf frontCells ++ '\n' :: textOf backCells := by
    rw [← textOf_cells text, hcells, textOf_append, textOf_cons, hchar]
  refine ⟨_, _, htext, ?_⟩
  rw [htext, mask_lineFeed] at h
  have hlength : (mask (textOf frontCells)).length = shown.length := by simp [← hshown]
  obtain ⟨hfront, hback⟩ := List.append_inj h hlength
  exact ⟨hfront, (List.cons.inj hback).2⟩

/-- A character of the code shows that what stands in front of it on its line is no comment. -/
theorem exists_code_of_mask {text front shown : Text} {c : Char}
    (h : mask text = front ++ c :: shown) (hplain : Plain front) (hfront : '\n' ∉ front)
    (hc : Text.isBlank c = false) :
    ∃ back, text = front ++ c :: back ∧ mask (c :: back) = c :: shown := by
  have hblank : c ≠ ' ' := by
    rintro rfl
    cases hc
  obtain ⟨frontCells, tail, hcells, hvisible, htail⟩ := List.map_eq_append_iff.mp h
  obtain ⟨cell, backCells, rfl, hcell, -⟩ := List.map_eq_cons_iff.mp htail
  obtain ⟨hregion, hchar⟩ := (cell.visible_eq_iff hblank).mp hcell
  have hcode : ∀ other ∈ frontCells, other.region = .code := by
    refine region_code_of_visible hcells ?_ hregion ?_
    · intro other hother
      have hmem : other.visible ∈ front := hvisible ▸ List.mem_map_of_mem hother
      exact ⟨ne_of_mem_of_not_mem hmem hfront, (hplain _ hmem).1⟩
    · rw [hchar]
      rintro rfl
      cases hc
  have htext : text = front ++ c :: textOf backCells := by
    rw [← textOf_cells text, hcells, textOf_append, textOf_cons, hchar, ← hvisible,
      map_visible_eq_textOf hcode]
  refine ⟨_, htext, ?_⟩
  rw [htext, hplain.mask_append] at h
  exact List.append_cancel_left h

/-- A run of characters that are neither quotes nor slashes nor blanks is shown. -/
theorem takeWhile_mask {p : Char → Bool} (hquote : p '"' = false) (hslash : p '/' = false)
    (hblank : p ' ' = false) (text : Text) : (mask text).takeWhile p = text.takeWhile p := by
  induction text with
  | nil => rfl
  | cons c rest ih =>
      cases hc : p c with
      | true =>
          have hplain : Plain [c] := by
            intro d hd
            obtain rfl := List.mem_singleton.mp hd
            exact ⟨Text.ne_of_class hc hquote, Text.ne_of_class hc hslash⟩
          have hmask := hplain.mask_append rest
          rw [List.singleton_append, List.singleton_append] at hmask
          rw [hmask, List.takeWhile_cons_of_pos hc, List.takeWhile_cons_of_pos hc, ih]
      | false =>
          obtain ⟨shown, hmask⟩ := mask_cons c rest
          have hshown : p (if ['/', '/'] <+: c :: rest then ' ' else c) = false := by
            split
            · exact hblank
            · exact hc
          rw [hmask, List.takeWhile_cons_of_neg (by rw [hshown]; simp),
            List.takeWhile_cons_of_neg (by simp [hc])]

end SchemaCase.Source

namespace SchemaCase

/-! Lines that show the same code. What stands in front of the end of a line is shown as a blank if
it belongs to a comment. -/

open Source

def SameCode (text other : Text) : Prop :=
  Text.trimEnd (mask text) = Text.trimEnd (mask other)

theorem SameCode.symm {text other : Text} (h : SameCode text other) : SameCode other text :=
  Eq.symm h

theorem SameCode.code {front back other : Text} {c : Char}
    (h : SameCode (front ++ c :: back) other) (hplain : Plain front) (hfeed : '\n' ∉ front)
    (hc : Text.isBlank c = false) (hopens : ¬['/', '/'] <+: c :: back) :
    ∃ behind, other = front ++ c :: behind ∧ ¬['/', '/'] <+: c :: behind ∧
      SameCode (c :: back) (c :: behind) := by
  obtain ⟨shown, hshown⟩ := mask_cons c back
  rw [if_neg hopens] at hshown
  have htail := Text.trimEnd_cons hc shown
  have htrimmed : Text.trimEnd (mask other) = front ++ c :: Text.trimEnd shown := by
    rw [← h, hplain.mask_append, hshown, Text.trimEnd_append _ (by simp [htail]), htail]
  have hother : mask other =
      front ++ c :: (Text.trimEnd shown ++ Text.trailingBlanks (mask other)) := by
    conv_lhs => rw [← Text.trimEnd_append_trailingBlanks (mask other), htrimmed]
    simp
  obtain ⟨behind, rfl, hbehind⟩ := exists_code_of_mask hother hplain hfeed hc
  refine ⟨behind, rfl, ?_, ?_⟩
  · intro hcomment
    obtain ⟨rest, hrest⟩ := mask_cons c behind
    rw [if_pos hcomment, hbehind] at hrest
    obtain ⟨rfl, -⟩ := List.cons.inj hrest
    cases hc
  · rw [SameCode, hshown, hbehind, htail, Text.trimEnd_cons hc,
      Text.trimEnd_append_blanks (Text.isBlank_trailingBlanks _),
      Text.trimEnd_trimEnd]

end SchemaCase
