import SchemaCase.Proofs.Layout.Formatting

namespace SchemaCase.Layout

/-- A mark is split from a layout where it was split from the text. -/
theorem splitByteOrderMark_append {text content : Text} (h : byteOrderMark ∉ content) :
    splitByteOrderMark ((splitByteOrderMark text).1 ++ content) =
      ((splitByteOrderMark text).1, content) := by
  rcases splitByteOrderMark_cases text with ⟨rest, rfl, hsplit⟩ | ⟨-, hsplit⟩
  · rw [hsplit]
    rfl
  · rw [hsplit, List.nil_append]
    rcases splitByteOrderMark_cases content with ⟨rest, rfl, -⟩ | ⟨-, hnone⟩
    · exact absurd List.mem_cons_self h
    · exact hnone

theorem Outline.WellFormed.format_layout {outline : Outline} (h : outline.WellFormed)
    {mark terminator : Text} (hterminator : IsTerminator terminator)
    (hsplit : splitByteOrderMark (mark ++ linesText terminator outline.layout) =
      (mark, linesText terminator outline.layout)) :
    format (mark ++ linesText terminator outline.layout) =
      .ok (mark ++ linesText terminator outline.layout) := by
  have hparse := (h.arranged_settle hterminator).decomposition.parse_eq
  rw [outline.render_settle terminator] at hparse
  have hlines : linesText (lineTerminator (linesText terminator outline.layout)) outline.layout =
      linesText terminator outline.layout := by
    -- A layout without lines does not tell its terminator, and has no use for it.
    by_cases hnil : outline.layout = []
    · rw [hnil]
      rfl
    · rw [lineTerminator_linesText hterminator h.isShown_layout hnil]
  have hlayout : layoutLines (Piece.document (linesText terminator outline.layout)
      (outline.settle terminator).pieces) = outline.layout := by
    rw [layoutLines_pieces, outline.layout_settle hterminator]
  unfold format source
  rw [hsplit]
  dsimp only
  rw [hparse]
  refine congrArg (fun lines => Except.ok (mark ++ lines)) ?_
  rw [hlayout]
  exact hlines

/-- A second layout changes nothing. -/
theorem format_idempotent {text out : Text} (hmark : byteOrderMark ∉ text.tail)
    (h : format text = .ok out) : format out = .ok out := by
  obtain ⟨outline, houtline, -, htext, rfl⟩ := exists_outline_of_format h
  have hterminator := isTerminator_lineTerminator (splitByteOrderMark text).2
  have hcontent := byteOrderMark_not_mem hmark
  apply houtline.format_layout hterminator
  apply splitByteOrderMark_append
  intro hmem
  apply hcontent
  rw [htext]
  exact mem_of_nonblanks (houtline.nonblanks_layout hterminator) (by decide) hmem

theorem format_idempotent_marked :
    let text := byteOrderMark :: ("model  A\x7b id Int @id // k\n  longer  String?\n\n\n" ++
      " b \x7b  \x7d \x7d  // t\n\n  // x\ngenerator g \x7b\r\n a=1\n" ++
      " bcd  = \"\x7d\" \n\x7d").toList
    let out := byteOrderMark :: ("model A \x7b\r\n  id     Int     @id // k\r\n" ++
      "  longer String?\r\n\r\n  b \x7b \x7d\r\n\x7d // t\r\n\r\n// x\r\n" ++
      "generator g \x7b\r\n  a   = 1\r\n  bcd = \"\x7d\"\r\n\x7d\r\n").toList
    byteOrderMark ∉ text.tail ∧ format text = .ok out ∧ format out = .ok out := by
  intro text out
  have hmark : byteOrderMark ∉ text.tail := by decide +kernel
  have h : format text = .ok out := by decide +kernel
  exact ⟨hmark, h, format_idempotent hmark h⟩

end SchemaCase.Layout
