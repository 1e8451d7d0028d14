import SchemaCase.Proofs.Rename.BlockOperations
import SchemaCase.Proofs.Rename.DatabaseNames

/-! Recording a database name and reading it again. The call is written behind the code of a field
line, so no other call is found in front of it, and the comment of the line stays its comment. -/

namespace SchemaCase

open Source

theorem noComment_recordedArgument {name blanks : Text} (hname : Literal name)
    (hblanks : ∀ c ∈ blanks, Text.isBlank c) :
    NoComment .code (MapCall.recordedArgument name blanks) := by
  intro cell hcell
  rw [← cells, MapCall.cells_recordedArgument hname] at hcell
  simp only [List.mem_cons, List.mem_append] at hcell
  rcases hcell with rfl | hcell | rfl | rfl | hcell
  · decide
  · obtain ⟨c, -, rfl⟩ := List.mem_map.mp hcell
    simp
  · decide
  · decide
  · exact noComment_blanks (by decide) hblanks cell hcell

theorem noComment_mapCall {name blanks : Text} (hname : Literal name)
    (hblanks : ∀ c ∈ blanks, Text.isBlank c) :
    NoComment .code (' ' :: (mapCall name ++ blanks)) := by
  have hplain : Plain (' ' :: (['@', 'm', 'a', 'p'] ++ ['('])) := by decide
  rw [MapCall.mapCall_append]
  exact hplain.noComment_append (noComment_recordedArgument hname hblanks)

section

variable {rest code blanks comment name : Text} (h : CodeSplit rest code blanks comment)
  (hname : Literal name) (hcode : modeAfter .code code = .code)

include h hname hcode

theorem CodeSplit.codeAndComment_annotate :
    codeAndComment (annotate name rest) =
      (code ++ ' ' :: (mapCall name ++ commentGap blanks comment), comment) := by
  have hgap := isBlank_commentGap h.blanks comment
  have hjoins : Joins code (' ' :: (mapCall name ++ commentGap blanks comment)) :=
    .cons code (by decide) _
  have hwritten : NoComment .code (code ++ ' ' :: (mapCall name ++ commentGap blanks comment)) := by
    intro cell hcell
    rw [cellsFrom_append .code hjoins, hcode] at hcell
    rcases List.mem_append.mp hcell with hcell | hcell
    · exact h.noComment cell hcell
    · exact noComment_mapCall hname hgap cell hcell
  have hannotate : annotate name rest =
      code ++ ' ' :: (mapCall name ++ commentGap blanks comment) ++ comment := by
    simp [annotate_eq h]
  rw [hannotate]
  by_cases hempty : comment = []
  · rw [hempty] at hwritten ⊢
    rw [List.append_nil, hwritten.codeAndComment]
  · apply CommentSplit.codeAndComment
    have hopens := h.comment_opens.resolve_left hempty
    refine ⟨hopens, hwritten, ?_, ?_⟩
    · rw [modeAfter_append .code hjoins, hcode]
      exact (modeAfter_mapCall hname _).trans (plain_of_isBlank hgap).modeAfter
    · -- a blank stands in front of the comment, so the slashes stay two
      have hne : commentGap blanks comment ≠ [] := by
        unfold commentGap
        split
        · simp
        · next hblanks => exact fun hnil => hblanks ⟨hnil, hempty⟩
      obtain ⟨front, last, hlast⟩ := (List.eq_nil_or_concat _).resolve_left hne
      have hblank := hgap last (by simp [hlast])
      have hslash : last ≠ '/' := Text.ne_of_class hblank (by decide)
      have hend := Joins.concat (code ++ ' ' :: (mapCall name ++ front)) hslash comment
      rw [hlast]
      simpa using hend

theorem CodeSplit.inline?_annotate (hfeed : '\n' ∉ rest) (hnone : MapCall.inline? rest = none) :
    MapCall.inline? (annotate name rest) = some name := by
  obtain ⟨back, hcalls⟩ :=
    inlineCalls_annotate h hname hfeed hcode ((inline?_eq_none_iff rest).mp hnone)
  exact inline?_recorded hname hcalls

end

/-- Reading a field line again finds the name that was recorded in it, and nothing else has
changed. -/
theorem Line.classify_appendMap {line : Line} {original : Text} (hfeed : '\n' ∉ line.text)
    (hfield : line.classify.isField) (hnone : line.classify.mapLiteral = none)
    (hclosed : modeAfter .code (codeAndComment line.classify.rest).1 = .code)
    (horiginal : Literal original) (terminator : Text) :
    let old := line.classify
    let fresh : Line := Line.classify { text := (old.appendMap original).text, terminator }
    fresh.isField ∧ fresh.indent = old.indent ∧ fresh.fieldName = old.fieldName ∧
      fresh.gap = old.gap ∧ fresh.mapLiteral = some original ∧
      ∃ code blanks comment, CodeSplit old.rest code blanks comment ∧
        codeAndComment fresh.rest =
          (code ++ " @map(\"".toList ++ original ++ "\")".toList ++ commentGap blanks comment,
            comment) := by
  intro old fresh
  obtain ⟨parts, hparts, htext⟩ := exists_parts_of_isField hfeed hfield
  have hold : old = _ := classify_field hparts htext
  have hrest : line.classify.rest = parts.rest := congrArg Line.rest hold
  have hmap : MapCall.inline? parts.rest = none := (congrArg Line.mapLiteral hold).symm.trans hnone
  rw [hrest] at hclosed
  obtain ⟨code, blanks, comment, hsplit⟩ := exists_codeSplit parts.rest
  have hcode := hsplit.mode_of_closed hparts.rest_oneLine hclosed
  have hafter := hparts.annotate fun hmem => (horiginal '\n' hmem).2.2 rfl
  have hwritten : (old.appendMap original).text =
      { parts with rest := annotate original parts.rest }.text := by
    rw [hold, appendMap_eq]
    rfl
  have hfresh : fresh = _ := classify_field hafter hwritten
  rw [hfresh, hold]
  refine ⟨rfl, rfl, rfl, rfl, hsplit.inline?_annotate horiginal hcode hparts.rest_oneLine hmap,
    code, blanks, comment, hsplit, ?_⟩
  rw [hsplit.codeAndComment_annotate horiginal hcode]
  simp [mapCall_eq]

/-- Neither a call in a string or in the comment nor a sign without its argument is taken for the
recorded name, and its slashes open no comment. -/
theorem Line.classify_appendMap_crowded :
    let line : Line := { text := "\ta Json @default(\"@map(\") x@map @map// @map(\"b\")".toList }
    let original := "c//d".toList
    let old := line.classify
    let fresh : Line :=
      Line.classify { text := (old.appendMap original).text, terminator := "\r\n".toList }
    ('\n' ∉ line.text ∧ old.isField ∧ old.mapLiteral = none ∧
        modeAfter .code (codeAndComment old.rest).1 = .code ∧ Literal original) ∧
      fresh.isField ∧ fresh.indent = old.indent ∧ fresh.fieldName = old.fieldName ∧
      fresh.gap = old.gap ∧ fresh.mapLiteral = some original ∧
      ∃ code blanks comment, CodeSplit old.rest code blanks comment ∧
        codeAndComment fresh.rest =
          (code ++ " @map(\"".toList ++ original ++ "\")".toList ++ commentGap blanks comment,
            comment) := by
  intro line original old fresh
  have hfeed : '\n' ∉ line.text := by decide
  have hfield : old.isField := by decide +kernel
  have hnone : old.mapLiteral = none := by decide +kernel
  have hclosed : modeAfter .code (codeAndComment old.rest).1 = .code := by decide +kernel
  have horiginal : Literal original := by simp [Literal, original]
  exact ⟨⟨hfeed, hfield, hnone, hclosed, horiginal⟩,
    classify_appendMap hfeed hfield hnone hclosed horiginal "\r\n".toList⟩

end SchemaCase
