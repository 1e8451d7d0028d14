import SchemaCase.Proofs.Rename.Changes
import SchemaCase.Proofs.Schema.MapCalls
import SchemaCase.Proofs.Source.Ink

/-! What an edit of a field line leaves to the lines around it: it neither adds nor removes braces
of the code, and leaves no string open that was closed. -/

namespace SchemaCase

open Source

theorem codeBraces_eq_nil_of_blank {cells : List Cell}
    (h : ∀ cell ∈ cells, Text.isBlank cell.visible) : codeBraces cells = [] := by
  rw [codeBraces_eq_nil_iff]
  intro cell hcell
  have hopening : cell.visible ≠ '\x7b' := Text.ne_of_class (h cell hcell) (by decide)
  have hclosing : cell.visible ≠ '\x7d' := Text.ne_of_class (h cell hcell) (by decide)
  simp [Cell.isBrace, hopening, hclosing]

structure Unobtrusive (before after : Text) : Prop where
  braces : codeBraces (cells after) = codeBraces (cells before)
  mode : modeAfter .code before = .code ∨ modeAfter .code before = .comment →
    modeAfter .code after = modeAfter .code before
  carriageReturn : before.getLast? ≠ some '\r' → after.getLast? ≠ some '\r'

theorem Unobtrusive.refl (text : Text) : Unobtrusive text text :=
  ⟨rfl, fun _ => rfl, id⟩

theorem Unobtrusive.trans {first second third : Text} (h : Unobtrusive first second)
    (hnext : Unobtrusive second third) : Unobtrusive first third := by
  refine ⟨hnext.braces.trans h.braces, ?_, fun hreturn => ?_⟩
  rotate_left
  · exact hnext.carriageReturn (h.carriageReturn hreturn)
  intro hmode
  rw [hnext.mode, h.mode hmode]
  rwa [h.mode hmode]

theorem codeBraces_plain_append {front : Text} (hplain : Plain front)
    (hbraces : ∀ c ∈ front, c ≠ '\x7b' ∧ c ≠ '\x7d') (back : Text) :
    codeBraces (cells (front ++ back)) = codeBraces (cells back) := by
  rw [hplain.cells_append, ← hplain.cells, codeBraces_append, cells,
    codeBraces_cellsFrom_eq_nil .code hbraces]
  rfl

theorem braces_of_isName {name : Text} (h : Text.IsName name) :
    ∀ c ∈ name, c ≠ '\x7b' ∧ c ≠ '\x7d' := by
  have hopening : Text.isWordChar '\x7b' = false := by decide +kernel
  have hclosing : Text.isWordChar '\x7d' = false := by decide +kernel
  intro c hc
  exact ⟨Text.ne_of_class (h.isWordChar c hc) hopening,
    Text.ne_of_class (h.isWordChar c hc) hclosing⟩

theorem braces_of_isBlank {blanks : Text} (h : ∀ c ∈ blanks, Text.isBlank c) :
    ∀ c ∈ blanks, c ≠ '\x7b' ∧ c ≠ '\x7d' :=
  fun c hc => ⟨Text.ne_of_class (h c hc) (by decide), Text.ne_of_class (h c hc) (by decide)⟩

theorem unobtrusive_token {token newToken : Text} (htoken : Text.IsName token)
    (hnew : Text.IsName newToken) (behind : Text) :
    Unobtrusive (token ++ behind) (newToken ++ behind) := by
  refine ⟨?_, ?_, ?_⟩
  · rw [codeBraces_plain_append (plain_of_isName hnew) (braces_of_isName hnew),
      codeBraces_plain_append (plain_of_isName htoken) (braces_of_isName htoken)]
  · intro _
    rw [(plain_of_isName hnew).modeAfter_append,
      (plain_of_isName htoken).modeAfter_append]
  · rw [List.getLast?_append, List.getLast?_append]
    cases behind.getLast? with
    | some last => exact id
    | none =>
        intro _ hreturn
        exact hnew.not_mem (Text.isWordChar_of_isBlank (by decide)) (List.mem_of_getLast? hreturn)

theorem unobtrusive_retype {newType? : Text → Option Text}
    (hnew : ∀ token name, newType? token = some name → Text.IsName name) (rest : Text) :
    Unobtrusive rest (retype newType? rest) := by
  rcases retype_cases hnew rest with
    hsame | ⟨token, newName, behind, htoken, hname, hrest, hnewRest⟩
  · rw [hsame]
    exact .refl rest
  · rw [hnewRest, hrest]
    exact unobtrusive_token htoken hname behind

theorem literal_of_isName {name : Text} (h : Text.IsName name) : Literal name := by
  have hquote : Text.isWordChar '"' = false := by decide +kernel
  have hbackslash : Text.isWordChar '\\' = false := by decide +kernel
  have hfeed : Text.isWordChar '\n' = false := Text.isWordChar_of_isBlank (by decide)
  intro c hc
  have hword := h.isWordChar c hc
  exact ⟨Text.ne_of_class hword hquote, Text.ne_of_class hword hbackslash,
    Text.ne_of_class hword hfeed⟩

theorem modeAfter_mapCall {name : Text} (h : Literal name) (back : Text) :
    modeAfter .code (mapCall name ++ back) = modeAfter .code back := by
  have hplain : Plain (['@', 'm', 'a', 'p'] ++ ['(']) := by decide
  rw [MapCall.mapCall_append, hplain.modeAfter_append, MapCall.modeAfter_recordedArgument h]

theorem commentGap_nil (blanks : Text) : commentGap blanks [] = blanks := by
  simp [commentGap]

theorem isBlank_commentGap {blanks : Text} (h : ∀ c ∈ blanks, Text.isBlank c) (comment : Text) :
    ∀ c ∈ commentGap blanks comment, Text.isBlank c := by
  unfold commentGap
  split
  · exact List.all_eq_true.mp (by decide)
  · exact h

theorem mem_mapCall {name blanks : Text} {c : Char} (h : c ∈ ' ' :: (mapCall name ++ blanks)) :
    c ∈ [' ', '@', 'm', 'a', 'p', '(', '"', ')'] ∨ c ∈ name ∨ c ∈ blanks := by
  rw [mapCall_eq] at h
  simp only [List.mem_cons, List.mem_append, List.cons_append, List.not_mem_nil, or_false] at h ⊢
  tauto

theorem ne_of_mem_mapCall {name blanks : Text} (hname : Text.IsName name)
    (hblanks : ∀ c ∈ blanks, Text.isBlank c) :
    ∀ c ∈ ' ' :: (mapCall name ++ blanks), c ≠ '/' ∧ c ≠ '\x7b' ∧ c ≠ '\x7d' := by
  have hletters : ∀ c ∈ [' ', '@', 'm', 'a', 'p', '(', '"', ')'],
      c ≠ '/' ∧ c ≠ '\x7b' ∧ c ≠ '\x7d' := by
    simp
  intro c hc
  rcases mem_mapCall hc with hc | hc | hc
  · exact hletters c hc
  · exact ⟨(plain_of_isName hname c hc).2, braces_of_isName hname c hc⟩
  · exact ⟨(plain_of_isBlank hblanks c hc).2, braces_of_isBlank hblanks c hc⟩

theorem joins_mapCall {name blanks : Text} (hname : Text.IsName name)
    (hblanks : ∀ c ∈ blanks, Text.isBlank c) (back : Text) :
    Joins (' ' :: (mapCall name ++ blanks)) back := by
  apply Joins.of_last
  intro hlast
  exact (ne_of_mem_mapCall hname hblanks _ (List.mem_of_getLast? hlast)).1 rfl

theorem modeAfter_mapCall_blanks {name blanks : Text} (hname : Text.IsName name)
    (hblanks : ∀ c ∈ blanks, Text.isBlank c) :
    modeAfter .code (' ' :: (mapCall name ++ blanks)) = .code := by
  have hcall := modeAfter_mapCall (literal_of_isName hname) blanks
  rw [(plain_of_isBlank hblanks).modeAfter] at hcall
  exact hcall

section Annotation

variable {rest code blanks comment name : Text} (h : CodeSplit rest code blanks comment)
  (hfeed : '\n' ∉ rest) (hname : Text.IsName name)

include h

theorem CodeSplit.annotate_eq_append (name : Text) :
    annotate name rest =
      code ++ (' ' :: (mapCall name ++ commentGap blanks comment) ++ comment) := by
  simp [annotate_eq h]

theorem CodeSplit.eq_code_append : rest = code ++ (blanks ++ comment) := by
  rw [h.eq_append, List.append_assoc]

include hfeed hname

theorem codeBraces_annotate :
    codeBraces (cells (annotate name rest)) = codeBraces (cells rest) := by
  have hgap := isBlank_commentGap h.blanks comment
  have hcall : codeBraces (cellsFrom (modeAfter .code code)
      (' ' :: (mapCall name ++ commentGap blanks comment))) = [] :=
    codeBraces_cellsFrom_eq_nil _ fun c hc => (ne_of_mem_mapCall hname hgap c hc).2
  have hcomment : codeBraces (cellsFrom (modeAfter (modeAfter .code code)
      (' ' :: (mapCall name ++ commentGap blanks comment))) comment) = [] := by
    by_cases hempty : comment = []
    · simp [hempty]
    · rw [h.code_mode hfeed hempty, modeAfter_mapCall_blanks hname hgap]
      apply codeBraces_eq_nil_of_blank
      intro cell hcell
      rw [Cell.visible_comment (h.comment_cells hfeed cell hcell)]
      decide
  have hjoins : Joins code (' ' :: (mapCall name ++ commentGap blanks comment) ++ comment) :=
    .cons code (by decide) _
  have hbehind := codeBraces_eq_nil_of_blank (h.behind_blank hfeed)
  rw [h.annotate_eq_append, cells, cellsFrom_append .code hjoins,
    cellsFrom_append _ (joins_mapCall hname hgap comment)]
  conv_rhs => rw [h.eq_code_append, cells, cellsFrom_append .code h.joins]
  rw [codeBraces_append, codeBraces_append, hcall, hcomment, codeBraces_append, hbehind]
  rfl

omit hname in
/-- Code that leaves no string open ends in code, in front of a comment as well. -/
theorem CodeSplit.code_closed
    (hmode : modeAfter .code rest = .code ∨ modeAfter .code rest = .comment) :
    modeAfter .code code = .code := by
  by_cases hempty : comment = []
  · have hblanks : '\n' ∉ blanks := by
      intro hmem
      exact hfeed (by simp [h.eq_append, hmem])
    rcases hmode with hmode | hmode
    · rw [h.eq_code_append, modeAfter_append .code h.joins, hempty, List.append_nil] at hmode
      exact code_of_modeAfter_blanks h.blanks hblanks hmode
    · rcases codeAndComment_cases rest with ⟨-, hnone⟩ | ⟨front, back, -, hcut, hsplit⟩
      · exact absurd hmode hnone
      · rw [h.split] at hcut
        obtain ⟨more, hmore⟩ := hsplit.opens
        rw [← (Prod.mk.inj hcut).2, hempty] at hmore
        cases hmore
  · exact h.code_mode hfeed hempty

theorem modeAfter_annotate
    (hmode : modeAfter .code rest = .code ∨ modeAfter .code rest = .comment) :
    modeAfter .code (annotate name rest) = modeAfter .code rest := by
  have hgap := isBlank_commentGap h.blanks comment
  have hcode := h.code_closed hfeed hmode
  have hbefore : modeAfter .code rest = modeAfter .code (blanks ++ comment) := by
    conv_lhs => rw [h.eq_code_append, modeAfter_append .code h.joins, hcode]
  have hjoins : Joins code (' ' :: (mapCall name ++ commentGap blanks comment) ++ comment) :=
    .cons code (by decide) _
  rw [hbefore, h.annotate_eq_append, modeAfter_append .code hjoins, hcode,
    modeAfter_append .code (joins_mapCall hname hgap comment),
    modeAfter_mapCall_blanks hname hgap, (plain_of_isBlank h.blanks).modeAfter_append]

omit hfeed hname in
theorem getLast?_annotate (hreturn : rest.getLast? ≠ some '\r') :
    (annotate name rest).getLast? ≠ some '\r' := by
  rw [h.eq_append] at hreturn
  rw [annotate_eq h]
  cases comment with
  | cons c comment =>
      rw [List.getLast?_append, List.getLast?_cons, Option.some_or] at hreturn ⊢
      exact hreturn
  | nil =>
      rw [List.append_nil] at hreturn
      rw [commentGap_nil, List.append_nil]
      cases blanks with
      | cons c blanks =>
          rw [List.getLast?_append, List.getLast?_cons, Option.some_or] at hreturn ⊢
          exact hreturn
      | nil =>
          have hlast : (code ++ ' ' :: mapCall name ++ []).getLast? = some ')' := by
            rw [List.append_nil, List.getLast?_append]
            simp [mapCall_eq, List.getLast?_cons]
          rw [hlast]
          decide

theorem unobtrusive_annotate : Unobtrusive rest (annotate name rest) :=
  ⟨codeBraces_annotate h hfeed hname, modeAfter_annotate h hfeed hname, getLast?_annotate h⟩

end Annotation

theorem FieldParts.text_eq (parts : FieldParts) :
    parts.text = (parts.indent ++ parts.name ++ parts.gap) ++ parts.rest := rfl

theorem FieldParts.WellFormed.plain_front {parts : FieldParts} (h : parts.WellFormed) :
    Plain (parts.indent ++ parts.name ++ parts.gap) :=
  ((plain_of_isBlank h.indent).append (plain_of_isName h.name)).append
    (plain_of_isBlank h.gap)

theorem FieldParts.WellFormed.braces_front {parts : FieldParts} (h : parts.WellFormed) :
    ∀ c ∈ parts.indent ++ parts.name ++ parts.gap, c ≠ '\x7b' ∧ c ≠ '\x7d' := by
  intro c hc
  simp only [List.mem_append] at hc
  rcases hc with (hc | hc) | hc
  · exact braces_of_isBlank h.indent c hc
  · exact braces_of_isName h.name c hc
  · exact braces_of_isBlank h.gap c hc

theorem FieldParts.WellFormed.unobtrusive {parts after : FieldParts} (h : parts.WellFormed)
    (hafter : after.WellFormed) (hrest : Unobtrusive parts.rest after.rest) :
    Unobtrusive parts.text after.text := by
  rw [parts.text_eq, after.text_eq]
  refine ⟨?_, ?_, ?_⟩
  · rw [codeBraces_plain_append hafter.plain_front hafter.braces_front,
      codeBraces_plain_append h.plain_front h.braces_front, hrest.braces]
  · rw [hafter.plain_front.modeAfter_append, h.plain_front.modeAfter_append]
    exact hrest.mode
  · rw [List.getLast?_append_of_ne_nil _ h.rest_ne_nil,
      List.getLast?_append_of_ne_nil _ hafter.rest_ne_nil]
    exact hrest.carriageReturn

theorem FieldParts.unobtrusive_recordedRest {parts : FieldParts} (h : parts.WellFormed)
    (literal : Option Text) : Unobtrusive parts.rest (parts.recordedRest literal) := by
  unfold FieldParts.recordedRest
  split
  · obtain ⟨code, blanks, comment, hsplit⟩ := exists_codeSplit parts.rest
    exact unobtrusive_annotate hsplit h.rest_oneLine h.name
  · exact .refl _

/-- An edited line is a line like the one before. -/
structure Line.Takes (after before : Line) : Prop where
  replaces : after.Replaces before
  unobtrusive : Unobtrusive before.text after.text

theorem FieldParts.WellFormed.takes {parts after : FieldParts} (h : parts.WellFormed)
    (hafter : after.WellFormed) (hrest : Unobtrusive parts.rest after.rest) (terminator : Text)
    (literal newLiteral : Option Text) :
    (after.line terminator newLiteral).Takes (parts.line terminator literal) := by
  have htext := h.unobtrusive hafter hrest
  exact ⟨⟨rfl, fun _ => hafter.oneLine, htext.carriageReturn⟩, htext⟩

section Names

variable {newType? : Text → Option Text}
  (hnew : ∀ token name, newType? token = some name → Text.IsName name)

include hnew

theorem FieldParts.WellFormed.renamed {parts : FieldParts} (h : parts.WellFormed)
    {newName : Text} (hname : isIdentifier newName) (literal : Option Text) :
    { parts with
      name := newName
      rest := SchemaCase.retype newType? (parts.recordedRest literal) }.WellFormed :=
  ((h.recordedRest literal).withName (Text.isName_of_isIdentifier hname)).retype hnew

theorem LineChange.takes {rule : Text → Option Text} {block : Text} {before after : Line}
    {records : List Record} (h : LineChange rule newType? block before after records) :
    after.Takes before := by
  cases h with
  | other hfield => exact ⟨⟨rfl, id, id⟩, .refl _⟩
  | kept hparts => exact hparts.takes (hparts.retype hnew) (unobtrusive_retype hnew _) _ _ _
  | renamed hparts hrule hidentifier hdiffers =>
      apply hparts.takes (hparts.renamed hnew hidentifier _)
      exact (FieldParts.unobtrusive_recordedRest hparts _).trans (unobtrusive_retype hnew _)

theorem Changes.takes {rule : Text → Option Text} {block : Text} {lines changed : List Line}
    {records : List Record} (h : Changes (LineChange rule newType? block) lines changed records) :
    List.Forall₂ Line.Takes changed lines :=
  List.Forall₂.flip (h.forall₂ fun _ _ _ _ change => change.takes hnew)

end Names

end SchemaCase
