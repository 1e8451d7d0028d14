import SchemaCase.Proofs.Lists
import SchemaCase.Proofs.Schema.Classification
import SchemaCase.Proofs.Source.CodeSplit
import SchemaCase.Rename.Migration

/-! Editing field lines. What a rename does to the parts of a field line, and what all renames of
a block do to its lines. -/

namespace SchemaCase

open Source

theorem mapCall_eq (name : Text) :
    mapCall name = '@' :: 'm' :: 'a' :: 'p' :: '(' :: '"' :: (name ++ ['"', ')']) := rfl

/-- The blanks between a recorded name and a comment; there is at least one. -/
def commentGap (blanks comment : Text) : Text :=
  if blanks = [] ∧ comment ≠ [] then [' '] else blanks

def annotate (name rest : Text) : Text :=
  Text.trimEnd (codeAndComment rest).1 ++ ' ' :: mapCall name ++
    commentGap (Text.trailingBlanks (codeAndComment rest).1) (codeAndComment rest).2 ++
    (codeAndComment rest).2

theorem annotate_eq {rest code blanks comment : Text} (h : CodeSplit rest code blanks comment)
    (name : Text) :
    annotate name rest = code ++ ' ' :: mapCall name ++ commentGap blanks comment ++ comment := by
  have hcode : Text.trimEnd (code ++ blanks) = code := Text.trimEnd_run h.blanks h.code
  have hblanks : Text.trailingBlanks (code ++ blanks) = blanks := by
    rw [Text.trailingBlanks, hcode, List.drop_left]
  rw [annotate, h.split, hcode, hblanks]

theorem annotate_oneLine {name rest : Text} (hname : '\n' ∉ name) (hrest : '\n' ∉ rest) :
    '\n' ∉ annotate name rest := by
  obtain ⟨code, blanks, comment, hsplit⟩ := exists_codeSplit rest
  rw [hsplit.eq_append] at hrest
  simp only [List.mem_append, not_or] at hrest
  obtain ⟨⟨hcode, hblanks⟩, hcomment⟩ := hrest
  have hgap : '\n' ∉ commentGap blanks comment := by
    unfold commentGap
    split
    · decide
    · exact hblanks
  rw [annotate_eq hsplit, mapCall_eq]
  simp [hname, hcode, hgap, hcomment]

theorem CodeSplit.token {rest code blanks comment token behind : Text}
    (h : CodeSplit rest code blanks comment)
    (hread : Text.readName? rest = some (token, behind)) :
    ∃ tail, code = token ++ tail ∧ behind = tail ++ blanks ++ comment := by
  obtain ⟨hrest, htoken, -⟩ := Text.readName?_sound hread
  have hequal : token ++ behind = code ++ (blanks ++ comment) := by
    rw [← hrest, h.eq_append, List.append_assoc]
  rcases List.append_eq_append_iff.mp hequal with ⟨tail, hcode, hbehind⟩ | ⟨excess, htail, hexcess⟩
  · exact ⟨tail, hcode, by rw [hbehind, List.append_assoc]⟩
  · cases excess with
    | nil =>
        exact ⟨[], by rw [htail, List.append_nil, List.append_nil], by simpa using hexcess.symm⟩
    | cons c excess =>
        have hword : Text.isWordChar c := htoken.isWordChar c (by simp [htail])
        exfalso
        cases blanks with
        | cons blank blanks =>
            obtain rfl : blank = c := (List.cons.inj hexcess).1
            simp [Text.isWordChar_of_isBlank (h.blanks blank List.mem_cons_self)] at hword
        | nil =>
            rcases h.comment_opens with rfl | ⟨more, rfl⟩
            · cases hexcess
            · obtain rfl : '/' = c := (List.cons.inj hexcess).1
              exact absurd hword (by decide +kernel)

/-- A database name is recorded behind the type that is read, if there is one. -/
theorem FieldParts.WellFormed.readName?_annotate {parts : FieldParts} (h : parts.WellFormed)
    {code blanks comment : Text} (hsplit : CodeSplit parts.rest code blanks comment)
    (name : Text) :
    (∃ token tail, code = token ++ tail ∧
        Text.readName? parts.rest = some (token, tail ++ blanks ++ comment) ∧
        Text.readName? (annotate name parts.rest) =
          some (token, tail ++ ' ' :: mapCall name ++ commentGap blanks comment ++ comment)) ∨
      Text.readName? parts.rest = none ∧
        Text.readName? (annotate name parts.rest) = none := by
  rw [annotate_eq hsplit]
  cases hread : Text.readName? parts.rest with
  | some found =>
      obtain ⟨token, behind⟩ := found
      obtain ⟨-, htoken, hbehind⟩ := Text.readName?_sound hread
      obtain ⟨tail, rfl, rfl⟩ := hsplit.token hread
      have hword : ∀ c ∈ (tail ++ (' ' :: mapCall name ++ (commentGap blanks comment ++
          comment))).head?, Text.isWordChar c = false := by
        cases tail with
        | nil =>
            rintro c ⟨⟩
            exact Text.isWordChar_of_isBlank (by decide)
        | cons c tail => exact hbehind
      refine .inl ⟨token, tail, rfl, rfl, ?_⟩
      simp only [List.append_assoc] at hword ⊢
      exact Text.readName?_append htoken hword
  | none =>
      obtain ⟨first, behind, hrest, hfirst⟩ := h.rest
      have hcomment := h.noComment
      rw [hrest] at hread hsplit hcomment
      obtain ⟨tail, rfl⟩ := hsplit.code_cons hfirst hcomment
      have hstart : Text.isNameStart first = false := by
        by_contra hstart
        simp [Text.readName?, hstart] at hread
      exact .inr ⟨rfl, by simp [Text.readName?, hstart]⟩

/-- Gives the type at the start of `rest` its new name, if it has one. -/
def retype (newType? : Text → Option Text) (rest : Text) : Text :=
  match Text.readName? rest with
  | some (token, behind) => (newType? token).getD token ++ behind
  | none => rest

theorem retype_none (rest : Text) : retype (fun _ => none) rest = rest := by
  unfold retype
  split
  · next token behind hread => exact (Text.readName?_sound hread).1.symm
  · rfl

theorem retype_cases {newType? : Text → Option Text}
    (hnew : ∀ token name, newType? token = some name → Text.IsName name) (rest : Text) :
    retype newType? rest = rest ∨
      ∃ token newName behind, Text.IsName token ∧ Text.IsName newName ∧
        rest = token ++ behind ∧ retype newType? rest = newName ++ behind := by
  unfold retype
  split
  · next token behind hread =>
      obtain ⟨hrest, htoken, -⟩ := Text.readName?_sound hread
      refine .inr ⟨token, (newType? token).getD token, behind, htoken, ?_, hrest, rfl⟩
      cases htype : newType? token with
      | none => exact htoken
      | some name => exact hnew token name htype
  · exact .inl rfl

namespace FieldParts

def line (parts : FieldParts) (terminator : Text) (literal : Option Text) : Line :=
  { text := parts.text
    terminator
    kind := .field
    indent := parts.indent
    fieldName := some parts.name
    gap := parts.gap
    rest := parts.rest
    mapLiteral := literal }

def recordedRest (parts : FieldParts) (literal : Option Text) : Text :=
  if literal.isNone then annotate parts.name parts.rest else parts.rest

theorem rename_line (parts : FieldParts) (terminator newName : Text) (literal : Option Text) :
    (parts.line terminator literal).rename parts.name newName =
      { parts with name := newName, rest := parts.recordedRest literal }.line terminator
        (some (literal.getD parts.name)) := by
  cases literal with
  | some literal => rfl
  | none =>
      simp [line, Line.rename, Line.appendMap, Line.rebuild, Line.isField, Line.shownName,
        recordedRest, annotate, FieldParts.text, commentGap, and_comm]

theorem renameType_line (newType? : Text → Option Text) (parts : FieldParts) (terminator : Text)
    (literal : Option Text) :
    ((parts.line terminator literal).renameType? newType?).getD (parts.line terminator literal) =
      { parts with rest := retype newType? parts.rest }.line terminator literal := by
  unfold retype
  cases hread : Text.readName? parts.rest with
  | none => simp [line, Line.renameType?, Line.isField, hread]
  | some found =>
      obtain ⟨token, behind⟩ := found
      cases hnew : newType? token with
      | none =>
          have hrest : parts.rest = token ++ behind := (Text.readName?_sound hread).1
          simp [line, Line.renameType?, Line.isField, hread, hnew, ← hrest]
      | some newName =>
          simp [line, Line.renameType?, Line.isField, hread, hnew, Line.rebuild,
            Line.shownName, FieldParts.text]

theorem WellFormed.withName {parts : FieldParts} (h : parts.WellFormed) {newName : Text}
    (hname : Text.IsName newName) : { parts with name := newName }.WellFormed := by
  refine ⟨h.indent, hname, h.gap, h.gap_ne_nil, h.rest, h.noComment, ?_⟩
  have hline := h.oneLine
  have hfeed := hname.not_mem (Text.isWordChar_of_isBlank (by decide : Text.isBlank '\n'))
  simp only [FieldParts.text, List.mem_append, not_or] at hline ⊢
  exact ⟨⟨⟨hline.1.1.1, hfeed⟩, hline.1.2⟩, hline.2⟩

theorem WellFormed.withRest {parts : FieldParts} (h : parts.WellFormed) {rest : Text}
    (hfirst : ∃ first behind, rest = first :: behind ∧ Text.isBlank first = false)
    (hcomment : ¬['/', '/'] <+: rest) (hfeed : '\n' ∉ rest) :
    { parts with rest := rest }.WellFormed := by
  refine ⟨h.indent, h.name, h.gap, h.gap_ne_nil, hfirst, hcomment, ?_⟩
  have hline := h.oneLine
  simp only [FieldParts.text, List.mem_append, not_or] at hline ⊢
  exact ⟨hline.1, hfeed⟩

theorem WellFormed.rest_oneLine {parts : FieldParts} (h : parts.WellFormed) :
    '\n' ∉ parts.rest :=
  fun hmem => h.oneLine (List.mem_append_right _ hmem)

theorem WellFormed.name_oneLine {parts : FieldParts} (h : parts.WellFormed) :
    '\n' ∉ parts.name :=
  h.name.not_mem (Text.isWordChar_of_isBlank (by decide))

theorem WellFormed.annotate {parts : FieldParts} (h : parts.WellFormed) {name : Text}
    (hname : '\n' ∉ name) :
    { parts with rest := SchemaCase.annotate name parts.rest }.WellFormed := by
  obtain ⟨first, behind, hrest, hfirst⟩ := h.rest
  obtain ⟨code, blanks, comment, hsplit⟩ := exists_codeSplit parts.rest
  have hfeed := annotate_oneLine hname h.rest_oneLine
  have hcomment := h.noComment
  have happend := hsplit.eq_append
  rw [annotate_eq hsplit] at hfeed ⊢
  rw [hrest] at hsplit hcomment
  obtain ⟨tail, rfl⟩ := hsplit.code_cons hfirst hcomment
  refine h.withRest ⟨first, _, rfl, hfirst⟩ ?_ hfeed
  -- The second of two slashes would be the second character of the code already.
  rintro ⟨more, hmore⟩
  apply hcomment
  rw [← hrest, happend]
  cases tail with
  | nil => simp at hmore
  | cons second tail =>
      simp only [List.cons_append, List.cons.injEq, List.nil_append] at hmore
      obtain ⟨rfl, rfl, -⟩ := hmore
      exact ⟨tail ++ blanks ++ comment, by simp⟩

theorem WellFormed.retype {parts : FieldParts} (h : parts.WellFormed)
    {newType? : Text → Option Text}
    (hnew : ∀ token name, newType? token = some name → Text.IsName name) :
    { parts with rest := SchemaCase.retype newType? parts.rest }.WellFormed := by
  rcases retype_cases hnew parts.rest with
    hsame | ⟨token, newName, behind, htoken, hname, hrest, hnewRest⟩
  · rw [hsame]
    exact h
  · obtain ⟨first, hfirst, hword⟩ := hname.head? behind
    obtain ⟨tail, htail⟩ := List.head?_eq_some_iff.mp hfirst
    rw [hnewRest]
    refine h.withRest ⟨first, tail, htail, Text.isBlank_of_isWordChar hword⟩ ?_ ?_
    · rw [htail]
      rintro ⟨more, hmore⟩
      have hslash : Text.isWordChar '/' = false := by decide +kernel
      exact Text.ne_of_class hword hslash (List.cons.inj hmore).1.symm
    · have hbehind : '\n' ∉ behind := fun hmem =>
        h.rest_oneLine (hrest ▸ List.mem_append_right token hmem)
      rw [List.mem_append, not_or]
      exact ⟨hname.not_mem (Text.isWordChar_of_isBlank (by decide)), hbehind⟩

theorem WellFormed.recordedRest {parts : FieldParts} (h : parts.WellFormed)
    (literal : Option Text) : { parts with rest := parts.recordedRest literal }.WellFormed := by
  unfold FieldParts.recordedRest
  split
  · exact h.annotate h.name_oneLine
  · exact h

end FieldParts

/-- A plan for `name`: where it renames, it takes the identifier that `rule` gives. -/
structure Plan.Follows (rule : Text → Option Text) (name : Text) (plan : Plan) : Prop where
  oldName : plan.oldName = name
  changed : plan.changed →
    rule name = some plan.newName ∧ isIdentifier plan.newName ∧ plan.newName ≠ name

theorem Plan.keep_follows (rule : Text → Option Text) (name : Text) :
    (Plan.keep name).Follows rule name :=
  ⟨rfl, nofun⟩

def Value.name? : Value → Option Text
  | .text name => some name
  | _ => Option.none

theorem Plan.ofCandidate_follows {rule : Text → Option Text} {name : Text} {candidate : Value}
    (h : rule name = candidate.name?) : (Plan.ofCandidate name candidate).Follows rule name := by
  unfold Plan.ofCandidate
  split
  · split
    · next hidentifier =>
        exact ⟨rfl, fun hchanged => ⟨h, hidentifier, by simpa using hchanged⟩⟩
    · exact Plan.keep_follows rule name
  · exact Plan.keep_follows rule name

/-- Things change one by one, and their records follow each other. -/
inductive Changes {α β : Type} (Change : α → β → List Record → Prop) :
    List α → List β → List Record → Prop
  | nil : Changes Change [] [] []
  | cons {before : α} {after : β} {rest : List α} {changed : List β} {records more : List Record}
      (head : Change before after records)
      (tail : Changes Change rest changed more) :
      Changes Change (before :: rest) (after :: changed) (records ++ more)

theorem Changes.map {α β γ : Type} {Change : α → β → List Record → Prop}
    {Further : α → γ → List Record → Prop} {items : List α} {changed : List β}
    {records : List Record} (next : β → γ) (h : Changes Change items changed records)
    (hstep : ∀ item ∈ items, ∀ after records, Change item after records →
      Further item (next after) records) :
    Changes Further items (changed.map next) records := by
  induction h with
  | nil => exact .nil
  | cons head tail ih =>
      refine .cons (hstep _ List.mem_cons_self _ _ head) (ih ?_)
      intro item hitem
      exact hstep item (List.mem_cons_of_mem _ hitem)

theorem Changes.forall₂ {α β : Type} {Change : α → β → List Record → Prop}
    {Related : α → β → Prop} {items : List α} {changed : List β} {records : List Record}
    (h : Changes Change items changed records)
    (hstep : ∀ item ∈ items, ∀ after records, Change item after records → Related item after) :
    List.Forall₂ Related items changed := by
  induction h with
  | nil => exact .nil
  | cons head tail ih =>
      rw [List.forall_mem_cons] at hstep
      exact .cons (hstep.1 _ _ head) (ih hstep.2)

theorem Changes.forall_records {α β : Type} {Change : α → β → List Record → Prop}
    {Holds : Record → Prop} {items : List α} {changed : List β} {records : List Record}
    (h : Changes Change items changed records)
    (hstep : ∀ item after records, Change item after records → ∀ record ∈ records, Holds record) :
    ∀ record ∈ records, Holds record := by
  induction h with
  | nil => simp
  | cons head tail ih =>
      intro record hrecord
      rcases List.mem_append.mp hrecord with hrecord | hrecord
      · exact hstep _ _ _ head record hrecord
      · exact ih record hrecord

/-- What a migration makes of one line of the block that is called `block` in the end. Only field
lines change; `rule` gives new names to fields and `newType?` to types. -/
inductive LineChange (rule newType? : Text → Option Text) (block : Text) :
    Line → Line → List Record → Prop
  | other {line : Line} (notField : line.isField = false) :
      LineChange rule newType? block line line []
  | kept {parts : FieldParts} {terminator : Text} {literal : Option Text}
      (wellFormed : parts.WellFormed) :
      LineChange rule newType? block (parts.line terminator literal)
        ({ parts with rest := retype newType? parts.rest }.line terminator literal) []
  | renamed {parts : FieldParts} {terminator newName : Text} {literal : Option Text}
      (wellFormed : parts.WellFormed)
      (byRule : rule parts.name = some newName)
      (identifier : isIdentifier newName)
      (differs : newName ≠ parts.name) :
      LineChange rule newType? block (parts.line terminator literal)
        ({ parts with
            name := newName
            rest := retype newType? (parts.recordedRest literal) }.line terminator
          (some (literal.getD parts.name)))
        [⟨.field, block, parts.name, newName, literal.isNone⟩]

/-- The records of a block are those of its field lines. -/
theorem Changes.fieldLines {rule newType? : Text → Option Text} {block : Text}
    {lines changed : List Line} {records : List Record}
    (h : Changes (LineChange rule newType? block) lines changed records) :
    Changes (LineChange rule newType? block) (lines.filter Line.isField)
      (changed.filter Line.isField) records := by
  induction h with
  | nil => exact .nil
  | cons head tail ih =>
      cases head with
      | other hfield =>
          rw [List.filter_cons_of_neg (by simp [hfield]),
            List.filter_cons_of_neg (by simp [hfield])]
          exact ih
      | kept hparts => exact .cons (.kept hparts) ih
      | renamed hparts hrule hidentifier hdiffers =>
          exact .cons (.renamed hparts hrule hidentifier hdiffers) ih

/-- A field line consists of its parts. -/
def Line.HasParts (line : Line) : Prop :=
  line.isField → ∃ (parts : FieldParts) (terminator : Text) (literal : Option Text),
    parts.WellFormed ∧ line = parts.line terminator literal

theorem Line.classify_bare_field {line : Line} {parts : FieldParts} (hparts : parts.WellFormed)
    (htext : line.text = parts.text) :
    line.bare.classify = parts.line line.terminator (MapCall.inline? parts.rest) := by
  have hbare : line.bare.text = parts.text := htext
  rw [Line.classify_field hparts hbare]
  simp [Line.bare, FieldParts.line, htext]

theorem FieldStep.of_change {rule : Text → Option Text} {parts : FieldParts} {plan : Plan}
    (block : Text) (taken : List Text) (terminator : Text) (literal : Option Text)
    (hparts : parts.WellFormed) (hplan : plan.Follows rule parts.name) :
    LineChange rule (fun _ => none) block (parts.line terminator literal)
      (FieldStep.of block taken (parts.line terminator literal) plan).line
      (FieldStep.of block taken (parts.line terminator literal) plan).records := by
  have hkept : LineChange rule (fun _ => none) block (parts.line terminator literal) _ _ :=
    .kept hparts
  rw [retype_none] at hkept
  unfold FieldStep.of
  split
  · exact hkept
  · next hchanged =>
      split
      · exact hkept
      · obtain ⟨hrule, hidentifier, hdiffers⟩ := hplan.changed (by simpa using hchanged)
        have hrenamed :
            LineChange rule (fun _ => none) block (parts.line terminator literal) _ _ :=
          .renamed hparts hrule hidentifier hdiffers
        rw [retype_none] at hrenamed
        rw [hplan.oldName, FieldParts.rename_line]
        exact hrenamed

theorem FieldEdits.of_changes {rule : Text → Option Text} {lines : List Line} {plans : List Plan}
    (block : Text) (taken : List Text) (hlines : ∀ line ∈ lines, line.HasParts)
    (hplans : List.Forall₂ (fun line plan => plan.Follows rule (line.fieldName.getD []))
      (lines.filter Line.isField) plans) :
    (FieldEdits.of block taken lines plans).error = none ∧
      Changes (LineChange rule (fun _ => none) block) lines
        (FieldEdits.of block taken lines plans).lines
        (FieldEdits.of block taken lines plans).records := by
  induction lines generalizing plans taken with
  | nil =>
      cases hplans
      exact ⟨rfl, .nil⟩
  | cons line rest ih =>
      have hrest := fun member hmember => hlines member (List.mem_cons_of_mem line hmember)
      cases hfield : line.isField with
      | false =>
          rw [List.filter_cons_of_neg (by simp [hfield])] at hplans
          obtain ⟨herror, hchanges⟩ := ih taken hrest hplans
          simp only [FieldEdits.of, hfield, FieldEdits.cons]
          exact ⟨herror, .cons (.other hfield) hchanges⟩
      | true =>
          rw [List.filter_cons_of_pos hfield] at hplans
          obtain ⟨parts, terminator, literal, hparts, rfl⟩ :=
            hlines line List.mem_cons_self hfield
          cases hplans with
          | cons hplan hplans =>
              obtain ⟨herror, hchanges⟩ := ih _ hrest hplans
              simp only [FieldEdits.of, hfield, FieldEdits.cons]
              exact ⟨herror, .cons (FieldStep.of_change block taken terminator literal hparts hplan)
                hchanges⟩

theorem LineChange.retype {rule newType? : Text → Option Text} {block : Text}
    {before after : Line} {records : List Record}
    (h : LineChange rule (fun _ => none) block before after records) :
    LineChange rule newType? block before ((after.renameType? newType?).getD after) records := by
  -- Types are renamed after names, in the lines as the renames left them.
  cases h with
  | other hfield =>
      have hnone : before.renameType? newType? = none := by simp [Line.renameType?, hfield]
      rw [hnone]
      exact .other hfield
  | kept hparts =>
      rw [retype_none, FieldParts.renameType_line]
      exact .kept hparts
  | renamed hparts hrule hidentifier hdiffers =>
      rw [retype_none, FieldParts.renameType_line]
      exact .renamed hparts hrule hidentifier hdiffers

end SchemaCase
