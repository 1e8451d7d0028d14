import SchemaCase.Proofs.Rename.Rereading

/-! Editing a block step by step. Whatever the steps are and in whatever order they come, also if
some of them stop half way, the parts of a field line make up its text, and no line is lost. -/

namespace SchemaCase

open Source

inductive BlockOperation
  | classify
  | insertMap (name : Text)
  /-- Records a database name in the line at `index`, of whatever kind it is. -/
  | appendMap (index : Nat) (name : Text)
  /-- The plans need not fit the block. -/
  | rename (plan : Plan) (fieldPlans : List Plan)
  | renameTypes (newName? : Text → Option Text)

def Plan.OneLine (plan : Plan) : Prop :=
  '\n' ∉ plan.oldName ∧ '\n' ∉ plan.newName

/-- No text that an operation is given has a line feed in it. -/
def BlockOperation.OneLine : BlockOperation → Prop
  | classify => True
  | insertMap name => '\n' ∉ name
  | appendMap _ name => '\n' ∉ name
  | rename plan fieldPlans => plan.OneLine ∧ ∀ member ∈ fieldPlans, member.OneLine
  | renameTypes newName? => ∀ token name, newName? token = some name → '\n' ∉ name

def EditError.ofCounts (plans fields : Nat) : Option EditError :=
  if plans < fields then some .fewerPlans
  else if fields < plans then some .morePlans
  else none

/-- Only a wrong number of plans stops an operation. -/
def BlockOperation.failure (block : Block) : BlockOperation → Option EditError
  | rename _ fieldPlans => EditError.ofCounts fieldPlans.length block.fields.length
  | _ => none

namespace Block

def perform (block : Block) : BlockOperation → Block × Option EditError
  | .classify => (block.classify, none)
  | .insertMap name =>
      match block.insertMap name with
      | .ok edited => (edited, none)
      | .error error => (block, some error)
  | .appendMap index name =>
      ({ block with lines := block.lines.modify index (·.appendMap name) }, none)
  | .rename plan fieldPlans =>
      let edit := block.rename plan fieldPlans
      (edit.block, edit.error)
  | .renameTypes newName? => (block.renameTypes newName?, none)

/-- An operation that stops does not keep the next ones from being performed. -/
def performAll (block : Block) (operations : List BlockOperation) : Block :=
  operations.foldl (fun block operation => (block.perform operation).1) block

end Block

namespace Line

inductive Edit : Line → Line → Prop
  | kept {line : Line} : Edit line line
  | classified {line : Line} : Edit line line.classify
  | mapped {line : Line} {name : Text} (oneLine : '\n' ∉ name) : Edit line (line.appendMap name)
  | renamed {line : Line} {plan : Plan} (oneLine : plan.OneLine) :
      Edit line (line.rename plan.oldName plan.newName)
  | retyped {line : Line} {token behind newName : Text} (isField : line.isField)
      (reads : Text.readName? line.rest = some (token, behind)) (oneLine : '\n' ∉ newName) :
      Edit line { line with rest := newName ++ behind }.rebuild

/-- A field line has a name, and its parts make up its text. -/
def InStep (line : Line) : Prop :=
  line.isField → ∃ name, line.fieldName = some name ∧
    line.text = line.indent ++ name ++ line.gap ++ line.rest

end Line

structure Block.SameFrame (block other : Block) : Prop where
  header : other.toHeader = { block.toHeader with name := other.name }
  kind : other.kind = block.kind
  closing : other.closing = block.closing

/-- What a step leaves of a block. Every line is still there, in the same order and with the same
terminator; lines may have come in between. -/
structure Block.Edited (before after : Block) : Prop extends before.SameFrame after where
  lines : List.SublistForall₂
    (fun line edited => line.Edit edited ∧ edited.terminator = line.terminator)
    before.lines after.lines

namespace Line

structure Sound (line : Line) : Prop where
  oneLine : '\n' ∉ line.text
  inStep : line.InStep

theorem appendMap_eq (line : Line) (name : Text) :
    line.appendMap name =
      { line with rest := annotate name line.rest, mapLiteral := some name }.rebuild := by
  simp [appendMap, annotate, commentGap, and_comm]

@[simp] theorem rebuild_terminator (line : Line) : line.rebuild.terminator = line.terminator := by
  unfold rebuild
  split <;> rfl

theorem Edit.terminator {line after : Line} (h : line.Edit after) :
    after.terminator = line.terminator := by
  cases h with
  | kept => rfl
  | classified => exact line.classify_terminator
  | mapped _ => rw [appendMap_eq, rebuild_terminator]
  | renamed _ =>
      unfold rename
      split
      · rw [appendMap_eq, rebuild_terminator]
      · rw [rebuild_terminator]
  | retyped _ _ _ => rw [rebuild_terminator]

/-- A field line that is put together from its parts is in step with them. -/
theorem sound_rebuild {line : Line} (hline : '\n' ∉ line.text)
    (hparts : line.isField → ∃ name, line.fieldName = some name ∧
      '\n' ∉ line.indent ++ name ++ line.gap ++ line.rest) : line.rebuild.Sound := by
  unfold rebuild
  split
  · next hfield =>
      obtain ⟨name, hname, hfeed⟩ := hparts hfield
      have hshown : line.shownName = name := by simp [shownName, hname]
      rw [hshown]
      exact ⟨hfeed, fun _ => ⟨name, hname, rfl⟩⟩
  · next hfield => exact ⟨hline, fun h => absurd h hfield⟩

theorem Sound.parts {line : Line} (h : line.Sound) (hfield : line.isField) :
    ∃ name, line.fieldName = some name ∧
      '\n' ∉ line.indent ∧ '\n' ∉ name ∧ '\n' ∉ line.gap ∧ '\n' ∉ line.rest := by
  obtain ⟨name, hname, htext⟩ := h.inStep hfield
  have hfeed := h.oneLine
  simp only [htext, List.mem_append, not_or] at hfeed
  exact ⟨name, hname, hfeed.1.1.1, hfeed.1.1.2, hfeed.1.2, hfeed.2⟩

theorem Sound.rebuild_with {line : Line} (h : line.Sound) {name? : Option Text}
    {rest : Text} {literal : Option Text}
    (hname : line.isField → ∃ name, name? = some name ∧ '\n' ∉ name)
    (hrest : line.isField → '\n' ∉ rest) :
    { line with fieldName := name?, rest := rest, mapLiteral := literal }.rebuild.Sound := by
  refine sound_rebuild h.oneLine fun hfield => ?_
  obtain ⟨_, _, hindent, _, hgap, _⟩ := h.parts hfield
  obtain ⟨name, hsome, hfeed⟩ := hname hfield
  refine ⟨name, hsome, ?_⟩
  simp only [List.mem_append, not_or]
  exact ⟨⟨⟨hindent, hfeed⟩, hgap⟩, hrest hfield⟩

theorem Sound.annotate {line : Line} (h : line.Sound) {name : Text} (hname : '\n' ∉ name)
    (hfield : line.isField) : '\n' ∉ SchemaCase.annotate name line.rest := by
  obtain ⟨_, _, _, _, _, hrest⟩ := h.parts hfield
  exact annotate_oneLine hname hrest

theorem Sound.fieldName {line : Line} (h : line.Sound) (hfield : line.isField) :
    ∃ name, line.fieldName = some name ∧ '\n' ∉ name := by
  obtain ⟨name, hname, _, hfeed, _, _⟩ := h.parts hfield
  exact ⟨name, hname, hfeed⟩

theorem sound_classify {line : Line} (hline : '\n' ∉ line.text) : line.classify.Sound := by
  refine ⟨by rwa [classify_text], fun hfield => ?_⟩
  obtain ⟨parts, hparts, htext⟩ := exists_parts_of_isField hline hfield
  rw [classify_field hparts htext]
  exact ⟨parts.name, rfl, htext⟩

/-- No edit of a line puts its parts out of step with its text. -/
theorem Edit.sound {line after : Line} (h : line.Edit after) (hline : line.Sound) :
    after.Sound := by
  cases h with
  | kept => exact hline
  | classified => exact sound_classify hline.oneLine
  | mapped oneLine =>
      rw [appendMap_eq]
      exact hline.rebuild_with hline.fieldName (hline.annotate oneLine)
  | @renamed plan oneLine =>
      have hname : line.isField → ∃ name, some plan.newName = some name ∧ '\n' ∉ name :=
        fun _ => ⟨plan.newName, rfl, oneLine.2⟩
      unfold rename
      split
      · rw [appendMap_eq]
        exact hline.rebuild_with hname (hline.annotate oneLine.1)
      · refine hline.rebuild_with hname fun hfield => ?_
        obtain ⟨_, _, _, _, _, hrest⟩ := hline.parts hfield
        exact hrest
  | @retyped token behind newName isField reads oneLine =>
      refine hline.rebuild_with hline.fieldName fun hfield => ?_
      obtain ⟨_, _, _, _, _, hrest⟩ := hline.parts hfield
      rw [(Text.readName?_sound reads).1, List.mem_append, not_or] at hrest
      rw [List.mem_append, not_or]
      exact ⟨oneLine, hrest.2⟩

theorem edit_renameType {newName? : Text → Option Text} (line : Line)
    (hnew : ∀ token name, newName? token = some name → '\n' ∉ name) :
    line.Edit ((line.renameType? newName?).getD line) := by
  cases hrenamed : line.renameType? newName? with
  | none => exact .kept
  | some after =>
      unfold renameType? at hrenamed
      split at hrenamed
      · next hfield =>
          obtain ⟨found, hread, hrenamed⟩ := Option.bind_eq_some_iff.mp hrenamed
          obtain ⟨newName, hname, hrenamed⟩ := Option.bind_eq_some_iff.mp hrenamed
          cases hrenamed
          exact .retyped hfield hread (hnew _ _ hname)
      · cases hrenamed

end Line

/-- Lines that changed one by one, with others put in between. -/
inductive Interleaved (Change : Line → Line → Prop) : List Line → List Line → Prop
  | nil : Interleaved Change [] []
  | changed {line after : Line} {lines others : List Line} (change : Change line after)
      (rest : Interleaved Change lines others) :
      Interleaved Change (line :: lines) (after :: others)
  | inserted {line : Line} {lines others : List Line} (notField : line.isField = false)
      (oneLine : '\n' ∉ line.text) (rest : Interleaved Change lines others) :
      Interleaved Change lines (line :: others)

namespace Interleaved

theorem of_forall₂ {Change : Line → Line → Prop} {lines others : List Line}
    (h : List.Forall₂ Change lines others) : Interleaved Change lines others := by
  induction h with
  | nil => exact .nil
  | cons head tail ih => exact .changed head ih

theorem refl (lines : List Line) : Interleaved Eq lines lines :=
  of_forall₂ (List.forall₂_refl lines)

theorem sublistForall₂ {Change Related : Line → Line → Prop} {lines others : List Line}
    (h : Interleaved Change lines others)
    (hstep : ∀ line after, Change line after → Related line after) :
    List.SublistForall₂ Related lines others := by
  induction h with
  | nil => exact .nil
  | changed change rest ih => exact .cons (hstep _ _ change) ih
  | inserted notField oneLine rest ih => exact .cons_right ih

theorem ne_nil {Change : Line → Line → Prop} {lines others : List Line}
    (h : Interleaved Change lines others) (hlines : lines ≠ []) : others ≠ [] := by
  cases h with
  | nil => exact hlines
  | changed change rest => exact List.cons_ne_nil _ _
  | inserted notField oneLine rest => exact List.cons_ne_nil _ _

theorem sound {lines others : List Line} (h : Interleaved Line.Edit lines others)
    (hlines : ∀ line ∈ lines, line.Sound) : ∀ line ∈ others, line.Sound := by
  induction h with
  | nil => exact hlines
  | changed change rest ih =>
      rw [List.forall_mem_cons] at hlines ⊢
      exact ⟨change.sound hlines.1, ih hlines.2⟩
  | @inserted line lines others notField oneLine rest ih =>
      rw [List.forall_mem_cons]
      refine ⟨⟨oneLine, fun hfield => ?_⟩, ih hlines⟩
      simp [notField] at hfield

theorem fields {lines others : List Line} (h : Interleaved Eq lines others) :
    others.filter Line.isField = lines.filter Line.isField := by
  induction h with
  | nil => rfl
  | changed change rest ih =>
      subst change
      rw [List.filter_cons, List.filter_cons, ih]
  | inserted notField oneLine rest ih =>
      rw [List.filter_cons_of_neg (by simp [notField]), ih]

/-- Lines that were put in between stay there when others change. -/
theorem then_change {Change : Line → Line → Prop} {lines middle others : List Line}
    (h : Interleaved Eq lines middle)
    (hnext : List.Forall₂ (fun line after =>
      Change line after ∧ (line.isField = false → after = line)) middle others) :
    Interleaved Change lines others := by
  induction h generalizing others with
  | nil =>
      cases hnext
      exact .nil
  | changed change rest ih =>
      subst change
      cases hnext with
      | cons hhead htail => exact .changed hhead.1 (ih htail)
  | inserted notField oneLine rest ih =>
      cases hnext with
      | cons hhead htail =>
          rw [hhead.2 notField]
          exact .inserted notField oneLine (ih htail)

end Interleaved

theorem Line.forall₂_modify {change : Line → Line}
    (hchange : ∀ line : Line, line.Edit (change line)) (lines : List Line) (index : Nat) :
    List.Forall₂ Line.Edit lines (lines.modify index change) := by
  induction lines generalizing index with
  | nil => simp
  | cons line lines ih =>
      cases index with
      | zero => exact .cons (hchange line) (List.forall₂_same.mpr fun _ _ => .kept)
      | succ index => exact .cons .kept (ih index)

theorem FieldStep.of_edit (block : Text) (taken : List Text) (line : Line) {plan : Plan}
    (h : plan.OneLine) : line.Edit (FieldStep.of block taken line plan).line := by
  unfold FieldStep.of
  split
  · exact .kept
  · split
    · exact .kept
    · exact .renamed h

theorem FieldEdits.of_edits {plans : List Plan} (block : Text) (taken : List Text)
    (lines : List Line) (h : ∀ plan ∈ plans, plan.OneLine) :
    List.Forall₂ (fun line after => line.Edit after ∧ (line.isField = false → after = line))
      lines (FieldEdits.of block taken lines plans).lines := by
  induction lines generalizing taken plans with
  | nil => cases plans <;> exact .nil
  | cons line lines ih =>
      unfold FieldEdits.of
      split
      · next hfield =>
          cases plans with
          | nil => exact List.forall₂_same.mpr fun _ _ => ⟨.kept, fun _ => rfl⟩
          | cons plan plans =>
              rw [List.forall_mem_cons] at h
              exact .cons ⟨FieldStep.of_edit block taken line h.1, by simp [hfield]⟩ (ih _ h.2)
      · exact .cons ⟨.kept, fun _ => rfl⟩ (ih taken h)

theorem FieldEdits.of_error (block : Text) (taken : List Text) (lines : List Line)
    (plans : List Plan) :
    (FieldEdits.of block taken lines plans).error =
      EditError.ofCounts plans.length (lines.filter Line.isField).length := by
  induction lines generalizing taken plans with
  | nil => cases plans <;> simp [FieldEdits.of, EditError.ofCounts]
  | cons line lines ih =>
      cases hfield : line.isField with
      | false =>
          rw [List.filter_cons_of_neg (by simp [hfield])]
          simp only [FieldEdits.of, hfield, FieldEdits.cons]
          exact ih taken plans
      | true =>
          rw [List.filter_cons_of_pos hfield]
          cases plans with
          | nil => simp [FieldEdits.of, hfield, EditError.ofCounts]
          | cons plan plans =>
              simp only [FieldEdits.of, hfield, FieldEdits.cons, if_true]
              rw [ih]
              simp [EditError.ofCounts]

namespace Block

structure Sound (block : Block) : Prop where
  nonempty : block.lines ≠ []
  lines : ∀ line ∈ block.lines, line.Sound

theorem insertMap_interleaved {block : Block} (h : block.Sound) {name : Text}
    (hname : '\n' ∉ name) :
    ∃ lines, block.insertMap name = .ok { block with lines := lines } ∧
      Interleaved Eq block.lines lines := by
  have hmap : '\n' ∉ (block.mapLine name).text := by
    have hindent := innerIndent_oneLine fun line hline => (h.lines line hline).oneLine
    rw [mapLine_text, mapCall_eq]
    simp [hindent, hname]
  obtain ⟨first, rest, hcons⟩ := List.exists_cons_of_ne_nil h.nonempty
  simp only [insertMap, hcons]
  have hrest := Interleaved.refl rest
  split
  · exact ⟨_, rfl, .changed rfl (.inserted (block.mapLine_isField name) hmap hrest)⟩
  · refine ⟨_, rfl, .inserted rfl ?_ (.inserted (block.mapLine_isField name) hmap
      (.changed rfl hrest))⟩
    simp

theorem renameSelf_interleaved {block : Block} (h : block.Sound) {plan : Plan}
    (hplan : plan.OneLine) :
    ∃ self records events, block.renameSelf plan = ⟨self, records, events, none⟩ ∧
      block.SameFrame self ∧ Interleaved Eq block.lines self.lines := by
  unfold renameSelf
  split
  · cases hmap : (block.findAttribute? "map".toList).isNone with
    | true =>
        obtain ⟨lines, hinsert, hlines⟩ := insertMap_interleaved h hplan.1
        simp only [hinsert, if_true]
        exact ⟨_, _, _, rfl, ⟨rfl, rfl, rfl⟩, hlines⟩
    | false => exact ⟨_, _, _, rfl, ⟨rfl, rfl, rfl⟩, .refl _⟩
  · exact ⟨_, _, _, rfl, ⟨rfl, rfl, rfl⟩, .refl _⟩

theorem rename_interleaved {block : Block} (h : block.Sound) {plan : Plan} {plans : List Plan}
    (hplan : plan.OneLine) (hplans : ∀ member ∈ plans, member.OneLine) :
    let edit := block.rename plan plans
    block.SameFrame edit.block ∧ Interleaved Line.Edit block.lines edit.block.lines ∧
      edit.error = EditError.ofCounts plans.length block.fields.length := by
  obtain ⟨self, records, events, hself, hframe, hlines⟩ := renameSelf_interleaved h hplan
  have hedits := FieldEdits.of_edits self.name self.fieldNames self.lines hplans
  have herror := FieldEdits.of_error self.name self.fieldNames self.lines plans
  rw [hlines.fields] at herror
  simp only [rename, hself]
  exact ⟨⟨hframe.header, hframe.kind, hframe.closing⟩, hlines.then_change hedits, herror⟩

theorem perform_interleaved {block : Block} (h : block.Sound) {operation : BlockOperation}
    (honeLine : operation.OneLine) :
    block.SameFrame (block.perform operation).1 ∧
      Interleaved Line.Edit block.lines (block.perform operation).1.lines ∧
      (block.perform operation).2 = operation.failure block := by
  cases operation with
  | classify =>
      simp only [perform, classify]
      split
      · refine ⟨⟨rfl, rfl, rfl⟩, .of_forall₂ ?_, rfl⟩
        rw [List.forall₂_map_right_iff]
        exact List.forall₂_same.mpr fun _ _ => .classified
      · exact ⟨⟨rfl, rfl, rfl⟩, .of_forall₂ (List.forall₂_same.mpr fun _ _ => .kept), rfl⟩
  | insertMap name =>
      obtain ⟨lines, hinsert, hlines⟩ := insertMap_interleaved h honeLine
      simp only [perform, hinsert]
      refine ⟨⟨rfl, rfl, rfl⟩, hlines.then_change ?_, rfl⟩
      exact List.forall₂_same.mpr fun _ _ => ⟨.kept, fun _ => rfl⟩
  | appendMap index name =>
      have hedits := Line.forall₂_modify (fun _ => .mapped honeLine) block.lines index
      exact ⟨⟨rfl, rfl, rfl⟩, .of_forall₂ hedits, rfl⟩
  | rename plan fieldPlans => exact rename_interleaved h honeLine.1 honeLine.2
  | renameTypes newName? =>
      refine ⟨⟨rfl, rfl, rfl⟩, .of_forall₂ ?_, rfl⟩
      rw [perform, renameTypes, List.forall₂_map_right_iff]
      exact List.forall₂_same.mpr fun line _ => line.edit_renameType honeLine

theorem Sound.perform {block : Block} (h : block.Sound) {operation : BlockOperation}
    (honeLine : operation.OneLine) : (block.perform operation).1.Sound := by
  obtain ⟨-, hlines, -⟩ := perform_interleaved h honeLine
  exact ⟨hlines.ne_nil h.nonempty, hlines.sound h.lines⟩

theorem Sound.performAll {block : Block} (h : block.Sound) {operations : List BlockOperation}
    (honeLine : ∀ operation ∈ operations, operation.OneLine) :
    (block.performAll operations).Sound := by
  induction operations generalizing block with
  | nil => exact h
  | cons operation operations ih =>
      rw [List.forall_mem_cons] at honeLine
      exact ih (h.perform honeLine.1) honeLine.2

theorem sound_of_parse {text : Text} {document : Document} {block : Block}
    (hparse : Document.parse text = .ok document) (hblock : block ∈ document.blocks) :
    block.Sound := by
  obtain ⟨pieces, -, -, rfl⟩ := Document.parse_sound hparse
  obtain ⟨body, hlines⟩ := Piece.lines_of_mem_blocks hblock
  have hbody := Line.ofBody_isBody body
  rw [← hlines] at hbody
  refine ⟨hbody.ne_nil, fun line hline => ⟨hbody.oneLine line hline, fun hfield => ?_⟩⟩
  -- A line that was only cut out of its body is of no kind yet.
  rw [hlines] at hline
  rw [← Line.bare_of_mem_ofBody hline] at hfield
  cases hfield

/-- Each step of a sequence, after whatever other steps and whether or not it stops half way, keeps
the lines of a block that was read and leaves field lines whose parts make up their texts. It stops
only for a wrong number of plans. -/
theorem perform_keepsLines {text : Text} {document : Document} {block : Block}
    (hparse : Document.parse text = .ok document) (hblock : block ∈ document.blocks)
    {operations : List BlockOperation} {operation : BlockOperation}
    (honeLine : ∀ member ∈ operations ++ [operation], member.OneLine) :
    let before := block.performAll operations
    let after := (before.perform operation).1
    (∀ line ∈ after.lines, line.InStep) ∧ before.Edited after ∧
      (before.perform operation).2 = operation.failure before := by
  intro before after
  obtain ⟨hearlier, hlast⟩ := List.forall_mem_append.mp honeLine
  have honeLine := hlast operation List.mem_cons_self
  have hbefore : before.Sound := (sound_of_parse hparse hblock).performAll hearlier
  obtain ⟨hframe, hlines, hfailure⟩ := perform_interleaved hbefore honeLine
  refine ⟨fun line hline => ((hbefore.perform honeLine).lines line hline).inStep, ⟨hframe, ?_⟩,
    hfailure⟩
  exact hlines.sublistForall₂ fun _ _ hedit => ⟨hedit, hedit.terminator⟩

/-- A name is recorded in a line of no kind, the lines are told apart, and a rename gives one field
a name that is none and then lacks a plan for the other. -/
theorem perform_keepsLines_stopped :
    let header : Header := { keyword := "model".toList, name := ['a'] }
    let body := " b c // d\r\n  e f\n".toList
    let text := "model a \x7b b c // d\r\n  e f\n\x7d".toList
    let document := Piece.document text [.block header body]
    let block : Block := { header with kind := .model, lines := Line.ofBody body }
    let operations : List BlockOperation := [.appendMap 1 ['g'], .classify, .insertMap ['h'],
      .renameTypes fun _ => some ['i'], .classify]
    let operation : BlockOperation :=
      .rename ⟨['a'], ['j'], true⟩ [⟨['b'], "k // l".toList, true⟩]
    Document.parse text = .ok document ∧ block ∈ document.blocks ∧
      (∀ member ∈ operations ++ [operation], member.OneLine) ∧
      operation.failure (block.performAll operations) = some .fewerPlans ∧
      let before := block.performAll operations
      let after := (before.perform operation).1
      (∀ line ∈ after.lines, line.InStep) ∧ before.Edited after ∧
        (before.perform operation).2 = operation.failure before := by
  intro header body text document block operations operation
  have hparse : Document.parse text = .ok document := by decide +kernel
  have hblock : block ∈ document.blocks := by decide +kernel
  have honeLine : ∀ member ∈ operations ++ [operation], member.OneLine := by
    simp [operations, operation, BlockOperation.OneLine, Plan.OneLine]
  have hfailure : operation.failure (block.performAll operations) = some .fewerPlans := by
    decide +kernel
  exact ⟨hparse, hblock, honeLine, hfailure, perform_keepsLines hparse hblock honeLine⟩

end Block

end SchemaCase
