import Mathlib.Data.List.Nodup
import SchemaCase.Proofs.Rename.Rereading

/-! The names that a migration leads to. Blocks and fields are renamed in the same way: one after
the other, and never to a name that is in use. -/

namespace SchemaCase

open Source

namespace Plan

/-- The names after plans were carried out; `taken` holds the names in use before. -/
def outcome (taken : List Text) : List Plan → List Text
  | [] => []
  | plan :: plans =>
      if plan.changed && !taken.contains plan.newName then
        plan.newName :: outcome (plan.newName :: taken.filter (· != plan.oldName)) plans
      else plan.oldName :: outcome taken plans

theorem outcome_cons_renamed {taken : List Text} {plan : Plan} (plans : List Plan)
    (hchanged : plan.changed) (hfree : plan.newName ∉ taken) :
    outcome taken (plan :: plans) =
      plan.newName :: outcome (plan.newName :: taken.filter (· != plan.oldName)) plans := by
  rw [outcome, if_pos (by simp [hchanged, hfree])]

theorem outcome_cons_kept {taken : List Text} {plan : Plan} (plans : List Plan)
    (h : plan.changed → plan.newName ∈ taken) :
    outcome taken (plan :: plans) = plan.oldName :: outcome taken plans := by
  rw [outcome, if_neg]
  simpa using h

/-- Names that are distinct stay distinct. `done` are the names of what comes before. -/
theorem outcome_nodup {done taken : List Text} {plans : List Plan}
    (hnodup : (done ++ plans.map oldName).Nodup)
    (htaken : ∀ name ∈ done ++ plans.map oldName, name ∈ taken) :
    (done ++ outcome taken plans).Nodup := by
  -- Every name that is held by anything, renamed or not, is in `taken` at each step.
  induction plans generalizing done taken with
  | nil => exact hnodup
  | cons plan plans ih =>
      rw [List.map_cons] at hnodup htaken
      by_cases hrenames : plan.changed ∧ plan.newName ∉ taken
      · obtain ⟨hold, hrest⟩ := List.nodup_cons.mp (List.nodup_middle.mp hnodup)
        have hothers : ∀ name ∈ done ++ plans.map oldName, name ∈ taken := by
          intro name hname
          apply htaken
          rw [List.mem_append] at hname ⊢
          exact hname.imp_right (List.mem_cons_of_mem _)
        rw [outcome_cons_renamed plans hrenames.1 hrenames.2, List.append_cons]
        apply ih
        · rw [← List.append_cons, List.nodup_middle, List.nodup_cons]
          exact ⟨fun hmem => hrenames.2 (hothers _ hmem), hrest⟩
        · intro name hname
          rw [← List.append_cons] at hname
          rcases List.mem_cons.mp (List.perm_middle.mem_iff.mp hname) with rfl | hname
          · exact List.mem_cons_self
          · have hdiffers : name ≠ plan.oldName := fun heq => hold (heq ▸ hname)
            exact List.mem_cons_of_mem _ (by simp [hothers name hname, hdiffers])
      · rw [outcome_cons_kept plans (by simpa using hrenames), List.append_cons]
        apply ih
        · rwa [← List.append_cons]
        · rwa [← List.append_cons]

/-- What came of a plan, where `names` are all names in the end. -/
inductive Settles (names : List Text) (plan : Plan) : Text → Prop
  | renamed (changed : plan.changed) : Settles names plan plan.newName
  | kept (blocked : plan.changed → plan.newName ∈ names) : Settles names plan plan.oldName

theorem oldName_mem_outcome {plans : List Plan} {plan : Plan} (taken : List Text)
    (hplan : plan ∈ plans) (hchanged : plan.changed = false) :
    plan.oldName ∈ outcome taken plans := by
  induction plans generalizing taken with
  | nil => cases hplan
  | cons head plans ih =>
      rcases List.mem_cons.mp hplan with rfl | hplan
      · rw [outcome_cons_kept plans (by simp [hchanged])]
        exact List.mem_cons_self
      · rw [outcome]
        split <;> exact List.mem_cons_of_mem _ (ih _ hplan)

/-- One plan is carried out. What is in use stays the name of something: of what comes before
(`done`, and now also the first) or of what is still to come. -/
theorem exists_outcome_cons {done taken : List Text} {plan : Plan} {plans : List Plan}
    (htaken : ∀ name ∈ taken, name ∈ done ++ (plan :: plans).map oldName) :
    ∃ name rest, outcome taken (plan :: plans) = name :: outcome rest plans ∧
      (∀ other ∈ rest, other ∈ (done ++ [name]) ++ plans.map oldName) ∧
      (plan.changed ∧ name = plan.newName ∨
        (plan.changed → plan.newName ∈ taken) ∧ name = plan.oldName) := by
  by_cases hrenames : plan.changed ∧ plan.newName ∉ taken
  · refine ⟨_, _, outcome_cons_renamed plans hrenames.1 hrenames.2, ?_, .inl ⟨hrenames.1, rfl⟩⟩
    intro name hname
    rw [← List.append_cons, List.perm_middle.mem_iff, List.mem_cons]
    refine (List.mem_cons.mp hname).imp_right fun hname => ?_
    obtain ⟨hmem, hdiffers⟩ := List.mem_filter.mp hname
    have hmiddle := List.perm_middle.mem_iff.mp (htaken name hmem)
    exact (List.mem_cons.mp hmiddle).resolve_left (by simpa using hdiffers)
  · have hblocked : plan.changed → plan.newName ∈ taken := by simpa using hrenames
    refine ⟨_, _, outcome_cons_kept plans hblocked, ?_, .inr ⟨hblocked, rfl⟩⟩
    rwa [← List.append_cons]

/-- Where no plan gives up a name that another one is after, a plan is left undone only for a name
that is in use in the end. -/
theorem outcome_settles {done taken : List Text} {plans : List Plan}
    (hsteady : ∀ plan ∈ plans, plan.changed →
      ∀ other ∈ plans, other.oldName = plan.newName → other.changed = false)
    (htaken : ∀ name ∈ taken, name ∈ done ++ plans.map oldName) :
    List.Forall₂ (Settles (done ++ outcome taken plans)) plans (outcome taken plans) := by
  induction plans generalizing done taken with
  | nil => exact .nil
  | cons plan plans ih =>
      have hrest : ∀ member ∈ plans, member.changed →
          ∀ other ∈ plans, other.oldName = member.newName → other.changed = false := by
        intro member hmember hchanged other hother
        exact hsteady member (List.mem_cons_of_mem _ hmember) hchanged other
          (List.mem_cons_of_mem _ hother)
      obtain ⟨name, rest, houtcome, hused, hname⟩ := exists_outcome_cons htaken
      rw [houtcome, List.append_cons]
      refine .cons ?_ (ih hrest hused)
      rcases hname with ⟨hchanged, rfl⟩ | ⟨hblocked, rfl⟩
      · exact .renamed hchanged
      · refine .kept fun hchanged => ?_
        rw [← List.append_cons, List.mem_append]
        refine (List.mem_append.mp (htaken _ (hblocked hchanged))).imp_right fun hlater => ?_
        obtain ⟨other, hother, hname⟩ := List.mem_map.mp hlater
        have hstays := hsteady plan List.mem_cons_self hchanged other hother hname
        rw [← hname, ← houtcome]
        exact oldName_mem_outcome taken hother hstays

/-- Plans whose new names are all in use change nothing. -/
theorem outcome_eq_oldNames {taken : List Text} {plans : List Plan}
    (h : ∀ plan ∈ plans, plan.changed → plan.newName ∈ taken) :
    outcome taken plans = plans.map oldName := by
  induction plans with
  | nil => rfl
  | cons plan plans ih =>
      rw [List.forall_mem_cons] at h
      rw [outcome_cons_kept plans h.1, List.map_cons, ih h.2]

end Plan

@[simp] theorem Line.rebuild_fieldName (line : Line) : line.rebuild.fieldName = line.fieldName := by
  unfold rebuild
  split <;> rfl

@[simp] theorem Line.rebuild_isField (line : Line) : line.rebuild.isField = line.isField := by
  unfold rebuild
  split <;> rfl

theorem Line.rename_fieldName (line : Line) (oldName newName : Text) :
    (line.rename oldName newName).fieldName = some newName := by
  unfold rename
  split
  · exact rebuild_fieldName _
  · exact rebuild_fieldName _

theorem Line.rename_isField (line : Line) (oldName newName : Text) :
    (line.rename oldName newName).isField = line.isField := by
  unfold rename
  split
  · exact rebuild_isField _
  · exact rebuild_isField _

/-- A step for a field line gives it the first name of the outcome and goes on with the others. -/
theorem FieldStep.of_outcome {line : Line} {plan : Plan} (block : Text) (taken : List Text)
    (plans : List Plan) (hname : line.fieldName = some plan.oldName) :
    let step := FieldStep.of block taken line plan
    step.line.isField = line.isField ∧
      ∃ name, step.line.fieldName = some name ∧
        Plan.outcome taken (plan :: plans) = name :: Plan.outcome step.taken plans := by
  unfold FieldStep.of
  split
  · next hkeep =>
      exact ⟨rfl, _, hname, Plan.outcome_cons_kept plans (by simp_all)⟩
  · next hchanged =>
      split
      · next htaken =>
          exact ⟨rfl, _, hname, Plan.outcome_cons_kept plans fun _ => by simpa using htaken⟩
      · next hfree =>
          refine ⟨line.rename_isField _ _, _, line.rename_fieldName _ _, ?_⟩
          exact Plan.outcome_cons_renamed plans (by simpa using hchanged) (by simpa using hfree)

theorem FieldEdits.of_fieldNames {lines : List Line} {plans : List Plan} (block : Text)
    (taken : List Text)
    (hplans : List.Forall₂ (fun line plan => line.fieldName = some plan.oldName)
      (lines.filter Line.isField) plans) :
    ((FieldEdits.of block taken lines plans).lines.filter Line.isField).map (·.fieldName) =
      (Plan.outcome taken plans).map some := by
  induction lines generalizing taken plans with
  | nil =>
      cases hplans
      rfl
  | cons line lines ih =>
      cases hfield : line.isField with
      | false =>
          rw [List.filter_cons_of_neg (by simp [hfield])] at hplans
          simp only [FieldEdits.of, hfield, FieldEdits.cons, Bool.false_eq_true, if_false]
          rw [List.filter_cons_of_neg (by simp [hfield])]
          exact ih taken hplans
      | true =>
          rw [List.filter_cons_of_pos hfield] at hplans
          cases hplans with
          | @cons _ plan _ plans hname hplans =>
              obtain ⟨hstep, name, hnewName, houtcome⟩ :=
                FieldStep.of_outcome block taken plans hname
              simp only [FieldEdits.of, hfield, FieldEdits.cons, if_true]
              rw [List.filter_cons_of_pos (hstep.trans hfield), List.map_cons, ih _ hplans,
                houtcome, List.map_cons, hnewName]

namespace Block

theorem Ready.fieldName {block : Block} (h : block.Ready) :
    ∀ line ∈ block.fields, line.fieldName = some (line.fieldName.getD []) := by
  intro line hline
  obtain ⟨hmem, hfield⟩ := List.mem_filter.mp hline
  obtain ⟨parts, terminator, literal, -, rfl⟩ := h.hasParts line hmem hfield
  rfl

theorem Ready.fieldNames {block : Block} (h : block.Ready) :
    block.fields.map (·.fieldName) = block.fieldNames.map some := by
  unfold Block.fieldNames
  have hnames := h.fieldName
  revert hnames
  induction block.fields with
  | nil => exact fun _ => rfl
  | cons line lines ih =>
      intro hnames
      rw [List.forall_mem_cons] at hnames
      rw [List.filterMap_cons_some hnames.1, List.map_cons, List.map_cons, ih hnames.2]
      exact congrArg (· :: _) hnames.1

/-- Renaming a block leaves its fields to their own plans. -/
theorem renameSelf_spec {block : Block} (h : block.Ready) (plan : Plan) :
    ∃ self records events,
      block.renameSelf plan = ⟨self, records, events, none⟩ ∧ self.kind = block.kind ∧
        self.fields = block.fields ∧
        self.name = (if plan.changed then plan.newName else block.name) ∧
        records = if plan.changed then
          [⟨.ofBlockKind block.kind, plan.newName, plan.oldName, plan.newName,
            (block.findAttribute? "map".toList).isNone⟩] else [] := by
  cases hchanged : plan.changed with
  | false =>
      refine ⟨block, [], [], ?_, rfl, rfl, rfl, rfl⟩
      simp [renameSelf, hchanged]
  | true =>
      cases hmap : block.findAttribute? "map".toList with
      | some line =>
          have hself : block.renameSelf plan =
              ⟨{ block with name := plan.newName },
                [⟨.ofBlockKind block.kind, plan.newName, plan.oldName, plan.newName, false⟩],
                [.blockRenamed block.keyword plan.oldName plan.newName], none⟩ := by
            simp only [renameSelf, hchanged, hmap]
            rfl
          exact ⟨_, _, _, hself, rfl, rfl, rfl, rfl⟩
      | none =>
          obtain ⟨top, below, hinsert, hfield, hcases⟩ := insertMap_cases h plan.oldName
          have hself : block.renameSelf plan =
              ⟨{ block with
                  name := plan.newName
                  lines := top :: block.mapLine plan.oldName :: below },
                [⟨.ofBlockKind block.kind, plan.newName, plan.oldName, plan.newName, true⟩],
                [.blockRenamed block.keyword plan.oldName plan.newName], none⟩ := by
            simp only [renameSelf, hchanged, hmap, Option.isNone_none, if_true, hinsert]
          refine ⟨_, _, _, hself, rfl, ?_, rfl, rfl⟩
          rcases hcases with ⟨hcons, -⟩ | ⟨-, rfl⟩
          · simp [fields, hcons, hfield]
          · simp [fields, hfield]

theorem rename_spec {block : Block} (h : block.Ready) (plan : Plan) {plans : List Plan}
    (hplans : List.Forall₂ (fun line plan => plan.oldName = line.fieldName.getD [])
      block.fields plans) :
    let edited := (block.rename plan plans).block
    edited.kind = block.kind ∧
      edited.name = (if plan.changed then plan.newName else block.name) ∧
      edited.fields.map (·.fieldName) = (Plan.outcome block.fieldNames plans).map some := by
  obtain ⟨self, records, events, hself, hkind, hfields, hname, -⟩ := renameSelf_spec h plan
  have hnames : List.Forall₂ (fun line plan => line.fieldName = some plan.oldName)
      self.fields plans := by
    rw [hfields]
    refine ((List.forall₂_and_left _ _).mpr ⟨h.fieldName, hplans⟩).imp ?_
    rintro line plan ⟨hsome, hold⟩
    rw [hsome, hold]
  have houtcome := FieldEdits.of_fieldNames self.name self.fieldNames hnames
  have hrename : (block.rename plan plans).block = (self.renameFields plans).block := by
    rw [rename, hself]
  have hfieldNames : self.fieldNames = block.fieldNames := by
    rw [fieldNames, hfields]
    rfl
  rw [hrename, ← hfieldNames]
  exact ⟨hkind, hname, houtcome⟩

/-- What is planned for the name of a block; only declarations are renamed. -/
def namePlan (naming : Naming) (block : Block) : Plan :=
  if block.isDeclaration then (BlockPlan.propose naming block).name else .keep block.name

theorem namePlan_oldName (naming : Naming) (block : Block) :
    (block.namePlan naming).oldName = block.name := by
  unfold namePlan
  split
  · exact (BlockPlan.propose_follows naming block).1.oldName
  · rfl

structure Renames (naming : Naming) (before after : Block) : Prop where
  kind : after.kind = before.kind
  fields : before.isDeclaration → after.fields.map (·.fieldName) =
    (Plan.outcome before.fieldNames (BlockPlan.propose naming before).fields).map some

end Block

namespace Document

def named (document : Document) : List Block :=
  document.blocks.filter fun block => !block.kind.isSettings

theorem named_cons {block : Block} (h : block.kind.isSettings = false) (rest : List Segment) :
    named ⟨.block block :: rest⟩ = block :: named ⟨rest⟩ :=
  List.filter_cons_of_pos (by simp [h])

theorem named_cons_settings {block : Block} (h : block.kind.isSettings) (rest : List Segment) :
    named ⟨.block block :: rest⟩ = named ⟨rest⟩ :=
  List.filter_cons_of_neg (by simp [h])

theorem takenNames_eq (document : Document) : document.takenNames = document.named.map (·.name) :=
  rfl

structure Renames (naming : Naming) (before after : Document) : Prop where
  blocks : List.Forall₂ (Block.Renames naming) before.blocks after.blocks
  names : after.takenNames =
    Plan.outcome before.takenNames (before.named.map (Block.namePlan naming))

end Document

theorem BlockKind.isSettings_of_isDeclaration {kind : BlockKind} (h : kind.isDeclaration) :
    kind.isSettings = false := by
  cases kind <;> first | rfl | cases h

theorem BlockPlan.settle_outcome {block : Block} {plan : BlockPlan} (taken : List Text)
    (plans : List Plan) (hname : plan.name.oldName = block.name) :
    let settled := plan.settle taken block
    Plan.outcome taken (plan.name :: plans) =
      (if settled.name.changed then settled.name.newName else block.name) ::
        Plan.outcome (settled.takenAfter taken) plans := by
  by_cases hrenames : plan.name.changed ∧ plan.name.newName ∉ taken
  · rw [Plan.outcome_cons_renamed plans hrenames.1 hrenames.2]
    simp [settle, takenAfter, hrenames]
  · rw [Plan.outcome_cons_kept plans (by simpa using hrenames), hname]
    cases hchanged : plan.name.changed with
    | false => simp [settle, takenAfter, hchanged]
    | true =>
        have htaken : plan.name.newName ∈ taken := by simpa [hchanged] using hrenames
        simp [settle, takenAfter, hchanged, htaken, Plan.keep]

theorem BlockPlan.propose_oldNames {block : Block} (naming : Naming) (h : block.Ready) :
    (propose naming block).fields.map Plan.oldName = block.fieldNames := by
  have hfollows := (propose_follows naming block).2
  have hnames := (List.forall₂_and_left _ _).mpr ⟨h.fieldName, hfollows⟩
  apply List.map_injective_iff.mpr (Option.some_injective Text)
  rw [← h.fieldNames, List.map_map]
  refine map_eq_of_forall₂ hnames ?_
  rintro line plan ⟨hsome, hplan⟩
  rw [hsome, ← hplan.oldName]
  rfl

theorem Document.namePlans_oldNames (naming : Naming) (document : Document) :
    (document.named.map (Block.namePlan naming)).map Plan.oldName = document.takenNames := by
  rw [List.map_map, Document.takenNames_eq]
  exact List.map_congr_left fun block _ => block.namePlan_oldName naming

theorem PlannedSegment.apply_renames {naming : Naming} {taken : List Text} {block : Block}
    {edited : EditedSegment} (hready : block.Ready)
    (h : PlannedSegment.apply
      ⟨.block block, some ((BlockPlan.propose naming block).settle taken block)⟩ = .ok edited) :
    let plan := (BlockPlan.propose naming block).settle taken block
    ∃ after, edited.segment = .block after ∧ block.Renames naming after ∧
      after.name = if plan.name.changed then plan.name.newName else block.name := by
  intro plan
  have hsame : plan.fields = (BlockPlan.propose naming block).fields :=
    BlockPlan.settle_fields taken block _
  have hplans : List.Forall₂ (fun line plan => plan.oldName = line.fieldName.getD [])
      block.fields plan.fields := by
    rw [hsame]
    exact (BlockPlan.propose_follows naming block).2.imp fun _ _ hfollows => hfollows.oldName
  obtain ⟨hkind, hname, hfields⟩ := Block.rename_spec hready plan.name hplans
  refine ⟨(block.rename plan.name plan.fields).block, ?_, ⟨hkind, fun _ => ?_⟩, hname⟩
  · simp only [apply] at h
    split at h
    · cases h
    · cases h
      rfl
  · rw [← hsame]
    exact hfields

theorem planSegments_renames {naming : Naming} {taken : List Text} {segments : List Segment}
    {edited : List EditedSegment} (hready : ∀ segment ∈ segments, segment.Ready)
    (h : List.Forall₂ (fun planned edited => planned.apply = .ok edited)
      (planSegments naming taken segments) edited) :
    List.Forall₂ (Block.Renames naming) (Document.blocks ⟨segments⟩)
        (Document.blocks ⟨edited.map (·.segment)⟩) ∧
      Document.takenNames ⟨edited.map (·.segment)⟩ =
        Plan.outcome taken ((Document.named ⟨segments⟩).map (Block.namePlan naming)) := by
  induction segments generalizing taken edited with
  | nil =>
      cases h
      exact ⟨.nil, rfl⟩
  | cons segment segments ih =>
      rw [List.forall_mem_cons] at hready
      cases segment with
      | passthrough text =>
          cases h with
          | cons happly hrest =>
              cases happly
              obtain ⟨hblocks, hnames⟩ := ih hready.2 hrest
              exact ⟨hblocks, hnames⟩
      | block block =>
          cases hdeclaration : block.isDeclaration with
          | false =>
              rw [planSegments, hdeclaration] at h
              cases h with
              | cons happly hrest =>
                  cases happly
                  obtain ⟨hblocks, hnames⟩ := ih hready.2 hrest
                  refine ⟨.cons ⟨rfl, by simp [hdeclaration]⟩ hblocks, ?_⟩
                  rw [Document.takenNames_eq] at hnames ⊢
                  rw [List.map_cons]
                  cases hsettings : block.kind.isSettings with
                  | true =>
                      rwa [Document.named_cons_settings hsettings,
                        Document.named_cons_settings hsettings]
                  | false =>
                      have hkeep : block.namePlan naming = .keep block.name := by
                        simp [Block.namePlan, hdeclaration]
                      rw [Document.named_cons hsettings, Document.named_cons hsettings,
                        List.map_cons, List.map_cons, hkeep,
                        Plan.outcome_cons_kept _ (by simp [Plan.keep]), hnames]
                      rfl
          | true =>
              rw [planSegments, hdeclaration, if_pos rfl] at h
              cases h with
              | cons happly hrest =>
                  obtain ⟨after, hsegment, hrenames, hname⟩ :=
                    PlannedSegment.apply_renames (hready.1.2.2 hdeclaration) happly
                  obtain ⟨hblocks, hnames⟩ := ih hready.2 hrest
                  have hsettings := BlockKind.isSettings_of_isDeclaration hdeclaration
                  have hplan : block.namePlan naming = (BlockPlan.propose naming block).name := by
                    rw [Block.namePlan, if_pos hdeclaration]
                  have hold := (BlockPlan.propose_follows naming block).1.oldName
                  rw [Document.takenNames_eq] at hnames ⊢
                  rw [List.map_cons, hsegment]
                  refine ⟨.cons hrenames hblocks, ?_⟩
                  rw [Document.named_cons hsettings, Document.named_cons (by rwa [hrenames.kind]),
                    List.map_cons, List.map_cons, hplan, BlockPlan.settle_outcome taken _ hold,
                    hnames, hname]

structure Block.SameNames (block other : Block) : Prop where
  kind : other.kind = block.kind
  name : other.name = block.name
  fields : block.isDeclaration → other.fields.map (·.fieldName) = block.fields.map (·.fieldName)

theorem Document.Renames.sameNames {naming : Naming} {before after other : Document}
    (h : before.Renames naming after)
    (hother : List.Forall₂ Block.SameNames after.blocks other.blocks) :
    before.Renames naming other := by
  constructor
  · refine forall₂_compose h.blocks hother fun block renamed last hrenames hlast => ?_
    refine ⟨hlast.kind.trans hrenames.kind, fun hdeclaration => ?_⟩
    rw [hlast.fields (by rwa [Block.isDeclaration, hrenames.kind]), hrenames.fields hdeclaration]
  · have hnamed : List.Forall₂ Block.SameNames after.named other.named := by
      refine List.rel_filter ?_ hother
      intro block last hlast
      simp only [hlast.kind]
    rw [← h.names]
    exact map_eq_of_forall₂ hnamed fun _ _ hlast => hlast.name

theorem Line.renameType_fieldName (newType? : Text → Option Text) (line : Line) :
    ((line.renameType? newType?).getD line).fieldName = line.fieldName ∧
      ((line.renameType? newType?).getD line).isField = line.isField := by
  unfold renameType?
  split
  · cases hread : Text.readName? line.rest with
    | none => simp
    | some found => cases hnew : newType? found.1 <;> simp [hnew]; simp [isField]
  · exact ⟨rfl, rfl⟩

theorem Block.renameTypesOfModel_sameNames (newType? : Text → Option Text) (block : Block) :
    block.SameNames (block.renameTypesOfModel newType?) := by
  unfold renameTypesOfModel
  split
  · have hfields : (fun line : Line => ((line.renameType? newType?).getD line).isField) =
        Line.isField := funext fun line => (line.renameType_fieldName newType?).2
    have hnames : (fun line : Line => ((line.renameType? newType?).getD line).fieldName) =
        (·.fieldName) := funext fun line => (line.renameType_fieldName newType?).1
    refine ⟨rfl, rfl, fun _ => ?_⟩
    simp only [fields, renameTypes, List.filter_map, List.map_map, Function.comp_def, hfields,
      hnames]
  · exact ⟨rfl, rfl, fun _ => rfl⟩

theorem Document.retype_sameNames (newType? : Text → Option Text) (document : Document) :
    List.Forall₂ Block.SameNames document.blocks
      (document.mapBlocks (Block.renameTypesOfModel newType?)).blocks := by
  have hblocks : (document.mapBlocks (Block.renameTypesOfModel newType?)).blocks =
      document.blocks.map (Block.renameTypesOfModel newType?) := by
    simp only [blocks, mapBlocks, List.filterMap_map, List.map_filterMap]
    apply List.filterMap_congr
    intro segment _
    cases segment <;> rfl
  rw [hblocks, List.forall₂_map_right_iff]
  exact List.forall₂_same.mpr fun block _ => block.renameTypesOfModel_sameNames newType?

theorem Block.Rereads.fields {block read : Block} (h : block.Rereads read)
    (hdeclaration : block.isDeclaration) :
    List.Forall₂ Line.SameParts block.fields read.fields := by
  refine List.rel_filter ?_ (h.lines hdeclaration)
  rintro line _ ⟨literal, rfl⟩
  exact Iff.rfl

theorem Block.Rereads.sameNames {block read : Block} (h : block.Rereads read) :
    block.SameNames read := by
  refine ⟨h.kind, congrArg Header.name h.header, fun hdeclaration => ?_⟩
  refine map_eq_of_forall₂ (h.fields hdeclaration) ?_
  rintro line _ ⟨literal, rfl⟩
  rfl

theorem Document.Renames.declarations {naming : Naming} {before after : Document}
    (h : before.Renames naming after) :
    List.Forall₂ (Block.Renames naming) before.declarations after.declarations := by
  refine List.rel_filter ?_ h.blocks
  intro block renamed hrenamed
  simp only [Block.isDeclaration, hrenamed.kind]

theorem Document.block_ready {text : Text} {document : Document} {block : Block}
    (hread : Document.read text = .ok document) (hblock : block ∈ document.blocks)
    (hdeclaration : block.isDeclaration) : block.Ready := by
  obtain ⟨segment, hsegment, hcontent⟩ := List.mem_filterMap.mp hblock
  cases segment with
  | passthrough content => cases hcontent
  | block content =>
      cases hcontent
      exact (Document.ready_of_read hread _ hsegment).2.2 hdeclaration

theorem Document.declarations_ready {text : Text} {document : Document}
    (hread : Document.read text = .ok document) : ∀ block ∈ document.declarations, block.Ready := by
  intro block hblock
  obtain ⟨hmem, hdeclaration⟩ := List.mem_filter.mp hblock
  exact block_ready hread hmem hdeclaration

/-- What a migration leaves: how its segments change, which names they have in the end, and how
they are read again. -/
theorem migrate_renames {naming : Naming} {text : Text} {document : Document}
    (renameReferences : Bool) (hread : Document.read text = .ok document)
    (hnaming : document.blocks.findSome? naming.refused? = none) :
    ∃ segments records after,
      migrate naming renameReferences text = .ok ⟨Document.render ⟨segments⟩, records⟩ ∧
        Changes (SegmentChange naming (referenceRule records renameReferences))
          document.segments segments records ∧
        document.Renames naming ⟨segments⟩ ∧
        Document.read (Document.render ⟨segments⟩) = .ok after ∧
        List.Forall₂ Block.Rereads (Document.blocks ⟨segments⟩) after.blocks := by
  have hready := Document.ready_of_read hread
  obtain ⟨edited, hedited, hchanges⟩ := planSegments_changes naming document.takenNames hready
  obtain ⟨hblocks, hnames⟩ := planSegments_renames hready (mapM_eq_ok_iff.mp hedited)
  have hretyped := hchanges.map
    (Segment.mapBlock (Block.renameTypesOfModel
      (referenceRule (edited.flatMap (·.records)) renameReferences)))
    fun _ _ _ _ change => change.retype _
  have hnew := referenceRule_names
    (hchanges.forall_records fun _ _ _ change => change.identifier) renameReferences
  refine ⟨_, _, _, migrate_edited renameReferences hread hnaming hedited, hretyped, ?_,
    hretyped.read_render hnew hread, hretyped.rereads hnew hready _ 0⟩
  exact Document.Renames.sameNames ⟨hblocks, hnames⟩ (Document.retype_sameNames _ _)

end SchemaCase
