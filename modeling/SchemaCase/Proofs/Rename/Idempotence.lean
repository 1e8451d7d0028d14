import SchemaCase.Proofs.Rename.Outcome

/-! Migrating twice. Where the names that a migration gives are given again to whatever has them, a
second migration finds nothing to do: what could be renamed has its name, and what was refused a
name is refused it again. -/

namespace SchemaCase

namespace Plan

structure Precedes (plan following : Plan) : Prop where
  renamed : plan.changed → following.oldName = plan.newName → following.changed = false
  kept : following.oldName = plan.oldName → following = plan

theorem outcome_twice {taken : List Text} {plans following : List Plan}
    (hsteady : ∀ plan ∈ plans, plan.changed →
      ∀ other ∈ plans, other.oldName = plan.newName → other.changed = false)
    (htaken : ∀ name ∈ taken, name ∈ plans.map oldName)
    (hnames : following.map oldName = outcome taken plans)
    (hfollowing : List.Forall₂ Precedes plans following) :
    outcome (outcome taken plans) following = outcome taken plans := by
  have hsettles : List.Forall₂ (Settles ([] ++ outcome taken plans)) plans
      (outcome taken plans) :=
    outcome_settles hsteady htaken
  rw [List.nil_append, ← hnames, List.forall₂_map_right_iff, hnames] at hsettles
  rw [outcome_eq_oldNames, hnames]
  refine forall_right_of_forall₂ (hfollowing.mp (fun _ _ => And.intro) hsettles) ?_
  rintro plan next ⟨hprecedes, hsettled⟩ hchanged
  generalize hname : next.oldName = name at hsettled
  cases hsettled with
  | renamed hplan =>
      rw [hprecedes.renamed hplan hname] at hchanged
      cases hchanged
  | kept hblocked =>
      obtain rfl := hprecedes.kept hname
      exact hblocked hchanged

end Plan

/-- The names that `naming` gives to a schema are kept: by what they are given to, and by what had
them already. -/
structure Naming.Settled (naming : Naming) (document : Document) : Prop where
  blocks : ∀ block ∈ document.declarations, ∀ name,
    naming.blockRule block.kind block.name = some name →
      naming.blockRule block.kind name = some name
  contests : ∀ block ∈ document.declarations, ∀ other ∈ document.declarations,
    naming.blockRule block.kind block.name = some other.name →
      naming.blockRule other.kind other.name = some other.name
  fields : ∀ block ∈ document.declarations, ∀ field ∈ block.fieldNames, ∀ name,
    naming.fieldRule block.kind field = some name →
      naming.fieldRule block.kind name = some name

namespace Plan.Follows

theorem unchanged {rule : Text → Option Text} {name : Text} {plan : Plan}
    (h : plan.Follows rule name) (hrule : rule name = some name) : plan.changed = false := by
  rw [Bool.eq_false_iff]
  intro hchanged
  obtain ⟨hnew, -, hdiffers⟩ := h.changed hchanged
  rw [hrule, Option.some.injEq] at hnew
  exact hdiffers hnew.symm

end Plan.Follows

namespace Block

theorem namePlan_follows (naming : Naming) (block : Block) :
    (block.namePlan naming).Follows (naming.blockRule block.kind) block.name := by
  unfold namePlan
  split
  · exact (BlockPlan.propose_follows naming block).1
  · exact Plan.keep_follows _ _

theorem isDeclaration_of_namePlan {naming : Naming} {block : Block}
    (h : (block.namePlan naming).changed) : block.isDeclaration := by
  by_contra hdeclaration
  rw [namePlan, if_neg hdeclaration] at h
  cases h

theorem namePlan_congr (naming : Naming) {block other : Block} (hkind : other.kind = block.kind)
    (hname : other.name = block.name) : other.namePlan naming = block.namePlan naming := by
  have hpropose :
      (BlockPlan.propose naming other).name = (BlockPlan.propose naming block).name := by
    unfold BlockPlan.propose
    rw [hkind, hname]
    split <;> rfl
  rw [namePlan, namePlan, isDeclaration, isDeclaration, hkind, hname, hpropose]

end Block

namespace Naming.Settled

variable {naming : Naming} {document : Document} {block other : Block}

/-- What was renamed keeps its new name. -/
theorem renamed_unchanged (h : naming.Settled document) (hblock : block ∈ document.blocks)
    (hchanged : (block.namePlan naming).changed) (hkind : other.kind = block.kind)
    (hname : other.name = (block.namePlan naming).newName) :
    (other.namePlan naming).changed = false := by
  have hmem : block ∈ document.declarations :=
    List.mem_filter.mpr ⟨hblock, Block.isDeclaration_of_namePlan hchanged⟩
  obtain ⟨hrule, -, -⟩ := (block.namePlan_follows naming).changed hchanged
  apply (other.namePlan_follows naming).unchanged
  rw [hname, hkind]
  exact h.blocks block hmem _ hrule

/-- What has a name that another block is to have does not give it up. -/
theorem contested_unchanged (h : naming.Settled document) (hblock : block ∈ document.blocks)
    (hother : other ∈ document.blocks) (hchanged : (block.namePlan naming).changed)
    (hname : other.name = (block.namePlan naming).newName) :
    (other.namePlan naming).changed = false := by
  cases hdeclaration : other.isDeclaration with
  | false => simp [Block.namePlan, hdeclaration, Plan.keep]
  | true =>
      have hmem : block ∈ document.declarations :=
        List.mem_filter.mpr ⟨hblock, Block.isDeclaration_of_namePlan hchanged⟩
      obtain ⟨hrule, -, -⟩ := (block.namePlan_follows naming).changed hchanged
      apply (other.namePlan_follows naming).unchanged
      refine h.contests block hmem other (List.mem_filter.mpr ⟨hother, hdeclaration⟩) ?_
      rw [hrule, hname]

end Naming.Settled

theorem Document.Renames.named {naming : Naming} {before after : Document}
    (h : before.Renames naming after) :
    List.Forall₂ (Block.Renames naming) before.named after.named := by
  refine List.rel_filter ?_ h.blocks
  intro block renamed hrenamed
  simp only [hrenamed.kind]

/-- The names of blocks stay once they are settled. -/
theorem Document.Renames.names_twice {naming : Naming} {before middle after : Document}
    (hsettled : naming.Settled before) (hfirst : before.Renames naming middle)
    (hsecond : middle.Renames naming after) : after.takenNames = middle.takenNames := by
  rw [hsecond.names, hfirst.names]
  have hnamed : ∀ block ∈ before.named, block ∈ before.blocks :=
    fun block hblock => (List.mem_filter.mp hblock).1
  refine Plan.outcome_twice ?_ ?_ ?_ ?_
  · intro plan hplan hchanged other hother hname
    obtain ⟨block, hblock, rfl⟩ := List.mem_map.mp hplan
    obtain ⟨otherBlock, hotherBlock, rfl⟩ := List.mem_map.mp hother
    rw [Block.namePlan_oldName] at hname
    exact hsettled.contested_unchanged (hnamed block hblock) (hnamed otherBlock hotherBlock)
      hchanged hname
  · rw [Document.namePlans_oldNames]
    exact fun _ => id
  · rw [Document.namePlans_oldNames, hfirst.names]
  · rw [List.forall₂_map_left_iff, List.forall₂_map_right_iff]
    refine ((List.forall₂_and_left _ _).mpr ⟨hnamed, hfirst.named⟩).imp ?_
    rintro block renamed ⟨hblock, hrenames⟩
    constructor
    · intro hchanged hname
      rw [Block.namePlan_oldName] at hname
      exact hsettled.renamed_unchanged hblock hchanged hrenames.kind hname
    · intro hname
      rw [Block.namePlan_oldName, Block.namePlan_oldName] at hname
      exact Block.namePlan_congr naming hrenames.kind hname

namespace Naming

/-- What is planned for a field of a declaration. -/
def fieldPlan (naming : Naming) (kind : BlockKind) (name : Text) : Plan :=
  if kind = .model then .ofCandidate name (naming.field name) else .keep name

theorem fieldPlan_follows (naming : Naming) (kind : BlockKind) (name : Text) :
    (naming.fieldPlan kind name).Follows (naming.fieldRule kind) name := by
  unfold fieldPlan
  split
  · next hmodel => exact Plan.ofCandidate_follows (by rw [fieldRule, if_pos hmodel])
  · exact Plan.keep_follows _ _

theorem fieldPlan_precedes {naming : Naming} {kind : BlockKind} {name : Text}
    (hsettled : ∀ newName, naming.fieldRule kind name = some newName →
      naming.fieldRule kind newName = some newName) (next : Text) :
    (naming.fieldPlan kind name).Precedes (naming.fieldPlan kind next) := by
  have hfollows := naming.fieldPlan_follows kind next
  constructor
  · intro hchanged hname
    obtain ⟨hrule, -, -⟩ := (naming.fieldPlan_follows kind name).changed hchanged
    apply hfollows.unchanged
    rw [← hfollows.oldName, hname]
    exact hsettled _ hrule
  · intro hname
    rw [hfollows.oldName, (naming.fieldPlan_follows kind name).oldName] at hname
    rw [hname]

end Naming

theorem Block.Ready.fieldPlans {block : Block} (h : block.Ready) (naming : Naming) :
    (BlockPlan.propose naming block).fields =
      block.fieldNames.map (naming.fieldPlan block.kind) := by
  have hnames : block.fields.map (fun line => line.fieldName.getD []) = block.fieldNames := by
    have hsome := congrArg (List.map (·.getD [])) h.fieldNames
    simpa [Function.comp_def] using hsome
  rw [← hnames]
  unfold BlockPlan.propose Naming.fieldPlan
  split <;> simp [Function.comp_def, Resolution.ofCandidate]

theorem Plan.length_outcome (taken : List Text) (plans : List Plan) :
    (outcome taken plans).length = plans.length := by
  induction plans generalizing taken with
  | nil => rfl
  | cons plan plans ih =>
      rw [outcome]
      split <;> simp [ih]

theorem Block.Renames.fieldNames {naming : Naming} {before after : Block}
    (h : before.Renames naming after) (hdeclaration : before.isDeclaration)
    (hready : before.Ready) :
    after.fieldNames =
      Plan.outcome before.fieldNames (before.fieldNames.map (naming.fieldPlan before.kind)) := by
  have hnames := congrArg (List.filterMap id) (h.fields hdeclaration)
  rwa [List.filterMap_map, List.filterMap_map, hready.fieldPlans, Function.id_comp,
    Function.id_comp, List.filterMap_some] at hnames

/-- The names of fields stay once they are settled. -/
theorem Block.Renames.fields_twice {naming : Naming} {before middle after : Block}
    (hsettled : ∀ field ∈ before.fieldNames, ∀ name,
      naming.fieldRule before.kind field = some name →
        naming.fieldRule before.kind name = some name)
    (hdeclaration : before.isDeclaration) (hbefore : before.Ready) (hmiddle : middle.Ready)
    (hfirst : before.Renames naming middle) (hsecond : middle.Renames naming after) :
    after.fields.map (·.fieldName) = middle.fields.map (·.fieldName) := by
  have hnames := hfirst.fieldNames hdeclaration hbefore
  have holdNames : ∀ names : List Text,
      (names.map (naming.fieldPlan before.kind)).map Plan.oldName = names := by
    intro names
    rw [List.map_map]
    exact List.map_id'' (fun name => (naming.fieldPlan_follows before.kind name).oldName) names
  rw [hsecond.fields (by rwa [isDeclaration, hfirst.kind]), hmiddle.fieldNames, hmiddle.fieldPlans,
    hfirst.kind, hnames]
  congr 1
  refine Plan.outcome_twice ?_ ?_ (holdNames _) ?_
  · intro plan hplan hchanged other hother hname
    obtain ⟨field, hfield, rfl⟩ := List.mem_map.mp hplan
    obtain ⟨otherField, -, rfl⟩ := List.mem_map.mp hother
    exact (Naming.fieldPlan_precedes (hsettled field hfield) otherField).renamed hchanged hname
  · rw [holdNames]
    exact fun _ => id
  · rw [List.forall₂_map_left_iff, List.forall₂_map_right_iff, List.forall₂_iff_zip]
    refine ⟨by rw [Plan.length_outcome, List.length_map], fun hpair => ?_⟩
    exact Naming.fieldPlan_precedes (hsettled _ (List.of_mem_zip hpair).1) _

theorem Document.Renames.fields_twice {naming : Naming} {before middle after : Document}
    {text newText : Text} (hsettled : naming.Settled before)
    (hread : Document.read text = .ok before) (hreread : Document.read newText = .ok middle)
    (hfirst : before.Renames naming middle) (hsecond : middle.Renames naming after) :
    List.Forall₂ (fun block renamed => block.isDeclaration →
        renamed.fields.map (·.fieldName) = block.fields.map (·.fieldName))
      middle.blocks after.blocks := by
  have hsources : ∀ renamed ∈ middle.blocks,
      ∃ block ∈ before.blocks, block.Renames naming renamed :=
    forall_right_of_forall₂ ((List.forall₂_and_left _ _).mpr ⟨fun _ => id, hfirst.blocks⟩)
      fun block _ hblock => ⟨block, hblock⟩
  have hboth := fun renamed hrenamed => And.intro hrenamed (hsources renamed hrenamed)
  refine ((List.forall₂_and_left _ _).mpr ⟨hboth, hsecond.blocks⟩).imp ?_
  rintro renamed last ⟨⟨hrenamed, block, hblock, hrenames⟩, hlast⟩ hdeclaration
  have hbefore : block.isDeclaration := by rwa [Block.isDeclaration, ← hrenames.kind]
  refine Block.Renames.fields_twice
    (hsettled.fields block (List.mem_filter.mpr ⟨hblock, hbefore⟩)) hbefore
    (Document.block_ready hread hblock hbefore)
    (Document.block_ready hreread hrenamed hdeclaration) hrenames hlast

theorem Changes.records_of_fieldNames {rule newType? : Text → Option Text} {block : Text}
    {lines changed : List Line} {records : List Record}
    (h : Changes (LineChange rule newType? block) lines changed records)
    (hnames : (changed.filter Line.isField).map (·.fieldName) =
      (lines.filter Line.isField).map (·.fieldName)) : records = [] := by
  induction h with
  | nil => rfl
  | cons head tail ih =>
      cases head with
      | other hfield =>
          rw [List.filter_cons_of_neg (by simp [hfield]),
            List.filter_cons_of_neg (by simp [hfield])] at hnames
          exact ih hnames
      | kept hparts => exact ih (List.cons.inj hnames).2
      | renamed hparts hrule hidentifier hdiffers =>
          exact absurd (Option.some.inj (List.cons.inj hnames).1) hdiffers

theorem BlockChange.records_of_names {naming : Naming} {newType? : Text → Option Text}
    {block after : Block} {records : List Record}
    (h : BlockChange naming newType? block after records) (hname : after.name = block.name)
    (hfields : after.fields.map (·.fieldName) = block.fields.map (·.fieldName)) :
    records = [] := by
  cases h with
  | kept lines => exact lines.records_of_fieldNames hfields
  | renamed hrule hidentifier hdiffers hmap lines => exact absurd hname hdiffers
  | mapped hrule hidentifier hdiffers hmap lines insertion => exact absurd hname hdiffers

theorem Changes.records_of_names {naming : Naming} {newType? : Text → Option Text}
    {segments changed : List Segment} {records : List Record}
    (h : Changes (SegmentChange naming newType?) segments changed records)
    (hnames : Document.takenNames ⟨changed⟩ = Document.takenNames ⟨segments⟩)
    (hfields : List.Forall₂ (fun block after => block.isDeclaration →
        after.fields.map (·.fieldName) = block.fields.map (·.fieldName))
      (Document.blocks ⟨segments⟩) (Document.blocks ⟨changed⟩)) : records = [] := by
  rw [Document.takenNames_eq, Document.takenNames_eq] at hnames
  induction h with
  | nil => rfl
  | cons head tail ih =>
      cases head with
      | passthrough => exact ih hnames hfields
      | @other block hdeclaration =>
          refine ih ?_ (List.forall₂_cons.mp hfields).2
          cases hsettings : block.kind.isSettings with
          | true =>
              rwa [Document.named_cons_settings hsettings,
                Document.named_cons_settings hsettings] at hnames
          | false =>
              rw [Document.named_cons hsettings, Document.named_cons hsettings] at hnames
              exact (List.cons.inj hnames).2
      | declaration hdeclaration change =>
          obtain ⟨hblock, hrest⟩ := List.forall₂_cons.mp hfields
          have hsettings := BlockKind.isSettings_of_isDeclaration hdeclaration
          rw [Document.named_cons hsettings,
            Document.named_cons (by rwa [change.kind_eq])] at hnames
          obtain ⟨hname, hnames⟩ := List.cons.inj hnames
          rw [change.records_of_names hname (hblock hdeclaration), ih hnames hrest]
          rfl

/-- Without a record nothing but types can have changed. -/
theorem Changes.eq_of_noRecords {α : Type} {Change : α → α → List Record → Prop}
    {items changed : List α} (h : Changes Change items changed [])
    (hstep : ∀ item after, Change item after [] → after = item) : changed = items := by
  generalize hrecords : ([] : List Record) = records at h
  induction h with
  | nil => rfl
  | cons head tail ih =>
      obtain ⟨rfl, rfl⟩ := List.append_eq_nil_iff.mp hrecords.symm
      rw [hstep _ _ head, ih rfl]

theorem LineChange.eq_of_noRecords {rule : Text → Option Text} {block : Text} {line after : Line}
    (h : LineChange rule (fun _ => none) block line after []) : after = line := by
  cases h with
  | other hfield => rfl
  | kept hparts => rw [retype_none]

theorem BlockChange.eq_of_noRecords {naming : Naming} {block after : Block}
    (h : BlockChange naming (fun _ => none) block after []) : after = block := by
  cases h with
  | kept lines =>
      rw [lines.eq_of_noRecords fun _ _ => LineChange.eq_of_noRecords]

theorem SegmentChange.eq_of_noRecords {naming : Naming} {segment after : Segment}
    (h : SegmentChange naming (fun _ => none) segment after []) : after = segment := by
  cases h with
  | passthrough => rfl
  | other hdeclaration => rfl
  | declaration hdeclaration change =>
      rw [Block.typeRule_none] at change
      rw [change.eq_of_noRecords]

theorem referenceRule_nil (renameReferences : Bool) :
    referenceRule [] renameReferences = fun _ => none := by
  cases renameReferences <;> rfl

theorem Document.render_read {text : Text} {document : Document}
    (h : Document.read text = .ok document) : document.render = text := by
  obtain ⟨pieces, -, htext, rfl⟩ := Document.read_sound h
  rw [classify, render_mapBlocks fun block _ => block.classify_render, htext]
  exact Piece.render_segments _ 0 pieces

/-- Once the names of a schema are settled, a second migration changes nothing. -/
theorem migrate_settled {naming : Naming} {text : Text} {document : Document}
    (renameReferences : Bool) (hread : Document.read text = .ok document)
    (htotal : ∀ block, naming.refused? block = none) (hsettled : naming.Settled document) :
    ∃ migration, migrate naming renameReferences text = .ok migration ∧
      migrate naming renameReferences migration.text = .ok ⟨migration.text, []⟩ := by
  have hnaming : ∀ document : Document, document.blocks.findSome? naming.refused? = none :=
    fun document => List.findSome?_eq_none_iff.mpr fun block _ => htotal block
  obtain ⟨segments, records, middle, hmigrate, -, hsegments, hmiddle, hblocks⟩ :=
    migrate_renames renameReferences hread (hnaming document)
  have hfirst := hsegments.sameNames (hblocks.imp fun _ _ => Block.Rereads.sameNames)
  obtain ⟨final, more, -, hagain, hchanges, hsecond, -, -⟩ :=
    migrate_renames renameReferences hmiddle (hnaming middle)
  have hnames := hfirst.names_twice hsettled hsecond
  have hfields := hfirst.fields_twice hsettled hread hmiddle hsecond
  obtain rfl := hchanges.records_of_names hnames hfields
  rw [referenceRule_nil] at hchanges
  have hsame : final = middle.segments :=
    hchanges.eq_of_noRecords fun _ _ => SegmentChange.eq_of_noRecords
  refine ⟨_, hmigrate, ?_⟩
  rw [hagain, hsame, Document.render_read hmiddle]

/-- The name that functions for names give to a declaration; the number of an enum stays. -/
def BlockKind.nameBy (tableCase tableInflection : Text → Text) (kind : BlockKind) (name : Text) :
    Text :=
  tableCase (if kind = .model then tableInflection name else name)

theorem Naming.blockRule_ofNames (tableCase fieldCase tableInflection : Text → Text)
    (kind : BlockKind) (name : Text) :
    (ofNames tableCase fieldCase tableInflection).blockRule kind name =
      some (kind.nameBy tableCase tableInflection name) := by
  unfold blockRule BlockKind.nameBy
  split <;> simp [Value.name?]

theorem Naming.settled_ofNames {tableCase fieldCase tableInflection : Text → Text}
    {document : Document}
    (hblocks : ∀ block ∈ document.declarations,
      let name := block.kind.nameBy tableCase tableInflection block.name
      block.kind.nameBy tableCase tableInflection name = name)
    (hcontests : ∀ block ∈ document.declarations, ∀ other ∈ document.declarations,
      block.kind.nameBy tableCase tableInflection block.name = other.name →
        other.kind.nameBy tableCase tableInflection other.name = other.name)
    (hfields : ∀ block ∈ document.declarations, block.kind = .model →
      ∀ field ∈ block.fieldNames, fieldCase (fieldCase field) = fieldCase field) :
    (Naming.ofNames tableCase fieldCase tableInflection).Settled document := by
  constructor
  · intro block hblock name hname
    rw [blockRule_ofNames, Option.some.injEq] at hname ⊢
    rw [← hname]
    exact hblocks block hblock
  · intro block hblock other hother hname
    rw [blockRule_ofNames, Option.some.injEq] at hname ⊢
    exact hcontests block hblock other hother hname
  · intro block hblock field hfield name hname
    unfold fieldRule at hname ⊢
    split at hname
    · next hmodel =>
        simp only [field_ofNames, Value.name?, Option.some.injEq] at hname ⊢
        rw [if_pos hmodel, ← hname, hfields block hblock hmodel field hfield]
    · cases hname

/-- Where the functions for names keep the names that they give, migrating twice is migrating
once. -/
theorem migrate_idempotent {tableCase fieldCase tableInflection : Text → Text}
    (hfield : ∀ name, fieldCase (fieldCase name) = fieldCase name)
    (htable : ∀ name, tableCase (tableCase name) = tableCase name)
    (hinflection : ∀ name, tableCase (tableInflection (tableCase name)) = tableCase name)
    (renameReferences : Bool) {text : Text} {document : Document}
    (hread : Document.read text = .ok document) :
    ∃ migration,
      migrate (.ofNames tableCase fieldCase tableInflection) renameReferences text =
          .ok migration ∧
        migrate (.ofNames tableCase fieldCase tableInflection) renameReferences migration.text =
          .ok ⟨migration.text, []⟩ := by
  have hkeep : ∀ (kind : BlockKind) (name : Text),
      kind.nameBy tableCase tableInflection (tableCase name) = tableCase name := by
    intro kind name
    unfold BlockKind.nameBy
    split
    · exact hinflection name
    · exact htable name
  apply migrate_settled renameReferences hread (by simp)
  apply Naming.settled_ofNames
  · exact fun block _ => hkeep block.kind _
  · intro block _ other _ hname
    rw [← hname]
    exact hkeep other.kind _
  · exact fun block _ _ field _ => hfield field

/-- A model, an enum and a field are refused the names that others got, and one field would get a
name that is none. -/
theorem migrate_idempotent_refused :
    let tableCase : Text → Text := fun name => if name.head? = some 'z' then ['z'] else ['a']
    let fieldCase : Text → Text := fun name =>
      if name = ['e'] ∨ name = ['1'] then ['1'] else ['d']
    let first : Header := { keyword := "model".toList, name := ['b'] }
    let second : Header := { keyword := "model".toList, name := ['c'] }
    let third : Header := { keyword := "enum".toList, name := "zz".toList }
    let fourth : Header := { keyword := "enum".toList, name := "zzz".toList }
    let pieces : List Piece := [
      .block first "\n  e c\n  f b?\n  g zz // h\n".toList, .passthrough ['\n'],
      .block second " ".toList, .passthrough ['\n'], .block third " I".toList,
      .passthrough ['\n'], .block fourth " J".toList]
    let text := pieces.flatMap Piece.render
    (∀ name, fieldCase (fieldCase name) = fieldCase name) ∧
      (∀ name, tableCase (tableCase name) = tableCase name) ∧
      (∀ name, tableCase (tableCase name ++ ['s']) = tableCase name) ∧
      Document.read text = .ok (Piece.document text pieces).classify ∧
      ∃ migration,
        migrate (.ofNames tableCase fieldCase (· ++ ['s'])) true text = .ok migration ∧
          migrate (.ofNames tableCase fieldCase (· ++ ['s'])) true migration.text =
            .ok ⟨migration.text, []⟩ := by
  intro tableCase fieldCase first second third fourth pieces text
  have hfield : ∀ name, fieldCase (fieldCase name) = fieldCase name := by
    intro name
    simp only [fieldCase]
    split <;> rfl
  have htable : ∀ name, tableCase (tableCase name) = tableCase name := by
    intro name
    simp only [tableCase]
    split <;> rfl
  have hinflection : ∀ name, tableCase (tableCase name ++ ['s']) = tableCase name := by
    intro name
    simp only [tableCase]
    split <;> rfl
  have hread : Document.read text = .ok (Piece.document text pieces).classify := by decide +kernel
  exact ⟨hfield, htable, hinflection, hread,
    migrate_idempotent hfield htable hinflection true hread⟩

end SchemaCase
