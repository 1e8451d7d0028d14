import SchemaCase.Proofs.Rename.Capture

/-! Why a name stays. Renaming goes through the names in order and refuses a name that is in use at
that moment, so a name can be refused for the sake of one that comes later and gives it up. -/

namespace SchemaCase

/-- What keeps the name at `place` from becoming `candidate`, where `names` become `newNames`. -/
inductive Clashes (names newNames : List Text) (place : Nat) (candidate : Text) : Prop
  /-- Another one has the name in the end. -/
  | inUse {other : Nat} (elsewhere : other ≠ place) (held : newNames[other]? = some candidate)
  /-- A later one has the name at first, and is renamed itself. -/
  | givenUp {later : Nat} {newName : Text} (after : place < later)
      (held : names[later]? = some candidate) (renamed : newNames[later]? = some newName)
      (differs : newName ≠ candidate)

/-- Some of `items` have a candidate for their new name. An item keeps its name only if its
candidate is that name or no identifier, or for a clash. -/
structure SkipsOnlyClashes {α : Type} (name : α → Text) (candidate? : α → Option Text)
    (items : List α) (newNames : List Text) : Prop where
  length_eq : newNames.length = items.length
  clashes : ∀ {place : Nat} {item : α} {candidate : Text}, items[place]? = some item →
    candidate? item = some candidate → newNames[place]? = some (name item) →
    isIdentifier candidate → candidate ≠ name item →
      Clashes (items.map name) newNames place candidate

namespace Plan

/-- A plan that is left undone: its new name is in use in the end, by what comes before (`done`) or
by one of the others, or a later one had it. -/
theorem outcome_blocked {done taken : List Text} {plans : List Plan} {place : Nat} {plan : Plan}
    (htaken : ∀ name ∈ taken, name ∈ done ++ plans.map oldName) (hplan : plans[place]? = some plan)
    (hkept : (outcome taken plans)[place]? = some plan.oldName) (hchanged : plan.changed)
    (hdiffers : plan.newName ≠ plan.oldName) :
    plan.newName ∈ done ++ outcome taken plans ∨
      ∃ later, place < later ∧ (plans.map oldName)[later]? = some plan.newName := by
  induction plans generalizing done taken place with
  | nil => cases hplan
  | cons head plans ih =>
      obtain ⟨name, rest, houtcome, hused, hname⟩ := exists_outcome_cons htaken
      rw [houtcome] at hkept ⊢
      cases place with
      | zero =>
          cases hplan
          cases hkept
          rcases hname with ⟨-, hsame⟩ | ⟨hblocked, -⟩
          · exact absurd hsame.symm hdiffers
          · rcases List.mem_append.mp (htaken _ (hblocked hchanged)) with hdone | hlater
            · exact .inl (List.mem_append_left _ hdone)
            · have hlater := (List.mem_cons.mp hlater).resolve_left hdiffers
              obtain ⟨later, hheld⟩ := List.mem_iff_getElem?.mp hlater
              exact .inr ⟨later + 1, later.succ_pos, hheld⟩
      | succ place =>
          rw [List.append_cons]
          refine (ih hused hplan hkept).imp_right ?_
          rintro ⟨later, hafter, hheld⟩
          exact ⟨later + 1, Nat.succ_lt_succ hafter, hheld⟩

theorem outcome_clashes {names : List Text} {plans : List Plan} {place : Nat} {plan : Plan}
    (hnames : plans.map oldName = names) (hplan : plans[place]? = some plan)
    (hkept : (outcome names plans)[place]? = some plan.oldName) (hchanged : plan.changed)
    (hdiffers : plan.newName ≠ plan.oldName) :
    Clashes names (outcome names plans) place plan.newName := by
  have htaken : ∀ name ∈ names, name ∈ [] ++ plans.map oldName := by simp [hnames]
  have hinUse : plan.newName ∈ outcome names plans →
      Clashes names (outcome names plans) place plan.newName := by
    intro hmem
    obtain ⟨other, hheld⟩ := List.mem_iff_getElem?.mp hmem
    refine .inUse ?_ hheld
    rintro rfl
    exact hdiffers (Option.some.inj (hheld.symm.trans hkept))
  rcases outcome_blocked htaken hplan hkept hchanged hdiffers with hmem | ⟨later, hafter, hheld⟩
  · exact hinUse hmem
  · rw [hnames] at hheld
    have hlater : later < (outcome names plans).length := by
      rw [length_outcome, ← List.length_map oldName, hnames]
      exact (List.getElem?_eq_some_iff.mp hheld).1
    have hrenamed := List.getElem?_eq_getElem hlater
    by_cases hsame : (outcome names plans)[later] = plan.newName
    · exact hinUse (hsame ▸ List.getElem_mem hlater)
    · exact .givenUp hafter hheld hrenamed hsame

/-- Items that are renamed one after the other, each to its candidate. -/
theorem outcome_skipsOnlyClashes {α : Type} {name : α → Text} {candidate? : α → Option Text}
    {items : List α} {plan : α → Plan} (hold : ∀ item, (plan item).oldName = name item)
    (hcandidate : ∀ item ∈ items, ∀ candidate, candidate? item = some candidate →
      plan item = .ofCandidate (name item) (.text candidate)) :
    SkipsOnlyClashes name candidate? items (outcome (items.map name) (items.map plan)) := by
  refine ⟨by rw [length_outcome, List.length_map], ?_⟩
  intro place item candidate hitem hname hkept hidentifier hdiffers
  have hplan : plan item = ⟨name item, candidate, true⟩ := by
    rw [hcandidate item (List.mem_of_getElem? hitem) candidate hname]
    simp [ofCandidate, hidentifier, hdiffers]
  have hnames : (items.map plan).map oldName = items.map name := by
    rw [List.map_map]
    exact List.map_congr_left fun item _ => hold item
  have hplace : (items.map plan)[place]? = some (plan item) := by
    rw [List.getElem?_map, hitem, Option.map_some]
  have hclashes := outcome_clashes hnames hplace (by rw [hold, hkept]) (by rw [hplan])
    (by rwa [hplan])
  rwa [hplan] at hclashes

end Plan

/-- The name that functions for names would give to a block; only declarations are renamed. -/
def Block.candidate? (tableCase tableInflection : Text → Text) (block : Block) : Option Text :=
  if block.isDeclaration then some (block.kind.nameBy tableCase tableInflection block.name)
  else none

variable {tableCase fieldCase tableInflection : Text → Text}

theorem Document.Renames.skipsOnlyClashes {before after : Document}
    (h : before.Renames (.ofNames tableCase fieldCase tableInflection) after) :
    SkipsOnlyClashes (·.name) (Block.candidate? tableCase tableInflection) before.named
      after.takenNames := by
  rw [h.names]
  refine Plan.outcome_skipsOnlyClashes (Block.namePlan_oldName _) ?_
  intro block _ candidate hcandidate
  unfold Block.candidate? at hcandidate
  split at hcandidate
  · next hdeclaration =>
      cases hcandidate
      exact block.namePlan_ofNames tableCase fieldCase tableInflection hdeclaration
  · cases hcandidate

theorem Block.Renames.skipsOnlyClashes {before after : Block}
    (h : before.Renames (.ofNames tableCase fieldCase tableInflection) after)
    (hmodel : before.kind = .model) (hready : before.Ready) :
    SkipsOnlyClashes id (fun name => some (fieldCase name)) before.fieldNames after.fieldNames := by
  have hdeclaration : before.isDeclaration := by rw [isDeclaration, hmodel]; rfl
  have hplans : SkipsOnlyClashes id (fun name => some (fieldCase name)) before.fieldNames _ :=
    Plan.outcome_skipsOnlyClashes (fun name => (Naming.fieldPlan_follows
      (.ofNames tableCase fieldCase tableInflection) before.kind name).oldName) ?_
  · rwa [List.map_id, ← h.fieldNames hdeclaration hready] at hplans
  · rintro name - _ ⟨⟩
    rw [Naming.fieldPlan, if_pos hmodel, Naming.field_ofNames]
    rfl

/-- A declaration or a field of a model keeps its name only if the functions for names keep it or
give no identifier, or for a clash. -/
theorem migrate_skipsOnlyClashes (tableCase fieldCase tableInflection : Text → Text)
    (renameReferences : Bool) {text : Text} {document : Document}
    (hread : Document.read text = .ok document) :
    ∃ migration after,
      migrate (.ofNames tableCase fieldCase tableInflection) renameReferences text =
          .ok migration ∧
        Document.read migration.text = .ok after ∧
        after.blocks.map (·.kind) = document.blocks.map (·.kind) ∧
        SkipsOnlyClashes (·.name) (Block.candidate? tableCase tableInflection) document.named
          after.takenNames ∧
        List.Forall₂ (fun block renamed => block.kind = .model →
            SkipsOnlyClashes id (fun name => some (fieldCase name)) block.fieldNames
              renamed.fieldNames)
          document.declarations after.declarations := by
  obtain ⟨segments, records, after, hmigrate, -, hsegments, hreread, hblocks⟩ :=
    migrate_renames renameReferences hread
      (by simp : document.blocks.findSome?
        (Naming.ofNames tableCase fieldCase tableInflection).refused? = none)
  have hrenames := hsegments.sameNames (hblocks.imp fun _ _ => Block.Rereads.sameNames)
  refine ⟨_, after, hmigrate, hreread, ?_, hrenames.skipsOnlyClashes, ?_⟩
  · exact map_eq_of_forall₂ hrenames.blocks fun _ _ hblock => hblock.kind
  · refine ((List.forall₂_and_left _ _).mpr
      ⟨Document.declarations_ready hread, hrenames.declarations⟩).imp ?_
    rintro block renamed ⟨hready, hrenamed⟩ hmodel
    exact hrenamed.skipsOnlyClashes hmodel hready

/-- Two models want one name, of which the second is refused it; and an enum is refused the name of
a model that is renamed later. -/
theorem migrate_skipsOnlyClashes_refused :
    let first : Header := { keyword := "model".toList, name := "users".toList }
    let second : Header := { keyword := "model".toList, name := "user".toList }
    let enum : Header := { keyword := "enum".toList, name := "tags".toList }
    let third : Header := { keyword := "model".toList, name := "Tags".toList }
    let pieces : List Piece := [
      .block first "\n  a_b Int\n  aB Int\n".toList, .passthrough ['\n'],
      .block second "\n  x_a_b Int\n  xAB Int\n".toList, .passthrough ['\n'],
      .block enum " A".toList, .passthrough ['\n'], .block third " ".toList]
    let text := pieces.flatMap Piece.render
    let document := (Piece.document text pieces).classify
    Document.read text = .ok document ∧
      ∃ migration after,
        migrate (.ofNames Case.pascal.apply Case.camel.apply Inflection.singular.apply) true text =
            .ok migration ∧
          Document.read migration.text = .ok after ∧
          after.blocks.map (·.kind) = document.blocks.map (·.kind) ∧
          SkipsOnlyClashes (·.name)
            (Block.candidate? Case.pascal.apply Inflection.singular.apply) document.named
            after.takenNames ∧
          List.Forall₂ (fun block renamed => block.kind = .model →
              SkipsOnlyClashes id (fun name => some (Case.camel.apply name)) block.fieldNames
                renamed.fieldNames)
            document.declarations after.declarations := by
  intro first second enum third pieces text document
  have hread : Document.read text = .ok document := by decide +kernel
  exact ⟨hread, migrate_skipsOnlyClashes _ _ _ true hread⟩

/-- An enum and a field are refused names that nothing has in the end. -/
theorem migrate_skips_for_givenUp :
    let naming := Naming.ofNames Case.pascal.apply Case.camel.apply Inflection.singular.apply
    let enum : Header := { keyword := "enum".toList, name := "tags".toList }
    let model : Header := { keyword := "model".toList, name := "Tags".toList }
    let front : List Piece := [.block enum "\n  A\n".toList, .passthrough ['\n']]
    let pieces := front ++ [.block model "\n  x_a_b Int\n  xAB Int\n".toList, .passthrough ['\n']]
    let text := pieces.flatMap Piece.render
    let document := (Piece.document text pieces).classify
    let newPieces := front ++ [.block { model with name := "Tag".toList }
      "\n  @@map(\"Tags\")\n  x_a_b Int\n  xAb Int @map(\"xAB\")\n".toList, .passthrough ['\n']]
    let newText := newPieces.flatMap Piece.render
    let after := (Piece.document newText newPieces).classify
    Document.read text = .ok document ∧
      document.takenNames = ["tags".toList, "Tags".toList] ∧
      document.named.map (Block.candidate? Case.pascal.apply Inflection.singular.apply) =
        [some "Tags".toList, some "Tag".toList] ∧
      document.declarations.map (·.fieldNames) = [[], ["x_a_b".toList, "xAB".toList]] ∧
      ["x_a_b".toList, "xAB".toList].map Case.camel.apply = ["xAB".toList, "xAb".toList] ∧
      migrate naming true text =
        .ok ⟨newText, [⟨.model, "Tag".toList, "Tags".toList, "Tag".toList, true⟩,
          ⟨.field, "Tag".toList, "xAB".toList, "xAb".toList, true⟩]⟩ ∧
      Document.read newText = .ok after ∧
      after.takenNames = ["tags".toList, "Tag".toList] ∧
      after.declarations.map (·.fieldNames) = [[], ["x_a_b".toList, "xAb".toList]] := by
  decide +kernel

end SchemaCase
