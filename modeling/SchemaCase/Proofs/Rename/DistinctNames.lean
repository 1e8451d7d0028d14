import SchemaCase.Proofs.Rename.Outcome

namespace SchemaCase

def Block.FieldsDistinct (block : Block) : Prop :=
  block.fields.Pairwise fun line other => line.fieldName ≠ other.fieldName

instance : DecidablePred Block.FieldsDistinct :=
  fun block => inferInstanceAs
    (Decidable (block.fields.Pairwise fun line other => line.fieldName ≠ other.fieldName))

theorem Block.fieldsDistinct_iff (block : Block) :
    block.FieldsDistinct ↔ (block.fields.map (·.fieldName)).Nodup :=
  List.pairwise_map.symm

theorem Plan.outcome_nodup_of_oldNames {names : List Text} {plans : List Plan}
    (hplans : plans.map Plan.oldName = names) (hnames : names.Nodup) :
    (Plan.outcome names plans).Nodup := by
  rw [← List.nil_append (Plan.outcome names plans)]
  apply outcome_nodup
  · rwa [List.nil_append, hplans]
  · rw [List.nil_append, hplans]
    exact fun _ => id

theorem Block.Renames.fieldsDistinct {naming : Naming} {before after : Block}
    (h : before.Renames naming after) (hready : before.Ready) (hdeclaration : before.isDeclaration)
    (hdistinct : before.FieldsDistinct) : after.FieldsDistinct := by
  have hsome : Function.Injective (some : Text → Option Text) := Option.some_injective Text
  rw [fieldsDistinct_iff, hready.fieldNames, List.nodup_map_iff hsome] at hdistinct
  rw [fieldsDistinct_iff, h.fields hdeclaration, List.nodup_map_iff hsome]
  exact Plan.outcome_nodup_of_oldNames (BlockPlan.propose_oldNames naming hready) hdistinct

theorem Document.Renames.takenNames_nodup {naming : Naming} {before after : Document}
    (h : before.Renames naming after) (hdistinct : before.takenNames.Nodup) :
    after.takenNames.Nodup := by
  rw [h.names]
  exact Plan.outcome_nodup_of_oldNames (before.namePlans_oldNames naming) hdistinct

/-- Where the names of blocks are distinct, so are those that a migration leaves, and the same goes
for the fields of each declaration. -/
theorem migrate_keepsNamesDistinct (tableCase fieldCase tableInflection : Text → Text)
    (renameReferences : Bool) {text : Text} {document : Document}
    (hread : Document.read text = .ok document) :
    ∃ migration after,
      migrate (.ofNames tableCase fieldCase tableInflection) renameReferences text =
          .ok migration ∧
        Document.read migration.text = .ok after ∧
        (document.takenNames.Nodup → after.takenNames.Nodup) ∧
        List.Forall₂ (fun block renamed => renamed.kind = block.kind ∧
          (block.FieldsDistinct → renamed.FieldsDistinct))
          document.declarations after.declarations := by
  obtain ⟨segments, records, after, hmigrate, -, hsegments, hreread, hblocks⟩ :=
    migrate_renames renameReferences hread
      (by simp : document.blocks.findSome?
        (Naming.ofNames tableCase fieldCase tableInflection).refused? = none)
  have hrenames := hsegments.sameNames (hblocks.imp fun _ _ => Block.Rereads.sameNames)
  refine ⟨_, after, hmigrate, hreread, hrenames.takenNames_nodup, ?_⟩
  have hdeclared : ∀ block ∈ document.declarations, block.isDeclaration ∧ block.Ready := by
    intro block hblock
    obtain ⟨hmem, hdeclaration⟩ := List.mem_filter.mp hblock
    exact ⟨hdeclaration, Document.block_ready hread hmem hdeclaration⟩
  refine ((List.forall₂_and_left _ _).mpr ⟨hdeclared, hrenames.declarations⟩).imp ?_
  rintro block renamed ⟨⟨hdeclaration, hready⟩, hblock⟩
  exact ⟨hblock.kind, hblock.fieldsDistinct hready hdeclaration⟩

/-- A name is passed on: one model gives it up, the next one takes it, and an enum that is after it
as well gets nothing. The fields do the same. -/
theorem migrate_keepsNamesDistinct_passedOn :
    let next : Text → Text := fun name => if name = ['a'] then ['z'] else ['a']
    let first : Header := { keyword := "model".toList, name := ['a'] }
    let second : Header := { keyword := "model".toList, name := ['b'] }
    let third : Header := { keyword := "enum".toList, name := ['c'] }
    let pieces : List Piece := [
      .block first "\n  a b?\n  b Int\n  c Int\n".toList, .passthrough ['\n'],
      .block second " ".toList, .passthrough ['\n'], .block third " D".toList]
    let text := pieces.flatMap Piece.render
    let document := (Piece.document text pieces).classify
    Document.read text = .ok document ∧ document.takenNames.Nodup ∧
      (∀ block ∈ document.declarations, block.FieldsDistinct) ∧
      ∃ migration after,
        migrate (.ofNames next next id) true text = .ok migration ∧
          Document.read migration.text = .ok after ∧
          (document.takenNames.Nodup → after.takenNames.Nodup) ∧
          List.Forall₂ (fun block renamed => renamed.kind = block.kind ∧
            (block.FieldsDistinct → renamed.FieldsDistinct))
            document.declarations after.declarations := by
  intro next first second third pieces text document
  have hread : Document.read text = .ok document := by decide +kernel
  exact ⟨hread, by decide +kernel, by decide +kernel,
    migrate_keepsNamesDistinct next next id true hread⟩

end SchemaCase
