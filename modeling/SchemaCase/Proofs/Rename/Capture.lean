import SchemaCase.Name.Inflection
import SchemaCase.Proofs.Name.Case
import SchemaCase.Proofs.Rename.Idempotence
import SchemaCase.Proofs.Rename.References

/-! Types that no block of a schema declares. They keep their names, but a declaration may be given
the name of such a type, and the field then has that declaration as its type. -/

namespace SchemaCase

/-- A name that is free is given to the first that is to have it. -/
theorem Plan.mem_outcome_iff {name : Text} {taken : List Text} {plans : List Plan}
    (hfree : name ∉ taken) (hold : name ∉ plans.map oldName) :
    name ∈ outcome taken plans ↔ ∃ plan ∈ plans, plan.changed ∧ plan.newName = name := by
  induction plans generalizing taken with
  | nil => simp [outcome]
  | cons plan plans ih =>
      rw [List.map_cons, List.mem_cons, not_or] at hold
      rw [List.exists_mem_cons_iff]
      by_cases hrenames : plan.changed ∧ plan.newName ∉ taken
      · rw [outcome_cons_renamed plans hrenames.1 hrenames.2, List.mem_cons]
        by_cases hname : plan.newName = name
        · simp [hname, hrenames.1]
        · have hstill : name ∉ plan.newName :: taken.filter (· != plan.oldName) := by
            simp [Ne.symm hname, hfree]
          rw [ih hstill hold.2]
          simp [hname, Ne.symm hname]
      · have hblocked : plan.changed → plan.newName ∈ taken := by simpa using hrenames
        have hother : ¬(plan.changed ∧ plan.newName = name) :=
          fun hplan => hfree (hplan.2 ▸ hblocked hplan.1)
        rw [outcome_cons_kept plans hblocked, List.mem_cons, ih hfree hold.2]
        simp [hold.1, hother]

theorem Block.namePlan_ofNames (tableCase fieldCase tableInflection : Text → Text) {block : Block}
    (h : block.isDeclaration) :
    block.namePlan (.ofNames tableCase fieldCase tableInflection) =
      .ofCandidate block.name (.text (block.kind.nameBy tableCase tableInflection block.name)) := by
  rw [namePlan, if_pos h, BlockPlan.propose, BlockKind.nameBy]
  split <;> rfl

theorem Block.namePlan_gives_iff (tableCase fieldCase tableInflection : Text → Text)
    {block : Block} {name : Text} (hforeign : block.name ≠ name) :
    let plan := block.namePlan (.ofNames tableCase fieldCase tableInflection)
    plan.changed ∧ plan.newName = name ↔ block.isDeclaration ∧ isIdentifier name ∧
      block.kind.nameBy tableCase tableInflection block.name = name := by
  intro plan
  by_cases hdeclaration : block.isDeclaration
  · have hplan : plan = _ := block.namePlan_ofNames tableCase fieldCase tableInflection hdeclaration
    rw [hplan, Plan.ofCandidate]
    generalize block.kind.nameBy tableCase tableInflection block.name = computed
    simp only [hdeclaration, true_and]
    split
    · next hidentifier =>
        constructor
        · rintro ⟨-, rfl⟩
          exact ⟨hidentifier, rfl⟩
        · rintro ⟨-, rfl⟩
          exact ⟨by simpa using hforeign.symm, rfl⟩
    · next hidentifier =>
        constructor
        · rintro ⟨hchanged, -⟩
          cases hchanged
        · rintro ⟨hname, rfl⟩
          exact absurd hname hidentifier
  · have hplan : plan = .keep block.name := if_neg hdeclaration
    simp [hplan, Plan.keep, hdeclaration]

theorem Changes.mem_blocks_of_other {naming : Naming} {newType? : Text → Option Text}
    {segments changed : List Segment} {records : List Record}
    (h : Changes (SegmentChange naming newType?) segments changed records) :
    ∀ block ∈ Document.blocks ⟨changed⟩, block.isDeclaration = false →
      block ∈ Document.blocks ⟨segments⟩ := by
  induction h with
  | nil => exact fun _ hblock _ => hblock
  | cons head tail ih =>
      intro block hblock hother
      cases head with
      | passthrough => exact ih block hblock hother
      | other notDeclaration =>
          rcases List.mem_cons.mp hblock with rfl | hblock
          · exact List.mem_cons_self
          · exact List.mem_cons_of_mem _ (ih block hblock hother)
      | declaration isDeclaration change =>
          rcases List.mem_cons.mp hblock with rfl | hblock
          · rw [Block.isDeclaration, change.kind_eq] at hother
            rw [Block.isDeclaration, hother] at isDeclaration
            cases isDeclaration
          · exact List.mem_cons_of_mem _ (ih block hblock hother)

namespace Case

open Name

theorem head_apply {convention : Case} (hpascal : convention ≠ .pascal) {name : Text}
    (h : isIdentifier (convention.apply name)) :
    ∀ c ∈ (convention.apply name).head?, ¬c.isUpper := by
  by_cases hwords : words name = []
  · rw [apply_of_no_words convention hwords] at h ⊢
    intro c hc hupper
    obtain ⟨rest, rfl⟩ := List.head?_eq_some_iff.mp hc
    have hc : c.isAlphanum := by simp [Char.isAlphanum, Char.isAlpha, hupper]
    exact words_ne_nil List.mem_cons_self hc hwords
  · cases convention with
    | pascal => exact absurd rfl hpascal
    | camel =>
        obtain ⟨first, tail, hfirst, -, hcamel, -⟩ := exists_apply hwords
        rw [hcamel]
        rintro c ⟨⟩
        exact not_isUpper_of_isWordLetter hfirst
    | snake =>
        rw [snake_apply hwords]
        intro c hc
        rcases Text.mem_join (List.mem_of_mem_head? hc) with hunderscore | ⟨word, hword, hmem⟩
        · rw [List.mem_singleton.mp hunderscore]
          decide
        · exact not_isUpper_of_isWordLetter ((words_spec hword).2 c hmem)

end Case

theorem Document.Renames.mem_takenNames_iff {tableCase fieldCase tableInflection : Text → Text}
    {before after : Document}
    (h : before.Renames (.ofNames tableCase fieldCase tableInflection) after) {name : Text}
    (hforeign : ∀ block ∈ before.blocks, block.name ≠ name) :
    name ∈ after.takenNames ↔ isIdentifier name ∧ ∃ block ∈ before.declarations,
      block.kind.nameBy tableCase tableInflection block.name = name := by
  have hnamed : ∀ block ∈ before.named, block.name ≠ name :=
    fun block hblock => hforeign block (List.mem_filter.mp hblock).1
  have hfree : name ∉ before.takenNames := by
    intro hmem
    obtain ⟨block, hblock, hname⟩ := List.mem_map.mp hmem
    exact hnamed block hblock hname
  rw [h.names, Plan.mem_outcome_iff hfree (by rwa [before.namePlans_oldNames])]
  constructor
  · rintro ⟨plan, hplan, hgives⟩
    obtain ⟨block, hblock, rfl⟩ := List.mem_map.mp hplan
    obtain ⟨hdeclaration, hidentifier, hname⟩ :=
      (Block.namePlan_gives_iff tableCase fieldCase tableInflection (hnamed block hblock)).mp hgives
    have hmem := (List.mem_filter.mp hblock).1
    exact ⟨hidentifier, block, List.mem_filter.mpr ⟨hmem, hdeclaration⟩, hname⟩
  · rintro ⟨hidentifier, block, hblock, hname⟩
    obtain ⟨hmem, hdeclaration⟩ := List.mem_filter.mp hblock
    have hblock : block ∈ before.named := List.mem_filter.mpr
      ⟨hmem, by simp [BlockKind.isSettings_of_isDeclaration hdeclaration]⟩
    exact ⟨_, List.mem_map_of_mem hblock,
      (Block.namePlan_gives_iff tableCase fieldCase tableInflection (hforeign block hmem)).mpr
        ⟨hdeclaration, hidentifier, hname⟩⟩

/-- A name that no block had is the name of a declaration, if of anything. -/
theorem Changes.exists_declaration_iff {naming : Naming} {newType? : Text → Option Text}
    {segments changed : List Segment} {records : List Record} {after : Document}
    (h : Changes (SegmentChange naming newType?) segments changed records)
    (hrereads : List.Forall₂ Block.Rereads (Document.blocks ⟨changed⟩) after.blocks) {name : Text}
    (hforeign : ∀ block ∈ Document.blocks ⟨segments⟩, block.name ≠ name) :
    (∃ block ∈ after.declarations, block.name = name) ↔ name ∈ after.takenNames := by
  have hother : ∀ block ∈ after.blocks, block.isDeclaration = false → block.name ≠ name := by
    have hchanged : ∀ block ∈ Document.blocks ⟨changed⟩,
        block.isDeclaration = false → block.name ≠ name :=
      fun block hblock hdeclaration =>
        hforeign block (h.mem_blocks_of_other block hblock hdeclaration)
    refine forall_right_of_forall₂ ((List.forall₂_and_left _ _).mpr ⟨hchanged, hrereads⟩) ?_
    rintro block read ⟨hname, hread⟩ hdeclaration
    rw [hread.sameNames.name]
    rw [Block.isDeclaration, hread.kind] at hdeclaration
    exact hname hdeclaration
  rw [Document.takenNames_eq, List.mem_map]
  constructor
  · rintro ⟨block, hblock, hname⟩
    obtain ⟨hmem, hdeclaration⟩ := List.mem_filter.mp hblock
    exact ⟨block, List.mem_filter.mpr
      ⟨hmem, by simp [BlockKind.isSettings_of_isDeclaration hdeclaration]⟩, hname⟩
  · rintro ⟨block, hblock, hname⟩
    have hmem := (List.mem_filter.mp hblock).1
    cases hdeclaration : block.isDeclaration with
    | true => exact ⟨block, List.mem_filter.mpr ⟨hmem, hdeclaration⟩, hname⟩
    | false => exact absurd hname (hother block hmem hdeclaration)

/-- What becomes of a field whose type `before` does not declare: it keeps its type, and `after`
declares that exactly if it is an identifier and the name that the conventions give to a
declaration. Only pascal case gives names with a capital in front. -/
structure Line.KeepsForeignType (tableCase : Case) (inflection : Inflection)
    (before after : Document) (type : Text) (field : Line) : Prop where
  kept : field.typeToken? = some type
  captured_iff : (∃ block ∈ after.declarations, block.name = type) ↔
    isIdentifier type ∧ ∃ block ∈ before.declarations,
      block.kind.nameBy tableCase.apply inflection.apply block.name = type
  uncaptured : tableCase ≠ .pascal → (∃ c ∈ type.head?, c.isUpper) →
    ∀ block ∈ after.declarations, block.name ≠ type

theorem migrate_keepsForeignTypes (tableCase fieldCase : Case) (inflection : Inflection)
    {text : Text} {document : Document} (hread : Document.read text = .ok document) :
    ∃ migration after,
      migrate (.ofNames tableCase.apply fieldCase.apply inflection.apply) true text =
          .ok migration ∧
        Document.read migration.text = .ok after ∧
        List.Forall₂ (fun block renamed => renamed.kind = block.kind ∧
          (block.kind = .model →
            List.Forall₂ (fun line field => ∀ type, line.typeToken? = some type →
                (∀ other ∈ document.blocks, other.name ≠ type) →
                  field.KeepsForeignType tableCase inflection document after type)
              block.fields renamed.fields))
          document.declarations after.declarations := by
  obtain ⟨segments, records, after, hmigrate, hchanges, hsegments, hreread, hblocks⟩ :=
    migrate_renames true hread
      (by simp : document.blocks.findSome? (Naming.ofNames tableCase.apply fieldCase.apply
        inflection.apply).refused? = none)
  have hrenames := hsegments.sameNames (hblocks.imp fun _ _ => Block.Rereads.sameNames)
  refine ⟨_, after, hmigrate, hreread, (hchanges.retypesFields hblocks).imp ?_⟩
  rintro block read ⟨hkind, hfields⟩
  refine ⟨hkind, fun hmodel => (hfields hmodel).imp ?_⟩
  intro line field hline type htype hforeign
  have hcaptured := (hchanges.exists_declaration_iff hblocks hforeign).trans
    (hrenames.mem_takenNames_iff hforeign)
  refine ⟨?_, hcaptured, ?_⟩
  · have hnone := hchanges.declarations.newBlockName?_foreign fun other hother =>
      hforeign other (List.mem_filter.mp hother).1
    rw [hline, htype, Option.map_some, hnone]
    rfl
  · rintro hpascal ⟨c, hc, hupper⟩ other hother hname
    obtain ⟨hidentifier, given, -, rfl⟩ := hcaptured.mp ⟨other, hother, hname⟩
    exact Case.head_apply hpascal hidentifier c hc hupper

/-- A model takes the name of a type that is foreign to the schema, another type stays foreign, and
a third one is declared. -/
theorem migrate_keepsForeignTypes_singular :
    let table : Header := { keyword := "model".toList, name := "strings".toList }
    let view : Header := { keyword := "view".toList, name := "user".toList }
    let enum : Header := { keyword := "enum".toList, name := "user_role".toList }
    let pieces : List Piece := [
      .block table "\n  id Int\n  s String?\n  r user_role\n".toList, .passthrough ['\n'],
      .block view " ".toList, .passthrough ['\n'], .block enum " A".toList]
    let text := pieces.flatMap Piece.render
    let document := (Piece.document text pieces).classify
    Document.read text = .ok document ∧
      ∃ migration after,
        migrate (.ofNames Case.pascal.apply Case.snake.apply Inflection.singular.apply) true text =
            .ok migration ∧
          Document.read migration.text = .ok after ∧
          List.Forall₂ (fun block renamed => renamed.kind = block.kind ∧
            (block.kind = .model →
              List.Forall₂ (fun line field => ∀ type, line.typeToken? = some type →
                  (∀ other ∈ document.blocks, other.name ≠ type) →
                    field.KeepsForeignType .pascal .singular document after type)
                block.fields renamed.fields))
            document.declarations after.declarations := by
  intro table view enum pieces text document
  have hread : Document.read text = .ok document := by decide +kernel
  exact ⟨hread, migrate_keepsForeignTypes .pascal .snake .singular hread⟩

/-- The type of a field is foreign to the schema until another model is given its name. -/
theorem migrate_captures_foreignType :
    let naming := Naming.ofNames Case.pascal.apply Case.camel.apply Inflection.leave.apply
    let captor : Header := { keyword := "model".toList, name := "string".toList }
    let holder : Header := { keyword := "model".toList, name := "B".toList }
    let rest : List Piece :=
      [.passthrough ['\n'], .block holder "\n  s String\n".toList, .passthrough ['\n']]
    let pieces := .block captor "\n  id Int\n".toList :: rest
    let text := pieces.flatMap Piece.render
    let document := (Piece.document text pieces).classify
    let newPieces := .block { captor with name := "String".toList }
      "\n  @@map(\"string\")\n  id Int\n".toList :: rest
    let newText := newPieces.flatMap Piece.render
    let after := (Piece.document newText newPieces).classify
    Document.read text = .ok document ∧
      document.blocks.map (·.name) = ["string".toList, "B".toList] ∧
      document.declarations.map (·.fields.map Line.typeToken?) =
        [[some "Int".toList], [some "String".toList]] ∧
      migrate naming true text =
        .ok ⟨newText, [⟨.model, "String".toList, "string".toList, "String".toList, true⟩]⟩ ∧
      Document.read newText = .ok after ∧
      after.declarations.map (·.name) = ["String".toList, "B".toList] ∧
      after.declarations.map (·.fields.map Line.typeToken?) =
        [[some "Int".toList], [some "String".toList]] := by
  decide +kernel

end SchemaCase
