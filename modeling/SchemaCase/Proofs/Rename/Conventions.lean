import SchemaCase.Proofs.Name.Case
import SchemaCase.Proofs.Rename.Idempotence

/-! Migrating twice with the conventions that have names. They do not keep all names that they give:
a convention does not keep stacked capitals, a plural may have a plural of its own, and a model may
leave its name to an enum only after the enum was refused it. -/

namespace SchemaCase

open Name

/-- The conventions of a migration keep the names that they give to a schema. -/
structure Document.Conforms (tableCase fieldCase : Case) (inflection : Inflection)
    (document : Document) : Prop where
  tableCapitals : tableCase ≠ .snake → ∀ block ∈ document.declarations,
    hasStackedCapitals
      (block.kind.nameBy tableCase.apply inflection.apply block.name) = false
  fieldCapitals : fieldCase ≠ .snake → ∀ block ∈ document.declarations, block.kind = .model →
    ∀ field ∈ block.fieldNames, hasStackedCapitals (fieldCase.apply field) = false
  numbers : inflection ≠ .leave → ∀ block ∈ document.declarations, block.kind = .model →
    let name := tableCase.apply (inflection.apply block.name)
    tableCase.apply (inflection.apply name) = name
  contests : inflection ≠ .leave → ∀ block ∈ document.declarations, block.kind ≠ .model →
    ∀ other ∈ document.declarations, other.kind = .model →
      other.name = tableCase.apply block.name →
        tableCase.apply (inflection.apply other.name) = other.name

namespace Document.Conforms

variable {tableCase fieldCase : Case} {inflection : Inflection} {document : Document}
  {block : Block}

theorem tableCase_keeps (h : document.Conforms tableCase fieldCase inflection)
    (hblock : block ∈ document.declarations) :
    let name := block.kind.nameBy tableCase.apply inflection.apply block.name
    tableCase.apply name = name :=
  Case.apply_apply fun hsnake => h.tableCapitals hsnake block hblock

theorem inflection_keeps (h : document.Conforms tableCase fieldCase inflection)
    (hblock : block ∈ document.declarations) :
    let name := block.kind.nameBy tableCase.apply inflection.apply block.name
    (inflection ≠ .leave → tableCase.apply (inflection.apply name) = name) →
      tableCase.apply (inflection.apply name) = name := by
  intro name hnumber
  by_cases hleave : inflection = .leave
  · have hkeeps : tableCase.apply name = name := h.tableCase_keeps hblock
    rw [hleave]
    exact hkeeps
  · exact hnumber hleave

theorem model_keeps (h : document.Conforms tableCase fieldCase inflection)
    (hblock : block ∈ document.declarations) (hmodel : block.kind = .model) :
    let name := block.kind.nameBy tableCase.apply inflection.apply block.name
    tableCase.apply (inflection.apply name) = name := by
  apply h.inflection_keeps hblock
  intro hleave
  rw [BlockKind.nameBy, if_pos hmodel]
  exact h.numbers hleave block hblock hmodel

theorem settled (h : document.Conforms tableCase fieldCase inflection) :
    (Naming.ofNames tableCase.apply fieldCase.apply inflection.apply).Settled document := by
  apply Naming.settled_ofNames
  · intro block hblock name
    rw [BlockKind.nameBy]
    split
    · next hmodel => exact h.model_keeps hblock hmodel
    · exact h.tableCase_keeps hblock
  · intro block hblock other hother hname
    rw [BlockKind.nameBy, ← hname]
    split
    · next hmodel =>
        by_cases hsame : block.kind = .model
        · exact h.model_keeps hblock hsame
        · -- An enum is after the name of a model.
          apply h.inflection_keeps hblock
          intro hleave
          rw [hname]
          refine h.contests hleave block hblock hsame other hother hmodel ?_
          rw [← hname, BlockKind.nameBy, if_neg hsame]
    · exact h.tableCase_keeps hblock
  · intro block hblock hmodel field hfield
    exact Case.apply_apply fun hsnake => h.fieldCapitals hsnake block hblock hmodel field hfield

end Document.Conforms

/-- Where conventions keep the names that they give, a second migration changes nothing. -/
theorem migrate_conventions_twice {tableCase fieldCase : Case} {inflection : Inflection}
    (renameReferences : Bool) {text : Text} {document : Document}
    (hread : Document.read text = .ok document)
    (hconforms : document.Conforms tableCase fieldCase inflection) :
    ∃ migration,
      migrate (.ofNames tableCase.apply fieldCase.apply inflection.apply) renameReferences text =
          .ok migration ∧
        migrate (.ofNames tableCase.apply fieldCase.apply inflection.apply) renameReferences
          migration.text = .ok ⟨migration.text, []⟩ :=
  migrate_settled renameReferences hread (by simp) hconforms.settled

/-- Everything has a new name but an enum, which is after the name of a model that keeps it. -/
theorem migrate_conventions_twice_refused :
    let posts : Header := { keyword := "model".toList, name := "blog_posts".toList }
    let model : Header := { keyword := "model".toList, name := "Role".toList }
    let enum : Header := { keyword := "enum".toList, name := "role".toList }
    let states : Header := { keyword := "enum".toList, name := "post_states".toList }
    let pieces : List Piece := [
      .block posts "\n  HTTPUrl String\n  created_at role? // a\n  state post_states\n".toList,
      .passthrough ['\n'], .block model " ".toList, .passthrough ['\n'],
      .block enum " ADMIN".toList, .passthrough ['\n'], .block states " OPEN".toList]
    let text := pieces.flatMap Piece.render
    let document := (Piece.document text pieces).classify
    let naming := Naming.ofNames Case.pascal.apply Case.camel.apply Inflection.singular.apply
    Document.read text = .ok document ∧ document.Conforms .pascal .camel .singular ∧
      ∃ migration, migrate naming true text = .ok migration ∧
        migrate naming true migration.text = .ok ⟨migration.text, []⟩ := by
  intro posts model enum states pieces text document naming
  have hread : Document.read text = .ok document := by decide +kernel
  have hconforms : document.Conforms .pascal .camel .singular :=
    ⟨fun _ => by decide +kernel, fun _ => by decide +kernel, fun _ => by decide +kernel,
      fun _ => by decide +kernel⟩
  exact ⟨hread, hconforms, migrate_conventions_twice true hread hconforms⟩

/-- Two words of one letter become stacked capitals, which are one word to the next migration. -/
theorem migrate_conventions_unstacks :
    let naming := Naming.ofNames Case.pascal.apply Case.camel.apply Inflection.leave.apply
    let first : Migration :=
      ⟨"model AB \x7b\n  @@map(\"a_b\")\n  id Int\n\x7d\n".toList,
        [⟨.model, "AB".toList, "a_b".toList, "AB".toList, true⟩]⟩
    let second : Migration :=
      ⟨"model Ab \x7b\n  @@map(\"a_b\")\n  id Int\n\x7d\n".toList,
        [⟨.model, "Ab".toList, "AB".toList, "Ab".toList, false⟩]⟩
    migrate naming false "model a_b \x7b\n  id Int\n\x7d\n".toList = .ok first ∧
      migrate naming false first.text = .ok second ∧ second.text ≠ first.text := by
  decide +kernel

-- A singular may have a singular of its own.
example :
    let naming := Naming.ofNames Case.pascal.apply Case.camel.apply Inflection.singular.apply
    let first := "model Data \x7b\n  @@map(\"datas\")\n \x7d".toList
    let second := "model Datum \x7b\n  @@map(\"datas\")\n \x7d".toList
    (migrate naming false "model datas \x7b \x7d".toList).map (·.text) = .ok first ∧
      (migrate naming false first).map (·.text) = .ok second := by
  decide +kernel

-- The enum comes before the model that leaves it its name.
example :
    let naming := Naming.ofNames Case.pascal.apply Case.camel.apply Inflection.singular.apply
    let enum := "enum tags \x7b A \x7d\n".toList
    let model := "model Tag \x7b\n  @@map(\"Tags\")\n \x7d".toList
    let renamed := "enum Tags \x7b\n  @@map(\"tags\")\n A \x7d\n".toList
    (migrate naming false (enum ++ "model Tags \x7b \x7d".toList)).map (·.text) =
        .ok (enum ++ model) ∧
      (migrate naming false (enum ++ model)).map (·.text) = .ok (renamed ++ model) := by
  decide +kernel

end SchemaCase
