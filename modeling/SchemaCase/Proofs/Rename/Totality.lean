import SchemaCase.Layout.Schema
import SchemaCase.Proofs.Rename.Rereading

namespace SchemaCase

namespace Document

theorem read_eq_error_iff {text : Text} {error : ParseError} :
    read text = .error error ↔ parse text = .error error := by
  rw [read]
  cases parse text <;> simp [Except.map]

theorem exists_parse_of_read {text : Text} {document : Document} (h : read text = .ok document) :
    ∃ parsed, parse text = .ok parsed := by
  rw [read] at h
  cases hparse : parse text with
  | error error =>
      rw [hparse] at h
      cases h
  | ok parsed => exact ⟨parsed, rfl⟩

/-- A schema is read without its byte order mark too. -/
theorem exists_parse_unmarked {text : Text} {document : Document}
    (h : parse text = .ok document) :
    ∃ unmarked, parse (Layout.splitByteOrderMark text).2 = .ok unmarked := by
  rcases Layout.splitByteOrderMark_cases text with ⟨rest, rfl, hsplit⟩ | ⟨-, hsplit⟩
  · obtain ⟨marked, hmarked, htext, -⟩ := parse_sound h
    obtain ⟨pieces, -, hpieces, rfl⟩ := hmarked.exists_unmarked htext.symm
    exact ⟨_, by rw [hsplit]; exact hpieces.decomposition.parse_eq⟩
  · exact ⟨document, by rw [hsplit]; exact h⟩

end Document

theorem Layout.exists_format_of_parse {text : Text} {document : Document}
    (h : Document.parse text = .ok document) : ∃ laidOut, format text = .ok laidOut := by
  obtain ⟨unmarked, hunmarked⟩ := Document.exists_parse_unmarked h
  simp [format, source, hunmarked, bind, Except.bind]

theorem migrate_parseError {naming : Naming} {renameReferences : Bool} {text : Text}
    {error : ParseError} (h : Document.parse text = .error error) :
    migrate naming renameReferences text = .error (.parse error) := by
  rw [migrate, Migration.run, Document.read_eq_error_iff.mpr h]

/-- A migration fails exactly if its text is no schema, and then for that reason. Otherwise it gives
a text that is a schema and has a layout. -/
theorem migrate_refuses_or_rereads (tableCase fieldCase tableInflection : Text → Text)
    (renameReferences : Bool) (text : Text) :
    (∃ error, Document.parse text = .error error ∧
        migrate (.ofNames tableCase fieldCase tableInflection) renameReferences text =
          .error (.parse error)) ∨
      ∃ document migration, Document.parse text = .ok document ∧
        migrate (.ofNames tableCase fieldCase tableInflection) renameReferences text =
          .ok migration ∧
        (∃ migrated, Document.parse migration.text = .ok migrated) ∧
        ∃ laidOut, Layout.format migration.text = .ok laidOut := by
  cases hparse : Document.parse text with
  | error error => exact .inl ⟨error, rfl, migrate_parseError hparse⟩
  | ok document =>
      right
      have hread : Document.read text = .ok document.classify := by
        rw [Document.read, hparse]
        rfl
      have htotal : document.classify.blocks.findSome?
          (Naming.ofNames tableCase fieldCase tableInflection).refused? = none := by
        simp
      obtain ⟨segments, records, hmigrate, -, hreread⟩ :=
        migrate_reads renameReferences hread htotal
      obtain ⟨migrated, hmigrated⟩ := Document.exists_parse_of_read hreread
      exact ⟨document, _, rfl, hmigrate, ⟨migrated, hmigrated⟩,
        Layout.exists_format_of_parse hmigrated⟩

end SchemaCase
