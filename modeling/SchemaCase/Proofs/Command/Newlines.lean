import SchemaCase.Proofs.Command.Writing
import SchemaCase.Proofs.Rename.Idempotence
import SchemaCase.Proofs.Rename.Totality
import SchemaCase.Proofs.Text.Encoding

/-! Line ends in the schema file. A schema in which nothing is renamed and that is not laid out is
written back with the bytes that were read, except that its line ends have become line feeds. -/

namespace SchemaCase

/-- A migration without renames gives back its text. -/
theorem migrate_text_of_noRecords {tableCase fieldCase tableInflection : Text → Text}
    {renameReferences : Bool} {text : Text} {migration : Migration}
    (migrated : migrate (.ofNames tableCase fieldCase tableInflection) renameReferences text =
      .ok migration)
    (noRecords : migration.records = []) : migration.text = text := by
  cases read : Document.read text with
  | error error =>
      cases migrated.symm.trans (migrate_parseError (Document.read_eq_error_iff.mp read))
  | ok document =>
      have total : document.blocks.findSome?
          (Naming.ofNames tableCase fieldCase tableInflection).refused? = none := by
        simp
      obtain ⟨segments, records, result, changes⟩ := migrate_changes renameReferences read total
      cases migrated.symm.trans result
      rw [show records = [] from noRecords, referenceRule_nil] at changes
      have same : segments = document.segments :=
        changes.eq_of_noRecords fun _ _ => SegmentChange.eq_of_noRecords
      rw [same]
      exact Document.render_read read

namespace Command

theorem Choices.of_formatter {arguments : Arguments} {settings : Settings} {formatter : Formatter}
    (named : Formatter.ofName (given arguments.formatter settings.formatter) = .ok formatter) :
    (Choices.of arguments settings).formatter = formatter := by
  simp only [Choices.of, Choice.of, named]

/-- Where the formatter changes nothing and the migration renames nothing, what is written is what
was read with its line ends unified. -/
theorem Rewritten.eq_unifyNewlines {arguments : Arguments} {choices : Choices}
    {program : Option FormatterProcess} {old new : Bytes} {text : Text} {migration : Migration}
    (rewritten : Rewritten arguments choices program old new)
    (verbatim : choices.formatter = .verbatim) (decoded : Utf8.decode old = .ok text)
    (migrated : migrate choices.naming arguments.renameReferences (Text.unifyNewlines text) =
      .ok migration)
    (noRecords : migration.records = []) : new = Bytes.unifyNewlines old := by
  obtain ⟨other, decodesOther, result, schema, migratesOther, formatted, rfl⟩ := rewritten
  cases decoded.symm.trans decodesOther
  cases migrated.symm.trans migratesOther
  rw [verbatim] at formatted
  cases formatted
  calc
    Utf8.encode migration.text = Utf8.encode (Text.unifyNewlines text) := by
      rw [migrate_text_of_noRecords migrated noRecords]
    _ = Bytes.unifyNewlines (Utf8.encode text) := Utf8.encode_unifyNewlines text
    _ = Bytes.unifyNewlines old := by rw [Utf8.encode_of_decode decoded]

/-- A run that renames nothing and lays nothing out succeeds at a console that takes everything,
and wherever it succeeds it changes nothing but line ends: the schema file keeps its bytes exactly
if there is no carriage return among them. -/
theorem execute_unifies_newlines (console : Console) (directory : Location)
    (environment : Environment) (files : FileStore) (program : Option FormatterProcess)
    {texts : List Text} {arguments : Arguments} {old : Bytes} {text : Text}
    {migration : Migration} (parsed : Arguments.parse texts = .ok arguments)
    (noHelp : arguments.help = false) (real : arguments.dryRun = false)
    (verbatim : Formatter.ofName
      (given arguments.formatter (Settings.ofEnvironment environment).formatter) = .ok .verbatim)
    (readable : files.read directory (schemaPath arguments (.ofEnvironment environment)) =
      .ok old)
    (decoded : Utf8.decode old = .ok text)
    (migrated : migrate (Choices.of arguments (.ofEnvironment environment)).naming
      arguments.renameReferences (Text.unifyNewlines text) = .ok migration)
    (noRecords : migration.records = []) :
    let completion := execute console directory texts environment files program
    let path := schemaPath arguments (.ofEnvironment environment)
    (console.TakesAll → completion.exitCode = 0) ∧
      (completion.exitCode = 0 →
        files.Replaced directory path (Bytes.unifyNewlines old) completion.files ∧
        (completion.files.read directory path = .ok old ↔ 0x0D ∉ old)) := by
  intro completion path
  have selected := Choices.of_formatter verbatim
  obtain ⟨outcome, exitCode, ends, -, replaced⟩ :=
    execute_ends console directory environment files program parsed noHelp
  constructor
  · intro takes
    have formatted : Formatted program migration.text
        (Choices.of arguments (.ofEnvironment environment)).formatter migration.text := by
      rw [selected]
      exact .verbatim
    have result : Rewritten arguments (.of arguments (.ofEnvironment environment)) program old
        (Utf8.encode migration.text) :=
      ⟨text, decoded, migration, migration.text, migrated, formatted, rfl⟩
    exact exitCode.trans ((ends.exitCode_eq_zero_iff takes).mpr ⟨_, old, readable, result⟩)
  · intro succeeds
    rw [real] at ends
    obtain ⟨new, ⟨other, readsOther, rewritten⟩, written⟩ :=
      ends.written_of_succeeds (exitCode ▸ succeeds)
    cases readable.symm.trans readsOther
    obtain rfl := rewritten.eq_unifyNewlines selected decoded migrated noRecords
    have after := replaced old _ readable written
    refine ⟨after, ?_⟩
    rw [after.holds, Except.ok.injEq]
    exact Bytes.unifyNewlines_eq_self_iff

/-- A byte order mark stays, and all kinds of line ends become line feeds. -/
theorem execute_unifies_newlines_mixed :
    let old := Utf8.encode "\uFEFFmodel A \x7b\r\n  id Int\n\x7d\r".toList
    let directory := ["home".toList]
    let files : FileStore := [(["home".toList, "schema.prisma".toList], .file old)]
    let path := Path.ofText "schema.prisma".toList
    let completion := execute .unlimited directory ["--formatter".toList, "none".toList]
      (fun _ => none) files none
    completion.exitCode = 0 ∧
      files.Replaced directory path (Bytes.unifyNewlines old) completion.files ∧
      (completion.files.read directory path = .ok old ↔ 0x0D ∉ old) ∧
      Bytes.unifyNewlines old = Utf8.encode "\uFEFFmodel A \x7b\n  id Int\n\x7d\n".toList := by
  intro old directory files path completion
  have parsed : Arguments.parse ["--formatter".toList, "none".toList] =
      .ok { formatter := some "none".toList } := by
    decide +kernel
  have decoded : Utf8.decode old = .ok "\uFEFFmodel A \x7b\r\n  id Int\n\x7d\r".toList := by
    decide +kernel
  have migrated : migrate (Choices.of { formatter := some "none".toList } .default).naming true
      (Text.unifyNewlines "\uFEFFmodel A \x7b\r\n  id Int\n\x7d\r".toList) =
        .ok ⟨"\uFEFFmodel A \x7b\n  id Int\n\x7d\n".toList, []⟩ := by
    decide +kernel
  obtain ⟨succeeds, changes⟩ := execute_unifies_newlines .unlimited directory (fun _ => none)
    files none parsed rfl rfl (by decide +kernel) (by decide +kernel) decoded migrated rfl
  have exitCode := succeeds fun _ _ _ => rfl
  exact ⟨exitCode, (changes exitCode).1, (changes exitCode).2, by decide +kernel⟩

/-- A file loses its carriage returns even if nothing in it is renamed. -/
theorem execute_drops_carriageReturns :
    let text := "model A \x7b\r\n  id Int\r\n\x7d\r\n".toList
    let directory := ["home".toList]
    let files : FileStore :=
      [(["home".toList, "schema.prisma".toList], .file (Utf8.encode text))]
    let path := Path.ofText "schema.prisma".toList
    let naming := Naming.ofNames Case.pascal.apply Case.camel.apply Inflection.leave.apply
    let completion := execute .unlimited directory ["--formatter".toList, "none".toList]
      (fun _ => none) files none
    migrate naming true (Text.unifyNewlines text) = .ok ⟨Text.unifyNewlines text, []⟩ ∧
      completion.exitCode = 0 ∧
      completion.files.read directory path =
        .ok (Utf8.encode "model A \x7b\n  id Int\n\x7d\n".toList) ∧
      completion.files.read directory path ≠ files.read directory path := by
  decide +kernel

end Command

end SchemaCase
