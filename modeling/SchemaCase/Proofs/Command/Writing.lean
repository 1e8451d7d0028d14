import SchemaCase.Command.Run
import SchemaCase.Proofs.Schema.Grammar

/-! What a run of the command does to the files. A run that only shows what it would write leaves
all of them as they are, and so does a run that fails at a console that takes the announcement; any
other run replaces the contents of the schema file by what its formatter made of the migrated
schema, and nothing else. -/

namespace SchemaCase

namespace FileStore

theorem lookup_replace (store : FileStore) (location other : Location) (entry : FileEntry) :
    (store.map fun old => if old.1 = location then (location, entry) else old).lookup other =
      if other = location then (store.lookup location).map fun _ => entry
      else store.lookup other := by
  induction store with
  | nil => simp
  | cons old store ih =>
      obtain ⟨place, held⟩ := old
      by_cases here : place = location
      · subst here
        by_cases same : other = place
        · subst same
          simp
        · have differs : (other == place) = false := beq_eq_false_iff_ne.mpr same
          simpa [List.lookup_cons, differs, same] using ih
      · have apart : (location == place) = false :=
          beq_eq_false_iff_ne.mpr fun equal => here equal.symm
        by_cases same : other = place
        · subst same
          simp [here]
        · have differs : (other == place) = false := beq_eq_false_iff_ne.mpr same
          simpa [List.lookup_cons, here, differs, apart] using ih

theorem any_replace (store : FileStore) (location : Location) (entry : FileEntry)
    (p : Location → Bool) :
    ((store.map fun old => if old.1 = location then (location, entry) else old).any
      fun old => p old.1) = store.any fun old => p old.1 := by
  induction store with
  | nil => rfl
  | cons old store ih =>
      have keeps : (if old.1 = location then (location, entry) else old).1 = old.1 := by
        split
        · rename_i here
          exact here.symm
        · rfl
      simp only [List.map_cons, List.any_cons, keeps, ih]

theorem lookup_of_entry?_file {store : FileStore} {location : Location} {bytes : Bytes}
    (file : store.entry? location = some (.file bytes)) :
    store.lookup location = some (.file bytes) := by
  unfold entry? at file
  split at file
  · rename_i entry found
    rw [found, file]
  · split at file <;> cases file

theorem read_eq_ok_iff {store : FileStore} {directory : Location} {path : Path} {bytes : Bytes} :
    store.read directory path = .ok bytes ↔
      ∃ location, store.locate directory path = .ok location ∧
        store.entry? location = some (.file bytes) := by
  unfold read
  cases located : store.locate directory path with
  | error error => simp [bind, Except.bind]
  | ok location =>
      cases found : store.entry? location with
      | none => simp [bind, Except.bind, found]
      | some entry => cases entry <;> simp [bind, Except.bind, found]

theorem entry?_write {store : FileStore} {directory location : Location} {path : Path}
    {old : Bytes} (located : store.locate directory path = .ok location)
    (file : store.entry? location = some (.file old)) (new : Bytes) (other : Location) :
    FileStore.entry? (store.write directory path new) other =
      if other = location then some (.file new) else store.entry? other := by
  have found := lookup_of_entry?_file file
  simp only [write, located, entry?, lookup_replace, any_replace, found]
  by_cases same : other = location
  · simp [same]
  · simp [same]

/-- The same places hold files and directories, whatever is in the files. -/
def SameShape (store other : FileStore) : Prop :=
  ∀ location,
    store.entry? location = none ∧ other.entry? location = none ∨
    store.entry? location = some .directory ∧ other.entry? location = some .directory ∨
    ∃ old new, store.entry? location = some (.file old) ∧ other.entry? location = some (.file new)

theorem SameShape.walk {store other : FileStore} (shape : SameShape store other) (path : Path)
    (start : Location) (parts : List Text) :
    other.walk path start parts = store.walk path start parts := by
  induction parts generalizing start with
  | nil => rfl
  | cons part parts ih =>
      simp only [FileStore.walk, ih]
      obtain ⟨before, after⟩ | ⟨before, after⟩ | ⟨old, new, before, after⟩ :=
        shape (start ++ [part])
      · simp only [before, after]
      · simp only [before, after, ih]
      · -- The walk ends at a file; what the file holds is not looked at.
        cases parts <;> simp only [before, after, ih]

theorem SameShape.write {store : FileStore} {directory location : Location} {path : Path}
    {old : Bytes} (located : store.locate directory path = .ok location)
    (file : store.entry? location = some (.file old)) (new : Bytes) :
    SameShape store (store.write directory path new) := by
  intro other
  rw [entry?_write located file]
  by_cases same : other = location
  · subst same
    exact .inr (.inr ⟨old, new, file, if_pos rfl⟩)
  · rw [if_neg same]
    cases store.entry? other with
    | none => exact .inl ⟨rfl, rfl⟩
    | some entry =>
        cases entry with
        | directory => exact .inr (.inl ⟨rfl, rfl⟩)
        | file bytes => exact .inr (.inr ⟨bytes, bytes, rfl, rfl⟩)

/-- `after` differs from `before` at most in the file of `path`, which holds `bytes`. -/
structure Replaced (before : FileStore) (directory : Location) (path : Path) (bytes : Bytes)
    (after : FileStore) : Prop where
  holds : after.read directory path = .ok bytes
  elsewhere : ∃ location, before.locate directory path = .ok location ∧
    ∀ other, other ≠ location → after.entry? other = before.entry? other

theorem replaced_write {store : FileStore} {directory : Location} {path : Path} {old : Bytes}
    (readable : store.read directory path = .ok old) (new : Bytes) :
    store.Replaced directory path new (store.write directory path new) := by
  obtain ⟨location, located, file⟩ := read_eq_ok_iff.mp readable
  refine ⟨read_eq_ok_iff.mpr ⟨location, ?_, ?_⟩, location, located, ?_⟩
  · unfold locate at located ⊢
    rw [(SameShape.write located file new).walk]
    exact located
  · rw [entry?_write located file, if_pos rfl]
  · intro other apart
    rw [entry?_write located file, if_neg apart]

end FileStore

namespace Command

namespace Console

/-- The console takes a text whatever was done before. -/
def Takes (console : Console) (stream : Stream) (text : Text) : Prop :=
  ∀ done, console.takes done stream text = true

def TakesAll (console : Console) : Prop :=
  ∀ stream text, console.Takes stream text

/-- What is done before the first print that a console refuses, instead of what was planned. -/
structure Stops (console : Console) (planned outcome : Outcome) (stream : Stream) (text : Text) :
    Prop where
  refused : console.takes outcome.actions stream text = false
  exitCode : outcome.exitCode = 1
  planned : ∃ later, planned.actions = outcome.actions ++ .print stream text :: later

namespace Stops

variable {console : Console} {planned outcome : Outcome} {stream : Stream} {text : Text}

theorem not_takes (stops : console.Stops planned outcome stream text) :
    ¬console.Takes stream text := by
  intro takes
  cases stops.refused.symm.trans (takes outcome.actions)

theorem written_eq_none (stops : console.Stops planned outcome stream text)
    (written : planned.written = none) : outcome.written = none := by
  obtain ⟨later, actions⟩ := stops.planned
  rw [Outcome.written, actions, List.findSome?_append, Option.or_eq_none_iff] at written
  exact written.1

/-- If only the announcement follows the writing, a run is stopped before it writes or there. -/
theorem written_eq_none_or_announces {before : List Action} {bytes : Bytes}
    (stops : console.Stops planned outcome stream text)
    (unwritten : before.findSome? Action.written? = none)
    (actions : planned.actions = before ++ [.write bytes, .print .stdout announcement]) :
    outcome.written = none ∨
      outcome.written = some bytes ∧ stream = .stdout ∧ text = announcement := by
  obtain ⟨later, planned⟩ := stops.planned
  rcases List.append_eq_append_iff.mp (actions.symm.trans planned) with
    ⟨done, reached, left⟩ | ⟨missed, rfl, -⟩
  · -- Of the last two actions, `done` was done and the next one is a print.
    cases done with
    | nil => simp at left
    | cons action done =>
        cases done with
        | nil =>
            simp only [List.cons_append, List.nil_append, List.cons.injEq, Action.print.injEq]
              at left
            obtain ⟨rfl, ⟨rfl, rfl⟩, -⟩ := left
            refine .inr ⟨?_, rfl, rfl⟩
            rw [Outcome.written, reached, List.findSome?_append, unwritten]
            rfl
        | cons other done => simp at left
  · rw [List.findSome?_append, Option.or_eq_none_iff] at unwritten
    exact .inl unwritten.1

end Stops

theorem perform_eq_or_stops (console : Console) (exitCode : Nat) (done rest : List Action) :
    console.perform exitCode done rest = ⟨exitCode, done ++ rest⟩ ∨
      ∃ stream text, console.Stops ⟨exitCode, done ++ rest⟩ (console.perform exitCode done rest)
        stream text := by
  induction rest generalizing done with
  | nil => exact .inl (by simp [perform])
  | cons action rest ih =>
      cases allowed : console.allows done action with
      | true =>
          have next : console.perform exitCode done (action :: rest) =
              console.perform exitCode (done ++ [action]) rest := by
            simp [perform, allowed]
          rw [next, List.append_cons done action rest]
          exact ih (done ++ [action])
      | false =>
          cases action with
          | print stream text =>
              have stopped : console.perform exitCode done (.print stream text :: rest) =
                  ⟨1, done⟩ := by
                simp [perform, allowed]
              rw [stopped]
              exact .inr ⟨stream, text, allowed, rfl, rest, rfl⟩
          | log event => cases allowed
          | pass bytes => cases allowed
          | write bytes => cases allowed

end Console

theorem Outcome.on_eq_or_stops (outcome : Outcome) (console : Console) :
    outcome.on console = outcome ∨
      ∃ stream text, console.Stops outcome (outcome.on console) stream text :=
  console.perform_eq_or_stops outcome.exitCode [] outcome.actions

/-- `Formatted program schema formatter result`: the formatter succeeds on the schema. The other
program does so if it is there, ends well and leaves bytes that are a text. -/
inductive Formatted (program : Option FormatterProcess) (schema : Text) : Formatter → Text → Prop
  | verbatim : Formatted program schema .verbatim schema
  | builtin {result : Text} (laidOut : Layout.format schema = .ok result) :
      Formatted program schema .builtin result
  | prisma {process : FormatterProcess} {result : Text} (runs : program = some process)
      (succeeds : process.exitCode = 0)
      (left : Utf8.decode (process.output.getD (Utf8.encode schema)) = .ok result) :
      Formatted program schema .prisma (Text.unifyNewlines result)

theorem Formatting.result_eq_ok_iff {formatter : Formatter} {program : Option FormatterProcess}
    {schema result : Text} :
    (Formatting.of formatter program schema).result = .ok result ↔
      Formatted program schema formatter result := by
  constructor
  · intro formatted
    cases formatter with
    | verbatim =>
        cases formatted
        exact .verbatim
    | builtin =>
        cases laidOut : Layout.format schema with
        | error error => simp [Formatting.of, laidOut] at formatted
        | ok text =>
            simp only [Formatting.of, laidOut, Except.ok.injEq] at formatted
            subst formatted
            exact .builtin laidOut
    | prisma =>
        cases program with
        | none => simp [Formatting.of, FormatterProcess.format] at formatted
        | some process =>
            by_cases succeeds : process.exitCode = 0
            · cases left : Utf8.decode (process.output.getD (Utf8.encode schema)) with
              | error error =>
                  simp [Formatting.of, FormatterProcess.format, FormatterProcess.input, succeeds,
                    left] at formatted
              | ok text =>
                  simp only [Formatting.of, FormatterProcess.format, FormatterProcess.input,
                    succeeds, left, if_true, Except.ok.injEq] at formatted
                  subst formatted
                  exact .prisma rfl succeeds left
            · simp [Formatting.of, FormatterProcess.format, succeeds] at formatted
  · intro formatted
    cases formatted with
    | verbatim => rfl
    | builtin laidOut => simp [Formatting.of, laidOut]
    | prisma runs succeeds left =>
        simp [Formatting.of, FormatterProcess.format, FormatterProcess.input, runs, succeeds, left]

/-- What a run plans, by what there is to write: without any it fails, with some it succeeds, which
a dry run does not write. All that follows the writing is the announcement. -/
inductive Outcome.Plans (dryRun : Bool) (Result : Bytes → Prop) (outcome : Outcome) : Prop
  | failed (noResult : ∀ bytes, ¬Result bytes) (exitCode : outcome.exitCode = 1)
      (written : outcome.written = none)
  | shown {bytes : Bytes} (result : Result bytes) (dry : dryRun = true)
      (exitCode : outcome.exitCode = 0) (written : outcome.written = none)
  | written {bytes : Bytes} {before : List Action} (result : Result bytes)
      (real : dryRun = false) (exitCode : outcome.exitCode = 0)
      (unwritten : before.findSome? Action.written? = none)
      (actions : outcome.actions = before ++ [.write bytes, .print .stdout announcement])

theorem Outcome.Plans.congr {dryRun : Bool} {Result Other : Bytes → Prop} {outcome : Outcome}
    (plans : outcome.Plans dryRun Result) {first : List Action}
    (unwritten : first.findSome? Action.written? = none)
    (same : ∀ bytes, Result bytes ↔ Other bytes) :
    { outcome with actions := first ++ outcome.actions }.Plans dryRun Other := by
  have written : Outcome.written { outcome with actions := first ++ outcome.actions } =
      outcome.written := by
    simp [Outcome.written, List.findSome?_append, unwritten]
  cases plans with
  | failed noResult exitCode unwritten =>
      exact .failed (fun bytes other => noResult bytes ((same bytes).mpr other)) exitCode
        (written.trans unwritten)
  | shown result dry exitCode unwritten =>
      exact .shown ((same _).mp result) dry exitCode (written.trans unwritten)
  | @written _ before result real exitCode unwrittenBefore actions =>
      have unwrittenAll : (first ++ before).findSome? Action.written? = none := by
        simp [List.findSome?_append, unwritten, unwrittenBefore]
      exact .written ((same _).mp result) real exitCode unwrittenAll (by simp [actions])

/-- How a run ends at a console. If it fails after it wrote, the announcement was refused. -/
inductive Outcome.Ends (console : Console) (dryRun : Bool) (Result : Bytes → Prop)
    (outcome : Outcome) : Prop
  | failed (reason : (∀ bytes, ¬Result bytes) ∨ ¬console.TakesAll)
      (exitCode : outcome.exitCode = 1) (written : outcome.written = none)
  | shown {bytes : Bytes} (result : Result bytes) (dry : dryRun = true)
      (exitCode : outcome.exitCode = 0) (written : outcome.written = none)
  | written {bytes : Bytes} (result : Result bytes) (real : dryRun = false)
      (exitCode : outcome.exitCode = 0) (written : outcome.written = some bytes)
  | unannounced {bytes : Bytes} (result : Result bytes) (real : dryRun = false)
      (refused : ¬console.Takes .stdout announcement) (exitCode : outcome.exitCode = 1)
      (written : outcome.written = some bytes)

theorem Outcome.Plans.on {dryRun : Bool} {Result : Bytes → Prop} {outcome : Outcome}
    (plans : outcome.Plans dryRun Result) (console : Console) :
    (outcome.on console).Ends console dryRun Result := by
  rcases outcome.on_eq_or_stops console with complete | ⟨stream, text, stops⟩
  · rw [complete]
    cases plans with
    | failed noResult exitCode written => exact .failed (.inl noResult) exitCode written
    | shown result dry exitCode written => exact .shown result dry exitCode written
    | written result real exitCode unwritten actions =>
        refine .written result real exitCode ?_
        rw [Outcome.written, actions, List.findSome?_append, unwritten]
        rfl
  · have refuses : ¬console.TakesAll := fun takes => stops.not_takes (takes stream text)
    cases plans with
    | failed noResult exitCode written =>
        exact .failed (.inr refuses) stops.exitCode (stops.written_eq_none written)
    | shown result dry exitCode written =>
        exact .failed (.inr refuses) stops.exitCode (stops.written_eq_none written)
    | written result real exitCode unwritten actions =>
        obtain before | ⟨written, rfl, rfl⟩ := stops.written_eq_none_or_announces unwritten actions
        · exact .failed (.inr refuses) stops.exitCode before
        · exact .unannounced result real stops.not_takes stops.exitCode written

namespace Outcome.Ends

variable {console : Console} {dryRun : Bool} {Result : Bytes → Prop} {outcome : Outcome}

theorem exitCode_eq_zero_iff (ends : outcome.Ends console dryRun Result)
    (takes : console.TakesAll) : outcome.exitCode = 0 ↔ ∃ bytes, Result bytes := by
  cases ends with
  | failed reason exitCode written =>
      have noResult := reason.resolve_right (not_not_intro takes)
      simp [exitCode, noResult]
  | shown result dry exitCode written => exact ⟨fun _ => ⟨_, result⟩, fun _ => exitCode⟩
  | written result real exitCode written => exact ⟨fun _ => ⟨_, result⟩, fun _ => exitCode⟩
  | unannounced result real refused exitCode written =>
      exact absurd (takes .stdout announcement) refused

theorem written_of_succeeds (ends : outcome.Ends console false Result)
    (succeeds : outcome.exitCode = 0) : ∃ bytes, Result bytes ∧ outcome.written = some bytes := by
  cases ends with
  | failed reason exitCode written => cases succeeds.symm.trans exitCode
  | shown result dry exitCode written => cases dry
  | written result real exitCode written => exact ⟨_, result, written⟩
  | unannounced result real refused exitCode written => cases succeeds.symm.trans exitCode

end Outcome.Ends

/-- What a run makes of a schema: it is migrated and given to the formatter. -/
def Reformatted (arguments : Arguments) (choices : Choices) (program : Option FormatterProcess)
    (contents : Text) (bytes : Bytes) : Prop :=
  ∃ migration schema, migrate choices.naming arguments.renameReferences contents = .ok migration ∧
    Formatted program migration.text choices.formatter schema ∧ bytes = Utf8.encode schema

@[simp] theorem written?_prints (stream : Stream) (texts : List Text) :
    (texts.map (Action.print stream)).findSome? Action.written? = none := by
  simp [Action.written?]

@[simp] theorem written?_logs (arguments : Arguments) (events : List Event) :
    (logs arguments events).findSome? Action.written? = none := by
  simp [logs, Action.written?]

@[simp] theorem written?_failure (doing wrong : String) :
    (failure doing wrong).findSome? Action.written? = none :=
  rfl

@[simp] theorem written?_dryRunTitle (arguments : Arguments) :
    (dryRunTitle arguments).findSome? Action.written? = none := by
  unfold dryRunTitle
  split <;> rfl

@[simp] theorem written?_passed (received : Option Bytes) :
    (received.map Action.pass).toList.findSome? Action.written? = none := by
  cases received <;> rfl

theorem finish_plans (arguments : Arguments) (schema : Text) (records : List Record)
    {before : List Action} {Result : Bytes → Prop}
    (unwritten : before.findSome? Action.written? = none)
    (result : Result (Utf8.encode schema)) :
    Outcome.Plans arguments.dryRun Result ⟨0, before ++ finish arguments schema records⟩ := by
  cases dry : arguments.dryRun with
  | true =>
      refine .shown result rfl rfl ?_
      simp only [Outcome.written, finish, dry, if_true, List.findSome?_append, unwritten,
        written?_prints, Option.or_none]
  | false => exact .written result rfl rfl unwritten (by simp [finish, dry])

theorem process_plans (arguments : Arguments) (choices : Choices)
    (program : Option FormatterProcess) (contents : Text) :
    (process arguments choices program contents).Plans arguments.dryRun
      (Reformatted arguments choices program contents) := by
  cases migrated : (Migration.run choices.naming arguments.renameReferences contents).result with
  | error error =>
      simp only [process, migrated]
      refine .failed ?_ rfl (by simp [Outcome.written, List.findSome?_append])
      rintro bytes ⟨migration, schema, succeeds, -⟩
      cases migrated.symm.trans succeeds
  | ok migration =>
      cases formatted : (Formatting.of choices.formatter program migration.text).result with
      | error failure =>
          have noResult : ∀ bytes, ¬Reformatted arguments choices program contents bytes := by
            rintro bytes ⟨other, schema, succeeds, laidOut, -⟩
            cases migrated.symm.trans succeeds
            cases formatted.symm.trans (Formatting.result_eq_ok_iff.mpr laidOut)
          cases failure <;> simp only [process, migrated, formatted] <;>
            exact .failed noResult rfl (by simp [Outcome.written, List.findSome?_append])
      | ok schema =>
          simp only [process, migrated, formatted]
          exact finish_plans arguments schema migration.records
            (by simp [List.findSome?_append])
            ⟨migration, schema, migrated, Formatting.result_eq_ok_iff.mp formatted, rfl⟩

/-- What a run makes of the bytes of the schema file. -/
def Rewritten (arguments : Arguments) (choices : Choices) (program : Option FormatterProcess)
    (old new : Bytes) : Prop :=
  ∃ text, Utf8.decode old = .ok text ∧
    Reformatted arguments choices program (Text.unifyNewlines text) new

theorem readSchema_eq_ok_iff {read : Path → Except ReadError Bytes} {path : Path}
    {contents : Text} :
    readSchema read path = .ok contents ↔
      ∃ old text, read path = .ok old ∧ Utf8.decode old = .ok text ∧
        contents = Text.unifyNewlines text := by
  unfold readSchema
  cases found : read path with
  | error error => simp [bind, Except.bind]
  | ok old => cases decoded : Utf8.decode old <;> simp [bind, Except.bind, decoded, eq_comm]

theorem run_plans (arguments : Arguments) (environment : Environment)
    (read : Path → Except ReadError Bytes) (program : Option FormatterProcess) :
    let settings := Settings.ofEnvironment environment
    (run arguments environment read program).Plans arguments.dryRun fun new =>
      ∃ old, read (schemaPath arguments settings) = .ok old ∧
        Rewritten arguments (.of arguments settings) program old new := by
  intro settings
  cases found : readSchema read (schemaPath arguments settings) with
  | error error =>
      simp only [run, settings, found]
      refine .failed ?_ rfl (by simp [Outcome.written, List.findSome?_append])
      rintro new ⟨old, readable, text, decoded, -⟩
      cases found.symm.trans (readSchema_eq_ok_iff.mpr ⟨old, text, readable, decoded, rfl⟩)
  | ok contents =>
      simp only [run, settings, found]
      apply (process_plans arguments (.of arguments settings) program contents).congr
        (written?_dryRunTitle arguments)
      obtain ⟨old, text, readable, decoded, rfl⟩ := readSchema_eq_ok_iff.mp found
      intro new
      constructor
      · intro reformatted
        exact ⟨old, readable, text, decoded, reformatted⟩
      · rintro ⟨other, readsOther, otherText, decodesOther, reformatted⟩
        cases readable.symm.trans readsOther
        cases decoded.symm.trans decodesOther
        exact reformatted

/-- Arguments that are not understood end the command with exit code 2. -/
def Completion.exitCode (completion : Completion) : Nat :=
  match completion.outcome with
  | .ok outcome => outcome.exitCode
  | .error _ => 2

/-- Where no help is asked for, the end of the run tells what becomes of the files. -/
theorem execute_ends (console : Console) (directory : Location) (environment : Environment)
    (files : FileStore) (program : Option FormatterProcess) {texts : List Text}
    {arguments : Arguments} (parsed : Arguments.parse texts = .ok arguments)
    (noHelp : arguments.help = false) :
    let completion := execute console directory texts environment files program
    let settings := Settings.ofEnvironment environment
    let path := schemaPath arguments settings
    ∃ outcome : Outcome, completion.exitCode = outcome.exitCode ∧
      (outcome.Ends console arguments.dryRun fun new => ∃ old,
        files.read directory path = .ok old ∧
          Rewritten arguments (.of arguments settings) program old new) ∧
      (outcome.written = none → completion.files = files) ∧
      ∀ old new, files.read directory path = .ok old → outcome.written = some new →
        files.Replaced directory path new completion.files := by
  intro completion settings path
  refine ⟨(run arguments environment (files.read directory) program).on console, ?_,
    (run_plans arguments environment (files.read directory) program).on console, ?_, ?_⟩
  · simp [completion, execute, parsed, noHelp, Completion.exitCode]
  · intro written
    simp [completion, execute, parsed, noHelp, written]
  · intro old new readable written
    have after : completion.files = files.write directory path new := by
      simp [completion, execute, parsed, noHelp, written, path, settings]
    rw [after]
    exact FileStore.replaced_write readable new

-- A console that has no code for a character of the announcement lets a run fail after it wrote.
example :
    let ascii : Console := { takes := fun _ _ text => text.all (·.toNat < 128) }
    let files : FileStore :=
      [(["schema.prisma".toList], .file (Utf8.encode "model a \x7b\n\x7d\n".toList))]
    let completion := execute ascii [] [] (fun _ => none) files none
    completion.exitCode = 1 ∧ completion.files ≠ files := by
  decide +kernel

end Command

end SchemaCase
