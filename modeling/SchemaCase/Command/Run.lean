import SchemaCase.Command.Arguments
import SchemaCase.Command.Console
import SchemaCase.Command.FileStore
import SchemaCase.Command.Report
import SchemaCase.Command.Settings
import SchemaCase.Layout.External
import SchemaCase.Layout.Formatter
import SchemaCase.Layout.Schema
import SchemaCase.Rename.Migration

/-! The command: it reads a schema file, renames what is in it, lays it out and writes it back, or
only shows what it would write. -/

namespace SchemaCase.Command

def schemaPath (arguments : Arguments) (settings : Settings) : Path :=
  (arguments.file.map Path.ofText).getD settings.file

def readSchema (read : Path → Except ReadError Bytes) (path : Path) : Except ReadError Text := do
  match Utf8.decode (← read path) with
  | .ok text => .ok (Text.unifyNewlines text)
  | .error error => .error (.undecodable error)

/-- An option that is empty counts as not given. -/
def given (option : Option Text) (setting : Text) : Text :=
  (option.filter fun value => !value.isEmpty).getD setting

structure Choice (α : Type) where
  value : α
  warnings : List Text := []

def Choice.of (ofName : Text → Except ConfigError α) (name : Text) (what : String)
    (defaultName : Text) (default : α) : Choice α :=
  match ofName name with
  | .ok value => { value }
  | .error _ =>
      let name := String.ofList name
      let defaultName := String.ofList defaultName
      { value := default
        warnings := [Terminal.warning
          (s!"encountered unsupported {what}: \"{name}\"." ++
            s!" Defaulting to \"{defaultName}\".").toList] }

structure Choices where
  tableCase : Case
  tableInflection : Inflection
  fieldCase : Case
  formatter : Formatter
  warnings : List Text

def Choices.of (arguments : Arguments) (settings : Settings) : Choices :=
  let default := Settings.default
  let tableCase := Choice.of Case.ofName (given arguments.tableCase settings.tableCase)
    "case convention" default.tableCase .pascal
  let tableInflection := Choice.of Inflection.ofName
    (given arguments.tableInflection settings.tableInflection)
    "inflection convention" default.tableInflection .leave
  let fieldCase := Choice.of Case.ofName (given arguments.fieldCase settings.fieldCase)
    "case convention" default.fieldCase .camel
  let formatter := Choice.of Formatter.ofName (given arguments.formatter settings.formatter)
    "formatter" default.formatter .builtin
  { tableCase := tableCase.value
    tableInflection := tableInflection.value
    fieldCase := fieldCase.value
    formatter := formatter.value
    warnings := tableCase.warnings ++ tableInflection.warnings ++ fieldCase.warnings ++
      formatter.warnings }

def Choices.naming (choices : Choices) : Naming :=
  .ofNames choices.tableCase.apply choices.fieldCase.apply choices.tableInflection.apply

/-- Why a migrated schema could not be laid out. Only a failure of the other program is reported in
words. -/
inductive FormatFailure
  | reported (message : String)
  | silent

structure Formatting where
  result : Except FormatFailure Text
  events : List Event := []
  received : Option Bytes := none

def Formatting.of (formatter : Formatter) (process : Option FormatterProcess) (schema : Text) :
    Formatting :=
  match formatter with
  | .verbatim => { result := .ok schema }
  | .builtin =>
      match Layout.format schema with
      | .ok text =>
          { result := .ok text
            events := ((Layout.source schema).toOption.map Document.parsedEvent).toList }
      | .error _ => { result := .error .silent }
  | .prisma =>
      let result :=
        match FormatterProcess.format FormatterProcess.defaultExecutable process schema with
        | .ok text => .ok text
        | .error (.undecodable _) => .error .silent
        | .error error => .error (.reported error.message)
      { result, received := process.map fun _ => FormatterProcess.input schema }

/-- Two lines of an error: what was being done, and what went wrong. -/
def failure (doing wrong : String) : List Action :=
  [.print .stderr (Terminal.error doing.toList), .print .stderr (Terminal.error wrong.toList)]

def dryRunTitle (arguments : Arguments) : List Action :=
  if arguments.dryRun then [.print .stdout (Terminal.print "***Dry run mode***".toList)] else []

/-- Only warnings are told, unless more is asked for. -/
def logs (arguments : Arguments) (events : List Event) : List Action :=
  let told := if arguments.verbose then events else events.filter Event.isWarning
  told.map .log

/-- The last thing that a run prints, after it wrote the schema file. -/
def announcement : Text :=
  Terminal.print "✨ Done.".toList

def finish (arguments : Arguments) (schema : Text) (records : List Record) : List Action :=
  if arguments.dryRun then
    let shown := Terminal.print "Prettify yielded the following schema:".toList ::
      Terminal.print schema :: renamesReport records
    shown.map (.print .stdout)
  else [.write (Utf8.encode schema), .print .stdout announcement]

def process (arguments : Arguments) (choices : Choices) (program : Option FormatterProcess)
    (contents : Text) : Outcome :=
  let run := Migration.run choices.naming arguments.renameReferences contents
  let migrating := choices.warnings.map (.print .stderr) ++ logs arguments run.events
  match run.result with
  | .error error =>
      { exitCode := 1
        actions := migrating ++
          failure "Encountered error while migrating case conventions" error.message }
  | .ok migration =>
      let formatting := Formatting.of choices.formatter program migration.text
      let formatted := migrating ++ logs arguments formatting.events ++
        (formatting.received.map .pass).toList
      match formatting.result with
      | .error (.reported message) =>
          { exitCode := 1
            actions := formatted ++
              failure "Encountered error while formatting the migrated schema" message }
      | .error .silent => { exitCode := 1, actions := formatted }
      | .ok schema =>
          { exitCode := 0, actions := formatted ++ finish arguments schema migration.records }

/-- What a run with arguments that were understood does if nothing stops it. -/
def run (arguments : Arguments) (environment : Environment)
    (read : Path → Except ReadError Bytes) (program : Option FormatterProcess) : Outcome :=
  let settings := Settings.ofEnvironment environment
  let path := schemaPath arguments settings
  match readSchema read path with
  | .error error =>
      let shown := String.ofList path.render
      let doing :=
        s!"Encountered an error while trying to read provided schema.prisma file at path {shown}"
      { exitCode := 1, actions := dryRunTitle arguments ++ failure doing error.message }
  | .ok contents =>
      let outcome := process arguments (.of arguments settings) program contents
      { outcome with actions := dryRunTitle arguments ++ outcome.actions }

def Outcome.help : Outcome :=
  { exitCode := 0, actions := [.print .stdout Arguments.usage] }

/-- What a run leaves behind; without an outcome its arguments were not understood. -/
structure Completion where
  outcome : Except UsageError Outcome
  files : FileStore

/-- Runs the command at a console, in a working directory. -/
def execute (console : Console) (directory : Location) (texts : List Text)
    (environment : Environment) (files : FileStore) (program : Option FormatterProcess) :
    Completion :=
  match Arguments.parse texts with
  | .error error => { outcome := .error error, files }
  | .ok arguments =>
      let outcome :=
        if arguments.help then .help
        else run arguments environment (files.read directory) program
      let outcome := outcome.on console
      let path := schemaPath arguments (.ofEnvironment environment)
      let files :=
        match outcome.written with
        | some bytes => files.write directory path bytes
        | none => files
      { outcome := .ok outcome, files }

end SchemaCase.Command
