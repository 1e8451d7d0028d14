import SchemaCase.Rename.Plan
import SchemaCase.Rename.Record
import SchemaCase.Schema.Classification

/-! Renaming a block and its fields. The old name of whatever is renamed is recorded as its
database name, unless a database name is given already. -/

namespace SchemaCase

open Source

inductive EditError
  | noLines
  | fewerPlans
  | morePlans
  deriving DecidableEq, Repr

def EditError.message : EditError → String
  | .noLines => "list index out of range"
  | .fewerPlans => "zip() argument 2 is shorter than argument 1"
  | .morePlans => "zip() argument 2 is longer than argument 1"

def mapCall (databaseName : Text) : Text :=
  "@map(\"".toList ++ databaseName ++ "\")".toList

namespace Line

/-- Records a database name behind the code of a field line, in front of its comment. -/
def appendMap (line : Line) (databaseName : Text) : Line :=
  let (code, comment) := codeAndComment line.rest
  let blanks := Text.trailingBlanks code
  let blanks := if !comment.isEmpty && blanks.isEmpty then [' '] else blanks
  { line with
    rest := Text.trimEnd code ++ ' ' :: mapCall databaseName ++ blanks ++ comment
    mapLiteral := some databaseName }.rebuild

/-- A field that has a database name keeps it. -/
def rename (line : Line) (oldName newName : Text) : Line :=
  let renamed := { line with fieldName := some newName }
  if line.mapLiteral.isNone then renamed.appendMap oldName else renamed.rebuild

end Line

namespace Block

def defaultIndent : Text :=
  "  ".toList

/-- The indentation of the first line with contents below the header line. -/
def innerIndent (block : Block) : Text :=
  match block.lines.tail.find? fun line =>
      line.kind != .blank && !(Text.trim line.text).isEmpty with
  | some line =>
      let indent := Text.leadingBlanks line.text
      if indent.isEmpty then defaultIndent else indent
  | none => defaultIndent

def innerTerminator (block : Block) : Text :=
  ((block.lines.map (·.terminator)).find? fun terminator => !terminator.isEmpty).getD ['\n']

def mapLine (block : Block) (databaseName : Text) : Line :=
  Line.classify
    { text := block.innerIndent ++ '@' :: mapCall databaseName
      terminator := block.innerTerminator }

/-- Records a database name directly below the header line. Whatever follows the opening brace
there moves below, but for a comment. -/
def insertMap (block : Block) (databaseName : Text) : Except EditError Block :=
  match block.lines with
  | [] => .error .noLines
  | first :: rest =>
      let mapLine := block.mapLine databaseName
      if !first.terminator.isEmpty &&
          ((Text.trim first.text).isEmpty || first.kind == .comment) then
        .ok { block with lines := first :: mapLine :: rest }
      else
        let headerEnd : Line := { text := [], terminator := block.innerTerminator, kind := .blank }
        .ok { block with lines := headerEnd :: mapLine :: first :: rest }

end Block

structure FieldStep where
  line : Line
  taken : List Text
  records : List Record := []
  events : List Event := []

/-- A field is renamed if its plan says so and the new name is not in use. -/
def FieldStep.of (block : Text) (taken : List Text) (line : Line) (plan : Plan) : FieldStep :=
  if !plan.changed then { line, taken }
  else if taken.contains plan.newName then
    { line, taken, events := [.fieldClash block plan.oldName plan.newName] }
  else
    { line := line.rename plan.oldName plan.newName
      taken := plan.newName :: taken.filter (· != plan.oldName)
      records := [⟨.field, block, plan.oldName, plan.newName, line.mapLiteral.isNone⟩]
      events := [.fieldRenamed block plan.oldName plan.newName] }

/-- The lines of a block after the plans of its fields were carried out, one by one; what comes
before a missing plan stays done. -/
structure FieldEdits where
  lines : List Line
  records : List Record := []
  events : List Event := []
  error : Option EditError := none

namespace FieldEdits

def cons (step : FieldStep) (edits : FieldEdits) : FieldEdits :=
  { edits with
    lines := step.line :: edits.lines
    records := step.records ++ edits.records
    events := step.events ++ edits.events }

def of (block : Text) (taken : List Text) : List Line → List Plan → FieldEdits
  | [], [] => { lines := [] }
  | [], _ :: _ => { lines := [], error := some .morePlans }
  | line :: lines, plans =>
      if line.isField then
        match plans with
        | [] => { lines := line :: lines, error := some .fewerPlans }
        | plan :: plans =>
            let step := FieldStep.of block taken line plan
            cons step (of block step.taken lines plans)
      else cons { line, taken } (of block taken lines plans)

end FieldEdits

structure BlockEdit where
  block : Block
  records : List Record := []
  events : List Event := []
  error : Option EditError := none

namespace Block

def fieldNames (block : Block) : List Text :=
  block.fields.filterMap (·.fieldName)

def renameSelf (block : Block) (plan : Plan) : BlockEdit :=
  if plan.changed then
    let mapped := (block.findAttribute? "map".toList).isNone
    match if mapped then block.insertMap plan.oldName else .ok block with
    | .error error => { block, error := some error }
    | .ok edited =>
        { block := { edited with name := plan.newName }
          records := [⟨.ofBlockKind block.kind, plan.newName, plan.oldName, plan.newName, mapped⟩]
          events := [.blockRenamed block.keyword plan.oldName plan.newName] }
  else { block }

def renameFields (block : Block) (plans : List Plan) : BlockEdit :=
  let edits := FieldEdits.of block.name block.fieldNames block.lines plans
  { block := { block with lines := edits.lines }
    records := edits.records
    events := edits.events
    error := edits.error }

def rename (block : Block) (plan : Plan) (fieldPlans : List Plan) : BlockEdit :=
  let self := block.renameSelf plan
  match self.error with
  | some _ => self
  | none =>
      let fields := self.block.renameFields fieldPlans
      { fields with
        records := self.records ++ fields.records
        events := self.events ++ fields.events }

end Block

end SchemaCase
