import SchemaCase.Rename.Block
import SchemaCase.Rename.Reference

namespace SchemaCase

structure BlockPlan where
  name : Plan
  fields : List Plan
  events : List Event

namespace BlockPlan

/-- The plans of a declaration by itself. The values of an enum keep their names. -/
def propose (naming : Naming) (block : Block) : BlockPlan :=
  let names := block.fields.map fun line => line.fieldName.getD []
  if block.kind = .model then
    let self := Resolution.ofCandidate? block.name (naming.model block.name)
    let fields := names.map fun name => Resolution.ofCandidate name (naming.field name)
    { name := self.plan
      fields := fields.map (·.plan)
      events := self.events ++ fields.flatMap (·.events) }
  else
    let self := Resolution.ofCandidate block.name (naming.enum block.name)
    { name := self.plan, fields := names.map Plan.keep, events := self.events }

/-- A new name that another block uses is not taken. -/
def settle (taken : List Text) (block : Block) (plan : BlockPlan) : BlockPlan :=
  if plan.name.changed && taken.contains plan.name.newName then
    { plan with
      name := .keep block.name
      events := plan.events ++
        [.blockClash block.keyword block.name block.lineNumber plan.name.newName] }
  else plan

def takenAfter (taken : List Text) (plan : BlockPlan) : List Text :=
  if plan.name.changed then plan.name.newName :: taken.filter (· != plan.name.oldName) else taken

end BlockPlan

/-- What the number of tables made of a model's name, if the case of tables does not take it. -/
def Naming.refused? (naming : Naming) (block : Block) : Option Value :=
  if block.kind = .model && (naming.model block.name).isNone then
    some (naming.tableInflection.onText block.name)
  else none

@[simp] theorem Naming.refused?_ofNames (tableCase fieldCase tableInflection : Text → Text)
    (block : Block) : (ofNames tableCase fieldCase tableInflection).refused? block = none := by
  simp [refused?]

structure PlannedSegment where
  segment : Segment
  plan : Option BlockPlan

def planSegments (naming : Naming) (taken : List Text) : List Segment → List PlannedSegment
  | [] => []
  | .passthrough text :: rest => ⟨.passthrough text, none⟩ :: planSegments naming taken rest
  | .block block :: rest =>
      if block.isDeclaration then
        let plan := (BlockPlan.propose naming block).settle taken block
        ⟨.block block, some plan⟩ :: planSegments naming (plan.takenAfter taken) rest
      else ⟨.block block, none⟩ :: planSegments naming taken rest

/-- Names that new names must not clash with: those of all blocks but the settings. -/
def Document.takenNames (document : Document) : List Text :=
  (document.blocks.filter fun block => !block.kind.isSettings).map (·.name)

structure EditedSegment where
  segment : Segment
  records : List Record := []
  events : List Event := []

def PlannedSegment.apply (planned : PlannedSegment) : Except EditError EditedSegment :=
  match planned.segment, planned.plan with
  | .block block, some plan =>
      let edit := block.rename plan.name plan.fields
      match edit.error with
      | some error => .error error
      | none => .ok ⟨.block edit.block, edit.records, edit.events⟩
  | segment, _ => .ok { segment }

/-- The new name of a renamed block; of blocks with one name, the last counts. -/
def newBlockName? (records : List Record) (name : Text) : Option Text :=
  (records.reverse.find? fun record =>
    record.scope != .field && record.oldName == name).map (·.newName)

/-- Only models have fields whose types name blocks. -/
def Block.renameTypesOfModel (newName? : Text → Option Text) (block : Block) : Block :=
  if block.kind = .model then block.renameTypes newName? else block

structure Migration where
  text : Text
  records : List Record
  deriving DecidableEq, Repr

inductive MigrationError
  | parse (error : ParseError)
  /-- The function for the case of tables does not take the value shown. -/
  | naming (shown : Text)
  | edit (error : EditError)
  deriving DecidableEq, Repr

def MigrationError.message : MigrationError → String
  | .parse error => error.message
  | .naming shown =>
      let shown := String.ofList shown
      s!"the table case does not take {shown}"
  | .edit error => error.message

structure MigrationRun where
  result : Except MigrationError Migration
  events : List Event

def Document.renameReferences (document : Document) (records : List Record) :
    Document × List Event :=
  let newName? := newBlockName? records
  let models := document.blocks.filter fun block => block.kind = .model
  (document.mapBlocks (Block.renameTypesOfModel newName?),
    models.flatMap (Block.renameTypesEvents newName?))

def applyPlans (renameReferences : Bool) (planned : List PlannedSegment) :
    Except EditError (Migration × List Event) := do
  let edited ← planned.mapM PlannedSegment.apply
  let document : Document := ⟨edited.map (·.segment)⟩
  let records := edited.flatMap (·.records)
  let events := edited.flatMap (·.events)
  if renameReferences then
    let (document, referenceEvents) := document.renameReferences records
    .ok (⟨document.render, records⟩, events ++ referenceEvents)
  else .ok (⟨document.render, records⟩, events)

/-- Reads a text, renames what `naming` gives a new name, and writes the text back. -/
def Migration.run (naming : Naming) (renameReferences : Bool) (text : Text) : MigrationRun :=
  match Document.read text with
  | .error error =>
      { result := .error (.parse error), events := [.reached .start, .reached .refused] }
  | .ok document =>
      let readEvents := [.reached .start, document.parsedEvent, .reached .parsed] ++
        document.classifiedEvents ++ [.reached .classified]
      match document.blocks.findSome? naming.refused? with
      | some value => { result := .error (.naming value.describe), events := readEvents }
      | none =>
          let planned := planSegments naming document.takenNames document.segments
          let planEvents := planned.flatMap fun segment =>
            (segment.plan.map (·.events)).getD []
          let events := readEvents ++ planEvents ++ [.reached .planned]
          match applyPlans renameReferences planned with
          | .error error => { result := .error (.edit error), events }
          | .ok (migration, editEvents) =>
              { result := .ok migration
                events := events ++ editEvents ++ [.reached .applied, .reached .rendered] }

def migrate (naming : Naming) (renameReferences : Bool) (text : Text) :
    Except MigrationError Migration :=
  (Migration.run naming renameReferences text).result

end SchemaCase
