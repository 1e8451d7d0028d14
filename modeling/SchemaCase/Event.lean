import SchemaCase.Text.Basic

namespace SchemaCase

inductive Stage
  | start
  | parsed
  | classified
  | planned
  | applied
  | rendered
  | refused
  deriving DecidableEq, Repr

def Stage.describe : Stage → String
  | .start => "start"
  | .parsed => "tokenized"
  | .classified => "classified"
  | .planned => "resolved"
  | .applied => "merged"
  | .rendered => "emitted"
  | .refused => "parse-error"

inductive Event
  /-- A text was read into some blocks. -/
  | parsed (blocks : Nat)
  /-- The lines of a declaration were told apart. -/
  | classified (keyword name : Text) (fields lines : Nat)
  /-- A migration reached a stage. -/
  | reached (stage : Stage)
  /-- A computed name, shown as in a message, is no identifier. -/
  | keptInvalid (name shown : Text)
  /-- The new name of a block is in use. -/
  | blockClash (keyword name : Text) (line : Nat) (newName : Text)
  | blockRenamed (keyword name newName : Text)
  /-- The new name of a field is in use. -/
  | fieldClash (block name newName : Text)
  | fieldRenamed (block name newName : Text)
  | referencesUpdated (count : Nat) (block : Text)
  deriving DecidableEq, Repr

namespace Event

/-- A warning tells of a name that was left as it is. -/
def isWarning : Event → Bool
  | keptInvalid .. | blockClash .. | fieldClash .. => true
  | _ => false

def message : Event → String
  | parsed blocks => s!"Tokenized schema into {blocks} block(s)"
  | classified keyword name fields lines =>
      let keyword := String.ofList keyword
      let name := String.ofList name
      s!"Classified {keyword} {name}: {fields} field(s), {lines} line(s)"
  | reached stage =>
      let stage := stage.describe
      s!"Migration stage: {stage}"
  | keptInvalid name shown =>
      let name := String.ofList name
      let shown := String.ofList shown
      s!"Keeping {name}: computed name {shown} is not a valid identifier"
  | blockClash keyword name line newName =>
      let keyword := String.ofList keyword
      let name := String.ofList name
      let newName := String.ofList newName
      s!"Skipping {keyword} {name} (line {line}): {newName} is already declared"
  | blockRenamed keyword name newName =>
      let keyword := String.ofList keyword
      let name := String.ofList name
      let newName := String.ofList newName
      s!"Renamed {keyword} {name} -> {newName}"
  | fieldClash block name newName =>
      let block := String.ofList block
      let name := String.ofList name
      let newName := String.ofList newName
      s!"Skipping {block}.{name}: {newName} is already declared in the same block"
  | fieldRenamed block name newName =>
      let block := String.ofList block
      let name := String.ofList name
      let newName := String.ofList newName
      s!"Renamed field {block}.{name} -> {newName}"
  | referencesUpdated count block =>
      let block := String.ofList block
      s!"Updated {count} type reference(s) in {block}"

end Event

end SchemaCase
