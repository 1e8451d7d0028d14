import SchemaCase.ConfigError
import SchemaCase.Name.Convention
import SchemaCase.Rename.Value

namespace SchemaCase

/-- A function on names. `onOther` is what it makes of a value that is no text, if it takes such
values. -/
structure NamingFunction where
  onText : Text → Value
  onOther : Value → Option Value := fun _ => none

namespace NamingFunction

def ofNames (change : Text → Text) : NamingFunction :=
  { onText := fun name => .text (change name) }

def onValue? (function : NamingFunction) : Value → Option Value
  | .text name => some (function.onText name)
  | other => function.onOther other

@[simp] theorem onValue?_text (function : NamingFunction) (name : Text) :
    function.onValue? (.text name) = some (function.onText name) := rfl

end NamingFunction

/-- Where a naming function is expected, a plain value may be given instead. -/
inductive Transform
  | value (given : Value)
  | function (given : NamingFunction)

namespace Transform

def absent : Transform :=
  .value .none

def ofCase (convention : Case) : Transform :=
  .function (.ofNames convention.apply)

def ofInflection (inflection : Inflection) : Transform :=
  .function (.ofNames inflection.apply)

def toFunction (role : String) : Transform → Except ConfigError NamingFunction
  | .function given => .ok given
  | .value given => .error (.notTransform role given.describe)

end Transform

structure Naming where
  tableCase : NamingFunction
  fieldCase : NamingFunction
  tableInflection : NamingFunction

namespace Naming

def ofNames (tableCase fieldCase tableInflection : Text → Text) : Naming :=
  ⟨.ofNames tableCase, .ofNames fieldCase, .ofNames tableInflection⟩

def ofTransforms (tableCase fieldCase tableInflection : Transform) : Except ConfigError Naming := do
  let tableCase ← tableCase.toFunction "table case"
  let fieldCase ← fieldCase.toFunction "field case"
  let tableInflection ← tableInflection.toFunction "table inflection"
  .ok ⟨tableCase, fieldCase, tableInflection⟩

/-- The name computed for a model: its number first, then its case. There is none if the case does
not take what the number made of the name. -/
def model (naming : Naming) (name : Text) : Option Value :=
  naming.tableCase.onValue? (naming.tableInflection.onText name)

/-- An enum is no table, its number stays. -/
def enum (naming : Naming) (name : Text) : Value :=
  naming.tableCase.onText name

def field (naming : Naming) (name : Text) : Value :=
  naming.fieldCase.onText name

@[simp] theorem model_ofNames (tableCase fieldCase tableInflection : Text → Text) (name : Text) :
    (ofNames tableCase fieldCase tableInflection).model name =
      some (.text (tableCase (tableInflection name))) := rfl

@[simp] theorem enum_ofNames (tableCase fieldCase tableInflection : Text → Text) (name : Text) :
    (ofNames tableCase fieldCase tableInflection).enum name = .text (tableCase name) := rfl

@[simp] theorem field_ofNames (tableCase fieldCase tableInflection : Text → Text) (name : Text) :
    (ofNames tableCase fieldCase tableInflection).field name = .text (fieldCase name) := rfl

end Naming

end SchemaCase
