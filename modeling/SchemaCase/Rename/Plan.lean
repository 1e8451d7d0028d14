import SchemaCase.Event
import SchemaCase.Rename.Transform

namespace SchemaCase

/-- A letter or an underscore, then letters, digits and underscores; all of them ASCII. -/
def isIdentifier : Text → Bool
  | [] => false
  | c :: rest => Text.isNameStart c && rest.all fun c => c.isAlphanum || c == '_'

structure Plan where
  oldName : Text
  newName : Text
  changed : Bool
  deriving DecidableEq, Repr

namespace Plan

def keep (name : Text) : Plan :=
  ⟨name, name, false⟩

/-- A computed name that is no identifier is not taken. -/
def ofCandidate (oldName : Text) (candidate : Value) : Plan :=
  match candidate with
  | .text name => if isIdentifier name then ⟨oldName, name, name != oldName⟩ else keep oldName
  | _ => keep oldName

end Plan

structure Resolution where
  plan : Plan
  events : List Event := []

inductive ResolutionError
  | config (error : ConfigError)
  /-- A function does not take the value shown. -/
  | notTaken (shown : Text)
  deriving DecidableEq, Repr

namespace Resolution

def ofCandidate (oldName : Text) (candidate : Value) : Resolution :=
  let isName := match candidate with
    | .text name => isIdentifier name
    | _ => false
  { plan := .ofCandidate oldName candidate
    events := if isName then [] else [.keptInvalid oldName candidate.describe] }

/-- A name for which nothing was computed stays. -/
def ofCandidate? (oldName : Text) : Option Value → Resolution
  | some candidate => ofCandidate oldName candidate
  | none => { plan := .keep oldName }

/-- The inflection comes before the case; it may be absent. -/
def ofTransforms (name : Text) (convention inflection : Transform) :
    Except ResolutionError Resolution := do
  let convention ← (convention.toFunction "case").mapError .config
  match inflection with
  | .value .none => .ok (ofCandidate name (convention.onText name))
  | given =>
      let inflection ← (given.toFunction "inflection").mapError .config
      let inflected := inflection.onText name
      match convention.onValue? inflected with
      | some candidate => .ok (ofCandidate name candidate)
      | none => .error (.notTaken inflected.describe)

/-- For a table the inflection may not be absent. -/
def ofTable (name : Text) (convention inflection : Transform) :
    Except ResolutionError Resolution := do
  let _ ← (inflection.toFunction "table inflection").mapError .config
  ofTransforms name convention inflection

def ofField (name : Text) (convention : Transform) : Except ResolutionError Resolution :=
  ofTransforms name convention .absent

end Resolution

end SchemaCase
