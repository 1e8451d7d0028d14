import SchemaCase.Schema.Block

namespace SchemaCase

inductive Scope
  | model
  | enum
  | field
  deriving DecidableEq, Repr

namespace Scope

def ofBlockKind (kind : BlockKind) : Scope :=
  if kind = .enum then .enum else .model

def describe : Scope → String
  | model => "model"
  | enum => "enum"
  | field => "field"

end Scope

/-- `mapped` tells that the old name was recorded as the database name by this rename; otherwise
one was there already. -/
structure Record where
  scope : Scope
  block : Text
  oldName : Text
  newName : Text
  mapped : Bool
  deriving DecidableEq, Repr

end SchemaCase
