import SchemaCase.ConfigError
import SchemaCase.Text.Blank
import SchemaCase.Text.Lowercase

namespace SchemaCase

inductive Formatter
  /-- The layout of this library. -/
  | builtin
  /-- The schema tool's own command. -/
  | prisma
  /-- The schema stays as it is. -/
  | verbatim
  deriving DecidableEq, Repr

def Formatter.ofName (name : Text) : Except ConfigError Formatter :=
  let normalized := Text.lower (Text.trim name)
  if normalized = "builtin".toList then .ok .builtin
  else if normalized = "prisma".toList then .ok .prisma
  else if normalized = "none".toList then .ok .verbatim
  else .error (.unsupportedFormatter name)

end SchemaCase
