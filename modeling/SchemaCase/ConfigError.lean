import SchemaCase.Text.Quoted

namespace SchemaCase

inductive ConfigError
  /-- A naming function was expected, and the value shown was given. -/
  | notTransform (role : String) (shown : Text)
  | unsupportedCase (name : Text)
  | unsupportedInflection (name : Text)
  | unsupportedFormatter (name : Text)
  deriving DecidableEq, Repr

namespace ConfigError

def supportedList (names : List String) : String :=
  let names := names.map fun name => Text.quoted name.toList
  "[" ++ String.ofList (Text.join ", ".toList names) ++ "]"

private def unsupported (what : String) (name : Text) (supported : List String) : String :=
  let name := String.ofList name
  let supported := supportedList supported
  s!"Unsupported {what} '{name}'. Supported: {supported}"

def message : ConfigError → String
  | notTransform role shown =>
      let shown := String.ofList shown
      s!"A {role} transform is required, got {shown}"
  | unsupportedCase name => unsupported "case convention" name ["camel", "pascal", "snake"]
  | unsupportedInflection name => unsupported "inflection" name ["leave", "plural", "singular"]
  | unsupportedFormatter name => unsupported "formatter" name ["builtin", "none", "prisma"]

end ConfigError

end SchemaCase
