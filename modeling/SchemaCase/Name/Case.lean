import SchemaCase.Name.Words

namespace SchemaCase

inductive Case
  | camel
  | pascal
  | snake
  deriving DecidableEq, Repr

namespace Case

def capitalize : Text → Text
  | [] => []
  | c :: rest => c.toUpper :: rest

def ofWords (convention : Case) : List Text → Text
  | [] => []
  | first :: rest =>
      match convention with
      | camel => first ++ rest.flatMap capitalize
      | pascal => capitalize first ++ rest.flatMap capitalize
      | snake => Text.join ['_'] (first :: rest)

def apply (convention : Case) (name : Text) : Text :=
  match Name.words name with
  | [] => name
  | first :: rest => convention.ofWords (first :: rest)

end Case

end SchemaCase
