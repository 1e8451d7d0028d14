import SchemaCase.Command.Path

namespace SchemaCase.Command

abbrev Environment := String → Option Text

structure Settings where
  file : Path
  tableCase : Text
  fieldCase : Text
  tableInflection : Text
  formatter : Text
  deriving DecidableEq, Repr

namespace Settings

def default : Settings where
  file := .ofText "schema.prisma".toList
  tableCase := "pascal".toList
  fieldCase := "camel".toList
  tableInflection := "leave".toList
  formatter := "builtin".toList

def variableNames : List String :=
  ["PRISMA_CASE_FORMAT_FILE", "PRISMA_CASE_FORMAT_TABLE_CASE", "PRISMA_CASE_FORMAT_FIELD_CASE",
    "PRISMA_CASE_FORMAT_TABLE_INFLECTION", "PRISMA_CASE_FORMAT_FORMATTER"]

/-- A variable that is set to nothing counts as not set. -/
def nonempty? (environment : Environment) (name : String) : Option Text :=
  (environment name).filter fun value => !value.isEmpty

def ofEnvironment (environment : Environment) : Settings :=
  let value? := nonempty? environment
  { file := ((value? "PRISMA_CASE_FORMAT_FILE").map Path.ofText).getD default.file
    tableCase := (value? "PRISMA_CASE_FORMAT_TABLE_CASE").getD default.tableCase
    fieldCase := (value? "PRISMA_CASE_FORMAT_FIELD_CASE").getD default.fieldCase
    tableInflection := (value? "PRISMA_CASE_FORMAT_TABLE_INFLECTION").getD default.tableInflection
    formatter := (value? "PRISMA_CASE_FORMAT_FORMATTER").getD default.formatter }

end Settings

end SchemaCase.Command
