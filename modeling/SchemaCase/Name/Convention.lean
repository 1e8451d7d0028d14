import SchemaCase.ConfigError
import SchemaCase.Name.Case
import SchemaCase.Name.Inflection
import SchemaCase.Text.Blank

namespace SchemaCase

namespace Name

/-- Blanks around a name, its case and the kind of its hyphens do not matter. -/
def canonical (name : Text) : Text :=
  Text.replace '-' '_' (Text.lower (Text.trim name))

def lookupAlias? (aliases : List (String × α)) (name : Text) : Option α :=
  (aliases.find? fun entry => entry.1.toList == canonical name).map Prod.snd

end Name

namespace Case

def aliases : List (String × Case) :=
  [("camel", .camel), ("camel_case", .camel), ("camelcase", .camel), ("lower_camel", .camel),
    ("pascal", .pascal), ("pascal_case", .pascal), ("pascalcase", .pascal),
    ("upper_camel", .pascal), ("snake", .snake), ("snake_case", .snake), ("snakecase", .snake)]

def ofName (name : Text) : Except ConfigError Case :=
  match Name.lookupAlias? aliases name with
  | some convention => .ok convention
  | none => .error (.unsupportedCase name)

end Case

namespace Inflection

def aliases : List (String × Inflection) :=
  [("identity", .leave), ("keep", .leave), ("leave", .leave), ("none", .leave),
    ("plural", .plural), ("pluralize", .plural), ("singular", .singular),
    ("singularize", .singular)]

def ofName (name : Text) : Except ConfigError Inflection :=
  match Name.lookupAlias? aliases name with
  | some inflection => .ok inflection
  | none => .error (.unsupportedInflection name)

end Inflection

end SchemaCase
