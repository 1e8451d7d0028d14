import SchemaCase.Text.Quoted

namespace SchemaCase

inductive Value
  | none
  | flag (value : Bool)
  | number (value : Int)
  | text (value : Text)
  | list (items : List Value)
  | record (fields : List (Text × Value))
  deriving Inhabited

namespace Value

mutual

def describe : Value → Text
  | none => "None".toList
  | flag true => "True".toList
  | flag false => "False".toList
  | number value => (toString value).toList
  | text value => Text.quoted value
  | list items => '[' :: Text.join ", ".toList (describeItems items) ++ [']']
  | record fields => '\x7b' :: Text.join ", ".toList (describeFields fields) ++ ['\x7d']

def describeItems : List Value → List Text
  | [] => []
  | item :: items => describe item :: describeItems items

def describeFields : List (Text × Value) → List Text
  | [] => []
  | (key, value) :: fields =>
      (Text.quoted key ++ ": ".toList ++ describe value) :: describeFields fields

end

end Value

end SchemaCase
