import SchemaCase.Text.Basic

namespace SchemaCase.Command

/-- Options as given; the last of several counts. `positional` are the arguments that are none. -/
structure Arguments where
  file : Option Text := none
  tableCase : Option Text := none
  tableInflection : Option Text := none
  fieldCase : Option Text := none
  formatter : Option Text := none
  renameReferences : Bool := true
  dryRun : Bool := false
  verbose : Bool := false
  help : Bool := false
  positional : List Text := []
  deriving DecidableEq, Repr

inductive UsageError
  | unknownOption (option : Text)
  | missingValue (option : Text)
  | unexpectedValue (option : Text)
  | unexpectedArguments (arguments : List Text)
  | invalidValue (option value : Text)
  deriving DecidableEq, Repr

def UsageError.message (error : UsageError) : String :=
  match error with
  | unknownOption option =>
      let option := String.ofList option
      s!"No such option: {option}"
  | missingValue option =>
      let option := String.ofList option
      s!"Option '{option}' requires an argument."
  | unexpectedValue option =>
      let option := String.ofList option
      s!"Option '{option}' does not take a value."
  | unexpectedArguments arguments =>
      let noun := if arguments.length = 1 then "argument" else "arguments"
      let shown := String.ofList (Text.join [' '] arguments)
      s!"Got unexpected extra {noun} ({shown})"
  | invalidValue option value =>
      let option := String.ofList option
      let value := String.ofList value
      s!"Invalid value for '{option}': {value}"

inductive OptionEffect
  | valued (set : Text → Arguments → Arguments)
  | flag (set : Arguments → Arguments)

namespace Arguments

def longOptions : List (String × OptionEffect) :=
  [("--file", .valued fun value arguments => { arguments with file := some value }),
    ("--table-case", .valued fun value arguments => { arguments with tableCase := some value }),
    ("--table-inflection",
      .valued fun value arguments => { arguments with tableInflection := some value }),
    ("--field-case", .valued fun value arguments => { arguments with fieldCase := some value }),
    ("--formatter", .valued fun value arguments => { arguments with formatter := some value }),
    ("--rename-references", .flag fun arguments => { arguments with renameReferences := true }),
    ("--keep-references", .flag fun arguments => { arguments with renameReferences := false }),
    ("--dry-run", .flag fun arguments => { arguments with dryRun := true }),
    ("--verbose", .flag fun arguments => { arguments with verbose := true }),
    ("--help", .flag fun arguments => { arguments with help := true })]

def shortOptions : List (Char × (Arguments → Arguments)) :=
  [('D', fun arguments => { arguments with dryRun := true }),
    ('v', fun arguments => { arguments with verbose := true }),
    ('h', fun arguments => { arguments with help := true })]

def usage : Text :=
  "Options: ".toList ++ Text.join [' '] (longOptions.map (·.1.toList)) ++ ['\n']

def longOption? (name : Text) : Option OptionEffect :=
  (longOptions.find? fun entry => entry.1.toList == name).map Prod.snd

/-- Several short options may stand behind one hyphen. -/
def setShort : Text → Arguments → Except UsageError Arguments
  | [], arguments => .ok arguments
  | c :: rest, arguments =>
      match shortOptions.lookup c with
      | some set => setShort rest (set arguments)
      | none => .error (.unknownOption ['-', c])

def splitValue (text : Text) : Text × Option Text :=
  match text.dropWhile (· != '=') with
  | [] => (text, none)
  | _ :: value => (text.takeWhile (· != '='), some value)

/-- Reads arguments from left to right. Behind two hyphens there are no options any more. -/
def parseFrom (arguments : Arguments) : List Text → Except UsageError Arguments
  | [] => .ok arguments
  | text :: rest =>
      if text = ['-', '-'] then
        .ok { arguments with positional := arguments.positional ++ rest }
      else if ['-', '-'].isPrefixOf text then
        let (name, value?) := splitValue text
        match longOption? name, value?, rest with
        | none, _, _ => .error (.unknownOption name)
        | some (.valued set), some value, rest => parseFrom (set value arguments) rest
        | some (.valued set), none, value :: rest => parseFrom (set value arguments) rest
        | some (.valued _), none, [] => .error (.missingValue name)
        | some (.flag _), some _, _ => .error (.unexpectedValue name)
        | some (.flag set), none, rest => parseFrom (set arguments) rest
      else
        match text with
        | '-' :: c :: letters =>
            match setShort (c :: letters) arguments with
            | .ok arguments => parseFrom arguments rest
            | .error error => .error error
        | _ => parseFrom { arguments with positional := arguments.positional ++ [text] } rest

/-- No file has a name with a null character in it, and the command takes nothing but options.
Whoever asks for help gets it nevertheless. -/
def validate (arguments : Arguments) : Except UsageError Arguments :=
  let file := arguments.file.getD []
  if arguments.help then .ok arguments
  else if file.contains '\x00' then .error (.invalidValue "--file".toList file)
  else if arguments.positional = [] then .ok arguments
  else .error (.unexpectedArguments arguments.positional)

/-- Only the value of an option that counts is looked at. -/
def parse (texts : List Text) : Except UsageError Arguments := do
  validate (← parseFrom {} texts)

end Arguments

end SchemaCase.Command
