import SchemaCase.Source.Position
import SchemaCase.Text.Blank
import SchemaCase.Text.Quoted

namespace SchemaCase

inductive ParseError.Kind
  | unterminatedBlock
  | unrecognizedConstruct
  deriving DecidableEq, Repr

def ParseError.Kind.describe : ParseError.Kind → String
  | .unterminatedBlock => "unterminated block"
  | .unrecognizedConstruct => "unrecognized top-level construct"

/-- Where the place is known, its line and column count from 1. -/
structure ParseError where
  kind : ParseError.Kind
  detail : String
  line : Option Int := none
  column : Option Int := none
  deriving DecidableEq, Repr

namespace ParseError

/-- An unknown column is written out as such, an unknown line drops the place altogether. -/
def message (error : ParseError) : String :=
  let kind := error.kind.describe
  let detail := error.detail
  match error.line with
  | none => s!"{kind}: {detail}"
  | some line =>
      let column := (error.column.map toString).getD "None"
      s!"{kind} at line {line}, column {column}: {detail}"

private def locate (kind : Kind) (detail : String) (text : Text) (offset : Nat) : ParseError :=
  let position := Source.positionAt text offset
  { kind, detail, line := some position.line, column := some position.column }

def strayBrace (text : Text) (offset : Nat) : ParseError :=
  let upToBrace := text.take (offset + 1)
  let brace := String.ofList upToBrace.getLast?.toList
  let snippet := String.ofList (Text.quoted (Text.trim (Source.lastLine upToBrace)))
  locate .unrecognizedConstruct s!"unexpected '{brace}' outside of a block near {snippet}" text
    offset

def unclosedBlock (text : Text) (offset : Nat) (keyword name : Text) : ParseError :=
  let keyword := String.ofList keyword
  let name := String.ofList name
  locate .unterminatedBlock s!"{keyword} {name} is never closed" text offset

end ParseError

end SchemaCase
