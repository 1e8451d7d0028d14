import SchemaCase.Text.Basic

namespace SchemaCase

/-- `slashes` are those in front; parts that name a parent directory stay. -/
structure Path where
  slashes : Text
  parts : List Text
  deriving DecidableEq, Repr

namespace Path

/-- Two slashes in front count as they are, any other number of them as one. -/
def leadingSlashes (text : Text) : Text :=
  match (text.takeWhile (· == '/')).length with
  | 0 => []
  | 2 => ['/', '/']
  | _ => ['/']

def ofText (text : Text) : Path :=
  { slashes := leadingSlashes text
    parts := (Text.split '/' text).filter fun part => !part.isEmpty && part != ['.'] }

/-- A path with nothing in it is that of the current directory. -/
def render (path : Path) : Text :=
  if path.slashes.isEmpty && path.parts.isEmpty then ['.']
  else path.slashes ++ Text.join ['/'] path.parts

end Path

end SchemaCase
