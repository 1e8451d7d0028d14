import SchemaCase.Text.Basic

namespace SchemaCase.Source

structure Position where
  line : Nat
  column : Nat
  deriving DecidableEq, Repr

def lastLine (text : Text) : Text :=
  (text.reverse.takeWhile (· != '\n')).reverse

/-- An offset behind the end of the text counts on from the last line. -/
def positionAt (text : Text) (offset : Nat) : Position :=
  let before := text.take offset
  { line := before.count '\n' + 1
    column := (lastLine before).length + (offset - before.length) + 1 }

end SchemaCase.Source
