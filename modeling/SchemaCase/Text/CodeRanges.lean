import SchemaCase.Text.Basic

namespace SchemaCase.Text

/-- Pairs of a first and a last code point, both included. -/
abbrev CodeRanges := List (Nat × Nat)

def CodeRanges.contains (ranges : CodeRanges) (c : Char) : Bool :=
  ranges.any fun range => range.1 ≤ c.toNat && c.toNat ≤ range.2

end SchemaCase.Text
