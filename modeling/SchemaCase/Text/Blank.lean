import SchemaCase.Text.CodeRanges

namespace SchemaCase.Text

/-- White space of all scripts together with the four information separators. -/
def blankRanges : CodeRanges :=
  [(0x09, 0x0D), (0x1C, 0x20), (0x85, 0x85), (0xA0, 0xA0), (0x1680, 0x1680), (0x2000, 0x200A),
  (0x2028, 0x2029), (0x202F, 0x202F), (0x205F, 0x205F), (0x3000, 0x3000)]

def isBlank (c : Char) : Bool :=
  blankRanges.contains c

/-- Blanks that may stand between the words of one line: the space and the tab. -/
def isInlineBlank (c : Char) : Bool :=
  c == ' ' || c == '\t'

def trimStart (text : Text) : Text :=
  text.dropWhile isBlank

def trimEnd (text : Text) : Text :=
  (text.reverse.dropWhile isBlank).reverse

def trim (text : Text) : Text :=
  trimEnd (trimStart text)

def leadingBlanks (text : Text) : Text :=
  text.takeWhile isBlank

def trailingBlanks (text : Text) : Text :=
  text.drop (trimEnd text).length

end SchemaCase.Text
