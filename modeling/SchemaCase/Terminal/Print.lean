import SchemaCase.Terminal.Markup

namespace SchemaCase.Terminal

/-- Bell, backspace, vertical tab, form feed and carriage return. -/
def isDropped (c : Char) : Bool :=
  c == '\x07' || c == '\x08' || c == '\x0B' || c == '\x0C' || c == '\r'

/-- Puts the parts of a line between its tabs one after the other. A tab is a blank, and those that
are missing to the next multiple of eight cells. -/
def alignParts (column : Nat) : List Text → Text
  | [] => []
  | [part] => part
  | part :: next :: parts =>
      let reached := column + cells (part ++ [' '])
      let stop := (reached + 7) / 8 * 8
      part ++ [' '] ++ List.replicate (stop - reached) ' ' ++ alignParts stop (next :: parts)

def expandTabs (text : Text) : Text :=
  Text.join ['\n'] ((Text.split '\n' text).map fun line => alignParts 0 (Text.split '\t' line))

def line (text : Text) : Text :=
  expandTabs (text.filter fun c => !isDropped c) ++ ['\n']

def print (text : Text) : Text :=
  line (Emoji.expand text)

def error (message : Text) : Text :=
  line (Markup.plain ("[red]".toList ++ Markup.escape message ++ "[/red]".toList))

def warning (message : Text) : Text :=
  line (Markup.plain ("[yellow]Warning:[/yellow] ".toList ++ Markup.escape message))

end SchemaCase.Terminal
