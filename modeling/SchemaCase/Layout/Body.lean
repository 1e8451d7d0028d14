import SchemaCase.Layout.Columns

namespace SchemaCase.Layout

/-- A line of a body: one that is set in columns with its neighbours, or one that stands by
itself. -/
inductive Item (α : Type)
  | member (value : α)
  | single (text : Text)

/-- Renders neighbouring members together; `group` holds those in front of the first item. -/
def renderItems (renderGroup : List α → List Text) (group : List α) : List (Item α) → List Text
  | [] => renderGroup group
  | .member value :: rest => renderItems renderGroup (group ++ [value]) rest
  | .single text :: rest => renderGroup group ++ text :: renderItems renderGroup [] rest

/-- A line that is set in no columns: blank lines are empty, others are indented. -/
def plainLine (text : Text) : Text :=
  let stripped := Text.trim text
  if stripped.isEmpty then [] else indent ++ stripped

def fieldItem (line : Line) : Item FieldRow :=
  let line := line.classify
  if line.isField then .member (.ofLine line) else .single (plainLine line.text)

def settingItem (line : Line) : Item Setting :=
  match Setting.ofLine? line with
  | some setting => .member setting
  | none => .single (plainLine line.text)

def bodyLines (block : Block) : List Text :=
  if block.kind.isSettings then
    renderItems Setting.renderGroup [] (block.lines.map settingItem)
  else renderItems FieldRow.renderGroup [] (block.lines.map fieldItem)

/-- Keeps one of several empty lines in a row, and none where `afterEmpty` holds. -/
def collapseFrom (afterEmpty : Bool) : List Text → List Text
  | [] => []
  | line :: rest =>
      if line.isEmpty && afterEmpty then collapseFrom true rest
      else line :: collapseFrom line.isEmpty rest

/-- Leaves no empty line at either end and no two in a row. -/
def collapseEmpty (lines : List Text) : List Text :=
  ((collapseFrom true lines).reverse.dropWhile List.isEmpty).reverse

def blockLines (block : Block) : List Text :=
  (block.keyword ++ ' ' :: block.name ++ [' ', '\x7b']) ::
    collapseEmpty (bodyLines block) ++ [['\x7d']]

end SchemaCase.Layout
