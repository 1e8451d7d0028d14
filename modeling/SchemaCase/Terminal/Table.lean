import SchemaCase.Terminal.CellWidth

namespace SchemaCase.Terminal

def lineWidth : Nat :=
  1000

/-- The quotient, rounded to the nearest number, and half way to the even one. -/
def roundDiv (a b : Nat) : Nat :=
  let quotient := a / b
  let twice := 2 * (a % b)
  if twice < b || (twice == b && quotient % 2 == 0) then quotient else quotient + 1

/-- Takes `excess` off the widths that are `widest`, `count` of them, evenly but from none more than
`most`. -/
def shareExcess (widest most : Nat) : Nat → Nat → List Nat → List Nat
  | _, _, [] => []
  | excess, count, width :: widths =>
      if width = widest then
        let share := min most (roundDiv excess count)
        (width - share) :: shareExcess widest most (excess - share) (count - 1) widths
      else width :: shareExcess widest most excess count widths

/-- Narrows the widest columns, in some steps, until the columns fit. -/
def fitWidths (limit : Nat) : Nat → List Nat → List Nat
  | 0, widths => widths
  | steps + 1, widths =>
      if widths.sum ≤ limit then widths
      else
        let excess := widths.sum - limit
        let widest := widths.foldl max 0
        let second := (widths.filter (· != widest)).foldl max 0
        fitWidths limit steps
          (shareExcess widest (min excess (widest - second)) excess (widths.count widest) widths)

/-- The width of each column is that of its widest cell with a blank on both sides. -/
def columnWidths (limit : Nat) : List Text → List (List Text) → List Nat
  | [], _ => []
  | title :: titles, rows =>
      let widest := ((title :: rows.map (·.headD [])).map cells).foldl max 0
      min limit (widest + 2) :: columnWidths limit titles (rows.map List.tail)

def takeCells (width : Nat) : Text → Text
  | [] => []
  | c :: text =>
      if cellWidth c ≤ width then c :: takeCells (width - cellWidth c) text else []

def padCells (width : Nat) (text : Text) : Text :=
  text ++ List.replicate (width - cells text) ' '

/-- A text that takes exactly `width` cells; one that is too long is cut, which a mark shows. -/
def fitCell (width : Nat) (text : Text) : Text :=
  if cells text ≤ width then padCells width text
  else padCells (width - 1) (takeCells (width - 1) text) ++ ['…']

structure Rule where
  left : Char
  fill : Char
  cross : Char
  right : Char

def Rule.render (rule : Rule) (widths : List Nat) : Text :=
  rule.left :: Text.join [rule.cross] (widths.map fun width => List.replicate width rule.fill) ++
    [rule.right, '\n']

def renderRow (border : Char) (widths : List Nat) (row : List Text) : Text :=
  let padded := (widths.zip row).map fun (width, cell) => ' ' :: fitCell (width - 2) cell ++ [' ']
  border :: Text.join [border] padded ++ [border, '\n']

def table (titles : List Text) (rows : List (List Text)) : Text :=
  let limit := lineWidth - (titles.length + 1)
  let widths := fitWidths limit titles.length (columnWidths limit titles rows)
  Rule.render ⟨'┏', '━', '┳', '┓'⟩ widths ++ renderRow '┃' widths titles ++
    Rule.render ⟨'┡', '━', '╇', '┩'⟩ widths ++ rows.flatMap (renderRow '│' widths) ++
    Rule.render ⟨'└', '─', '┴', '┘'⟩ widths

end SchemaCase.Terminal
