import Keypad.Text.Width

/-!
Tables of three columns, drawn with box characters.

Every column is as wide as its widest cell.  The first two are aligned to the
left, the last one to the right, headers included.

Owns: the rows, the widths of the columns, the lines of a table.
-/

namespace Keypad.CommandLine

structure Row where
  key : Text
  expression : Text
  result : Text
deriving DecidableEq, Repr

namespace Row

def header : Row where
  key := "Key".toList
  expression := "Expression".toList
  result := "Result".toList

end Row

structure Widths where
  key : Nat
  expression : Nat
  result : Nat
deriving DecidableEq, Repr

namespace Table

def widthsOf (row : Row) : Widths :=
  ⟨row.key.width, row.expression.width, row.result.width⟩

/-- Widths that suffice for both of two rows. -/
def widen (widths : Widths) (row : Row) : Widths where
  key := max widths.key row.key.width
  expression := max widths.expression row.expression.width
  result := max widths.result row.result.width

def widths (rows : List Row) : Widths :=
  rows.foldl widen (widthsOf .header)

def free (width : Nat) (text : Text) : Text :=
  List.replicate (width - text.width) ' '

def left (width : Nat) (text : Text) : Text :=
  text ++ free width text

def right (width : Nat) (text : Text) : Text :=
  free width text ++ text

/-- The characters of a horizontal line: its ends, its body and its joints. -/
structure Rule where
  start : Char
  line : Char
  joint : Char
  stop : Char

def topRule : Rule :=
  ⟨'┏', '━', '┳', '┓'⟩

def headerRule : Rule :=
  ⟨'┡', '━', '╇', '┩'⟩

def bottomRule : Rule :=
  ⟨'└', '─', '┴', '┘'⟩

/-- A horizontal line; every column has a space on either side of its cells. -/
def ruleLine (rule : Rule) (widths : Widths) : Text :=
  rule.start :: List.replicate (widths.key + 2) rule.line ++
    rule.joint :: List.replicate (widths.expression + 2) rule.line ++
    rule.joint :: List.replicate (widths.result + 2) rule.line ++ [rule.stop]

def rowLine (bar : Char) (widths : Widths) (row : Row) : Text :=
  bar :: ' ' :: left widths.key row.key ++
    ' ' :: bar :: ' ' :: left widths.expression row.expression ++
    ' ' :: bar :: ' ' :: right widths.result row.result ++ [' ', bar]

def lines (rows : List Row) : List Text :=
  let widths := widths rows
  [ruleLine topRule widths, rowLine '┃' widths .header,
      ruleLine headerRule widths] ++
    rows.map (rowLine '│' widths) ++ [ruleLine bottomRule widths]

end Table

end Keypad.CommandLine
