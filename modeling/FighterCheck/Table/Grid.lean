import FighterCheck.Text.Escape

/-!
# Drawing tables

A table has a header, rows, and an alignment for each column. A cell may hold several lines, and a row
is as high as its highest cell. Every column is as wide as its widest line with a blank on either side.
A table drawn in full has a line between any two rows and fills a given width: what its columns leave
of it is shared among them equally, the first ones taking one more each for the remainder. A column may
have a limit, and what goes beyond it has to do with its share.
-/

namespace FighterCheck.Table

/-- Where a cell stands in its column. -/
inductive Alignment where
  /-- at the left -/
  | left
  /-- in the middle, at the right of the middle where it does not fit evenly -/
  | center
  /-- at the right -/
  | right
  deriving Repr, DecidableEq

/-- The cells of a table, and how its columns are aligned. -/
structure Grid where
  /-- the alignment of each column -/
  alignments : List Alignment
  /-- the header -/
  header : List String
  /-- the rows -/
  rows : List (List String)
  deriving Repr, DecidableEq

/-- How a table is drawn. -/
inductive Style where
  /-- with no lines between rows -/
  | plain
  /-- with a line between any two rows, filling a width; each column may have a limit, blanks on either
  side included -/
  | full (width : Nat) (limits : List (Option Nat))
  deriving Repr, DecidableEq

/-- So many copies of a character. -/
def copies (n : Nat) (c : Char) : String := String.ofList (List.replicate n c)

/-- A line of a cell of that width, blanks on either side included; a cell may have no such line. -/
def cell (alignment : Alignment) (width : Nat) : Option String → String
  | none => copies width ' '
  | some s =>
    let gap := width - 2 - Text.shownWidth s
    let before := match alignment with
      | .left => 0
      | .center => (gap + 1) / 2
      | .right => gap
    copies (before + 1) ' ' ++ s ++ copies (gap - before + 1) ' '

/-- A line between rows: its ends, its crossings, and what it is made of. -/
def rule (start line cross stop : String) (widths : List Nat) : String :=
  start ++ cross.intercalate (widths.map fun w => String.join (List.replicate w line)) ++ stop

namespace Grid

/-- The table with the styles of its cells carried through their lines. -/
def styled (g : Grid) : Grid :=
  { g with header := g.header.map Text.styled, rows := g.rows.map (·.map Text.styled) }

/-- The lines in a column, the header's first. -/
def column (g : Grid) (i : Nat) : List String :=
  (g.header :: g.rows).flatMap fun row => Text.styledLines (row[i]?.getD "")

/-- The width of each column as its cells need it, blanks on either side included. -/
def neededWidths (g : Grid) : List Nat :=
  (List.range g.header.length).map fun i =>
    (((g.column i).map Text.shownWidth).max?.getD 0) + 2

/-- The widths, none of them beyond its limit. -/
def limited (limits : List (Option Nat)) (widths : List Nat) : List Nat :=
  widths.zipWith (fun w limit => (limit.map (min w)).getD w) limits

/-- The widths with what is left of `total` shared among them. -/
def stretch (total : Nat) (widths : List Nat) : List Nat :=
  let left := total - widths.foldl (· + ·) 0
  widths.zipIdx.map fun (w, i) =>
    w + left / widths.length + if i < left % widths.length then 1 else 0

/-- The width of each column. -/
def widths (g : Grid) : Style → List Nat
  | .plain => g.neededWidths
  | .full total limits =>
    stretch (total - (g.header.length + 1)) (limited limits g.neededWidths)

/-- The lines of a row. -/
def rowLines (g : Grid) (bar : String) (widths : List Nat) (row : List String) : List String :=
  let cells := (List.range widths.length).map fun i => Text.styledLines (row[i]?.getD "")
  let columns := (widths.zip g.alignments).zip cells
  (List.range ((cells.map List.length).max?.getD 0)).map fun i =>
    "│" ++ bar.intercalate (columns.map fun ((w, a), ls) => cell a w ls[i]?) ++ "│"

/-- The lines of a table. -/
def lines (g : Grid) (style : Style) : List String :=
  let ws := g.widths style
  let bar := match style with
    | .plain => "┆"
    | .full .. => "│"
  let body := g.rows.map (g.rowLines bar ws)
  let body := match style with
    | .plain => body
    | .full .. => body.intersperse [rule "├" "─" "┼" "┤" ws]
  [rule "╭" "─" "┬" "╮" ws] ++ g.rowLines bar ws g.header ++ [rule "╞" "═" "╪" "╡" ws] ++
    body.flatten ++ [rule "╰" "─" "┴" "╯" ws]

/-- The table drawn with line breaks between its lines. -/
def draw (g : Grid) (style : Style) : String := "\n".intercalate (g.lines style)

end Grid

end FighterCheck.Table
