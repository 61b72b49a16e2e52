/-!
# Grids: a table in a frame, under a title

A grid has a title, columns with headings, and rows. The frame around the headings is heavy, that around the rows light. Each
column is as wide as its widest text and a blank at either side. A grid that is wider than its page takes the excess off its
widest column, where longer texts are cut and end in an ellipsis. The title is centred over the grid and filled up with blanks
to its width; of an odd number of blanks the greater part stands on the right.
-/

namespace Reckoner.Layout

/-- A column: its heading, and whether its texts stand on the right. -/
structure Column where
  heading : String
  onRight : Bool
  deriving DecidableEq, Repr

/-- A number of copies of a character. -/
def fill (c : Char) (n : Nat) : String := String.ofList (List.replicate n c)

/-- A text filled up with blanks to a width, or cut to it if it is longer. -/
def align (onRight : Bool) (width : Nat) (s : String) : String :=
  if width < s.length then String.ofList (s.toList.take (width - 1)) ++ "…"
  else
    let blanks := fill ' ' (width - s.length)
    if onRight then blanks ++ s else s ++ blanks

/-- A table: its title, its columns, and its rows with a text for each column. -/
structure Grid where
  title : String
  columns : List Column
  rows : List (List String)
  deriving DecidableEq, Repr

namespace Grid

/-- The widths of the widest texts of the columns. -/
def textWidths (g : Grid) : List Nat :=
  g.columns.zipIdx.map fun (c, i) =>
    g.rows.foldl (fun w row => max w ((row[i]?).getD "").length) c.heading.length

/-- The width of a frame around columns of given widths, the blanks at their sides apart. -/
def frameWidth (widths : List Nat) : Nat := widths.foldr (fun w rest => w + 3 + rest) 1

/-- The widths of the columns on a page, the blanks at their sides apart. -/
def widths (g : Grid) (page : Nat) : List Nat :=
  let ws := g.textWidths
  ws.modify (ws.idxOf (ws.foldl max 0)) (· - (frameWidth ws - page))

/-- A line of texts in columns of given widths, between bars. -/
def textLine (g : Grid) (widths : List Nat) (bar : String) (texts : List String) : String :=
  let cells := (g.columns.zip (widths.zip texts)).map fun (c, w, s) => " " ++ align c.onRight w s ++ " "
  bar ++ bar.intercalate cells ++ bar

/-- A line of the frame: its left end, the stroke, the crossings and its right end. -/
def frameLine (widths : List Nat) (left : String) (stroke : Char) (crossing right : String) : String :=
  left ++ crossing.intercalate (widths.map fun w => fill stroke (w + 2)) ++ right

/-- The title, centred over a grid of a given width. -/
def titleLine (g : Grid) (width : Nat) : String :=
  align false width (fill ' ' ((width - g.title.length) / 2) ++ g.title)

/-- The lines of a grid on a page of a given width. -/
def lines (g : Grid) (page : Nat) : List String :=
  let ws := g.widths page
  [g.titleLine (frameWidth ws), frameLine ws "┏" '━' "┳" "┓", g.textLine ws "┃" (g.columns.map (·.heading)),
      frameLine ws "┡" '━' "╇" "┩"] ++
    g.rows.map (g.textLine ws "│") ++ [frameLine ws "└" '─' "┴" "┘"]

end Grid

end Reckoner.Layout
