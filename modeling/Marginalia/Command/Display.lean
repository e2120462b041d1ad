import Marginalia.Generation

/-
  This file writes what the commands show: the banner of the
  program and the summary of a run.

  Key definitions include:
    * `Display.panel`
    * `Display.banner`
    * `Display.thousands`
    * `Display.grid`
    * `Display.summary`
-/

namespace Marginalia

namespace Display

------------------------------------------------------------
-- Alignment
------------------------------------------------------------

/- Lines with a line end after each. -/
def unlines
    (lines : List Text) : Text :=
  lines.flatMap (· ++ ['\n'])

/- A text made up to a width on its right. -/
def padRight
    (width : Nat)
    (filler : Char)
    (text : Text) : Text :=
  text ++ List.replicate (width - text.length) filler

/- A text made up to a width on its left. -/
def padLeft
    (width : Nat)
    (filler : Char)
    (text : Text) : Text :=
  List.replicate (width - text.length) filler ++ text

/-
  A text in the middle of a width. What cannot be shared goes
  to the right.
-/
def centre
    (width : Nat)
    (filler : Char)
    (text : Text) : Text :=
  padRight width filler
    (padLeft (text.length + (width - text.length) / 2) filler text)

------------------------------------------------------------
-- The Banner
------------------------------------------------------------

/- Lines in a frame with a title. -/
def panel
    (title : Text)
    (lines : List Text) : List Text :=
  let width := (lines.map (·.length)).foldl max 0
  let top := centre (width + 2) '─' ([' '] ++ title ++ [' '])
  (['╭'] ++ top ++ ['╮']) ::
    lines.map (fun line =>
      "│ ".toList ++ padRight width ' ' line ++ " │".toList) ++
    [['╰'] ++ List.replicate (width + 2) '─' ++ ['╯']]

/- The name of the program. -/
def programName : Text :=
  "weavedoc".toList

/- The version of the program. -/
def programVersion : Text :=
  "0.1.0".toList

/- The banner of the program. -/
def banner : Text :=
  unlines
    (panel programName
      [programName ++ [' '] ++ programVersion ++
          " - DataWeave Document Generator".toList,
        "Builds Markdown documentation from /** ... */ doc comments in DataWeave sources.".toList])

------------------------------------------------------------
-- The Summary
------------------------------------------------------------

/-
  Digits, in reverse, with a comma after every three of them
  that more digits follow.
-/
def groupDigits : Text → Text
  | a :: b :: c :: d :: rest =>
      a :: b :: c :: ',' :: groupDigits (d :: rest)
  | short => short

/- A number with commas between its thousands. -/
def thousands
    (n : Nat) : Text :=
  (groupDigits (Text.ofNat n).reverse).reverse

/- A line of rules, joined and closed by corner marks. -/
def ruleLine
    (left rule joint right : Char)
    (widths : List Nat) : Text :=
  [left] ++
    Text.join [joint]
      (widths.map fun width => List.replicate (width + 2) rule) ++
    [right]

/- A line of cells, each at the right of its column. -/
def cellLine
    (border : Char)
    (cells : List (Nat × Text)) : Text :=
  [border] ++
    cells.flatMap fun (width, cell) =>
      [' '] ++ padLeft width ' ' cell ++ [' ', border]

/- A table of one row with a title and a heading a column. -/
def grid
    (title : Text)
    (columns : List (Text × Text)) : List Text :=
  let widths :=
    columns.map fun (heading, cell) =>
      max heading.length cell.length
  let top := ruleLine '┏' '━' '┳' '┓' widths
  [centre top.length ' ' title,
    top,
    cellLine '┃' (widths.zip (columns.map (·.1))),
    ruleLine '┡' '━' '╇' '┩' widths,
    cellLine '│' (widths.zip (columns.map (·.2))),
    ruleLine '└' '─' '┴' '┘' widths]

/- The summary of a run. -/
def summary
    (report : Report) : Text :=
  unlines
    (grid "Generation Summary".toList
      [("Modules".toList, Text.ofNat report.modules.length),
        ("Variables".toList, Text.ofNat report.variableCount),
        ("Functions".toList, Text.ofNat report.functionCount),
        ("Tables".toList, Text.ofNat report.tableCount),
        ("Size".toList, thousands report.size ++ " bytes".toList)])

end Display

end Marginalia
