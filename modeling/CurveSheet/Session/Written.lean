/-
# Sessions as text

A session is written with a line for every field, in a fixed order.  The bounds of an
axis lie under its name, two columns in; the rows under theirs, each with a dash
before its first field and without the colour if it has none.  A session without
rows has empty brackets there.  Numbers are written so that they read back as
numbers, and texts so that they read back as texts.
-/

import CurveSheet.Session.Basic
import CurveSheet.Yaml.Scalar.Written

namespace CurveSheet
namespace Session

open Yaml Plot

/-- The columns before the further lines of a text: fields of axes and rows lie one step in,
and the lines of their values one step more. -/
def valueIndent : Nat := 2 * indentStep

/-- A text behind its key, with the end of its line. -/
def textField (name text : String) : List Char :=
  name.toList ++ [':', ' '] ++ written valueIndent text.toList

/-- A bound behind its key, with the end of its line. -/
def boundField (name : String) : BoundValue → List Char
  | .number x => name.toList ++ [':', ' '] ++ Layout.yaml.chars x ++ ['\n']
  | .text s => textField name s

/-- The lines of an axis. -/
def axisLines (name : String) (bounds : AxisBounds) : List Char :=
  name.toList ++ [':', '\n'] ++ [' ', ' '] ++ boundField "min" bounds.min ++
    [' ', ' '] ++ boundField "max" bounds.max

/-- The line of a number of pixels. -/
def sizeLine (name : String) (size : UInt32) : List Char :=
  name.toList ++ [':', ' '] ++ Nat.toDigits 10 size.toNat ++ ['\n']

/-- The line that says whether there is a grid. -/
def gridLine (grid : Bool) : List Char :=
  "grid: ".toList ++ (if grid then "true" else "false").toList ++ ['\n']

/-- The lines of a row. -/
def rowLines (row : SessionRow) : List Char :=
  ['-', ' '] ++ textField "text" row.text ++
    match row.colour with
    | some colour => [' ', ' '] ++ textField "color" colour.name
    | none => []

/-- The lines of the rows. -/
def rowsLines (rows : List SessionRow) : List Char :=
  if rows.isEmpty then "rows: []\n".toList else "rows:\n".toList ++ rows.flatMap rowLines

/-- A session as text. -/
def toYaml (session : Session) : String :=
  String.ofList (axisLines "x" session.x ++ axisLines "y" session.y ++
    sizeLine "width" session.width ++ sizeLine "height" session.height ++ gridLine session.grid ++
    rowsLines session.rows)

end Session
end CurveSheet
