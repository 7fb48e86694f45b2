/-
# Sessions

A session keeps the rows of a plot, the bounds of its axes and the size of its
canvas, so that a set of curves can be drawn again without typing.  A bound is a
number or a text; either becomes text, so that a wrong one is found where all
bounds are looked at.
-/

import CurveSheet.Engine.Document

namespace CurveSheet

open Plot

namespace Session

/-- A bound as it stands in a session. -/
inductive BoundValue where
  | number (x : Binary64)
  | text (s : String)
  deriving DecidableEq

/-- A bound as text. -/
def BoundValue.typed : BoundValue → String
  | number x => x.plainText
  | text s => s

/-- Equality of bounds: numbers are equal as numbers, and never equal to a text. -/
def BoundValue.equal : BoundValue → BoundValue → Bool
  | number x, number y => x.equal y
  | text s, text t => s == t
  | _, _ => false

/-- The bounds of an axis. -/
structure AxisBounds where
  min : BoundValue
  max : BoundValue
  deriving DecidableEq

namespace AxisBounds

/-- The bounds of an axis of which nothing is said. -/
def default : AxisBounds := ⟨.number (.ofInt (-10)), .number (.ofInt 10)⟩

/-- The bounds as typed. -/
def typed (bounds : AxisBounds) : Bounds := ⟨bounds.min.typed, bounds.max.typed⟩

/-- Equality of both bounds. -/
def equal (a b : AxisBounds) : Bool := a.min.equal b.min && a.max.equal b.max

end AxisBounds

/-- A row, with or without a colour of its own. -/
structure SessionRow where
  text : String
  colour : Option Colour
  deriving DecidableEq

end Session

open Session

/-- What is kept of a plot. -/
structure Session where
  x : AxisBounds
  y : AxisBounds
  width : UInt32
  height : UInt32
  grid : Bool
  rows : List SessionRow
  deriving DecidableEq

namespace Session

/-- The session of which nothing is said. -/
def default : Session :=
  let canvas := Engine.Canvas.default
  ⟨.default, .default, canvas.width, canvas.height, canvas.grid, []⟩

/-- The session to start from: one curve in the first colour. -/
def starter : Session := { default with rows := [⟨"sin(x)", some (.forRow 0)⟩] }

/-- The rows from position `start` on, each with its own colour or the one of its position. -/
def entriesFrom (start : Nat) : List SessionRow → List Row
  | [] => []
  | row :: rest => ⟨row.text, row.colour.getD (.forRow start)⟩ :: entriesFrom (start + 1) rest

/-- The rows, all with colours. -/
def entries (session : Session) : List Row := entriesFrom 0 session.rows

/-- The canvas; its target is always the default one. -/
def canvas (session : Session) : Engine.Canvas :=
  ⟨Engine.Canvas.default.target, session.width, session.height, session.grid⟩

/-- Equality of sessions, with numbers compared as numbers. -/
def equal (a b : Session) : Bool :=
  a.x.equal b.x && a.y.equal b.y && a.width == b.width && a.height == b.height &&
    a.grid == b.grid && a.rows == b.rows

end Session
end CurveSheet
