/-
# Rows and plot specifications

A *row* is a formula as typed, with a colour.  A row that is not blank becomes a
*specification*: its normal form, sorted into its kind and put into the form the
engine takes.
-/

import CurveSheet.Formula.Normal
import CurveSheet.Formula.Classify
import CurveSheet.Plot.Colour

namespace CurveSheet
namespace Plot

open Formula

/-- A formula as typed, and its colour. -/
structure Row where
  text : String
  colour : Colour
  deriving DecidableEq

/-- Rows for texts, coloured by position from `start` on. -/
def Row.colouredFrom (start : Nat) : List String → List Row
  | [] => []
  | text :: rest => ⟨text, .forRow start⟩ :: colouredFrom (start + 1) rest

/-- Rows for texts, coloured by position. -/
def Row.coloured (texts : List String) : List Row := colouredFrom 0 texts

/-- How the engine should draw a curve. -/
inductive Hint where
  | polyline
  deriving DecidableEq

/-- The word for a hint. -/
def Hint.name : Hint → String
  | polyline => "polyline"

/-- One curve for the engine.  Without a hint the engine decides how to draw it. -/
structure Spec where
  formula : String
  kind : Kind
  colour : Colour
  hint? : Option Hint
  deriving DecidableEq

namespace Spec

/-- An explicit curve, which is drawn as a polyline. -/
def explicit (formula : String) (colour : Colour) : Spec :=
  ⟨formula, .explicit, colour, some .polyline⟩

/-- An implicit curve, which is drawn as the engine decides. -/
def implicit (formula : String) (colour : Colour) : Spec := ⟨formula, .implicit, colour, none⟩

/-- The curve of a formula of a known kind. -/
def ofClassified (classified : Classified) (colour : Colour) : Spec :=
  match classified.kind with
  | .explicit => explicit classified.formula colour
  | .implicit => implicit classified.formula colour

@[simp] theorem formula_ofClassified (classified : Classified) (colour : Colour) :
    (ofClassified classified colour).formula = classified.formula := by
  unfold ofClassified
  split <;> rfl

@[simp] theorem kind_ofClassified (classified : Classified) (colour : Colour) :
    (ofClassified classified colour).kind = classified.kind := by
  unfold ofClassified
  split <;> simp_all [explicit, implicit]

@[simp] theorem colour_ofClassified (classified : Classified) (colour : Colour) :
    (ofClassified classified colour).colour = colour := by
  unfold ofClassified
  split <;> rfl

end Spec

/-- The specification of a row, none for a blank one. -/
def Row.spec? (row : Row) : Except RowError (Option Spec) :=
  let text := Text.trim row.text
  if text.isEmpty then .ok none
  else match classify (normalize text) with
    | .ok classified => .ok (some (.ofClassified classified row.colour))
    | .error fault => .error fault

end Plot
end CurveSheet
