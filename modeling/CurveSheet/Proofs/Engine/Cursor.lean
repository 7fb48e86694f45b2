/-
# What the cursor readout says of a point

A point is shown by two decimals with three places.  Each is the thousandth nearest to its
coordinate, with the coordinate's sign also where nothing else is left of it, so points do not
change their order in the readout and are never off by more than half a thousandth
(`cursorText_nearest_thousandths`).
-/

import CurveSheet.Engine.Draw
import CurveSheet.Proofs.Number.Places

namespace CurveSheet
namespace Engine

/-- **A point is shown to the nearest thousandth.**  The readout of two finite coordinates is two
decimals with three digits behind the point.  Their values are the multiples of a thousandth that
are nearest to the exact values, of two as near the one with the even last digit, and their signs
are those of the coordinates.  So they are off by half a thousandth at most, and a coordinate that
is not above another is not shown above it. -/
theorem cursorText_nearest_thousandths : ∃ shown : Finite → Decimal,
    (∀ x y : Finite, cursorText (.finite x) (.finite y) =
      "(" ++ String.ofList (shown x).chars ++ ", " ++ String.ofList (shown y).chars ++ ")") ∧
    (∀ x, (shown x).IsNearest 3 x) ∧
    (∀ x, |x.value - (shown x).value| ≤ 0.0005) ∧
    ∀ x y, x.value ≤ y.value → (shown x).value ≤ (shown y).value := by
  have hplaces : 0 < cursorDecimals := by decide
  refine ⟨Finite.decimal cursorDecimals, fun x y => ?_, Finite.isNearest_decimal hplaces,
    fun x => ?_, fun x y => Finite.value_decimal_mono hplaces⟩
  · rw [cursorText, Finite.placesChars_eq, Finite.placesChars_eq]
  · refine (x.abs_value_sub_le hplaces).trans (le_of_eq ?_)
    norm_num [cursorDecimals]

/-- A sixteenth lies halfway between two thousandths and is shown as the even one; of the least
number below zero only the sign is left. -/
theorem cursorText_nearest_thousandths_sixteenth :
    let least : Finite := ⟨true, 1, by decide⟩
    let sixteenth : Finite := ⟨false, 1019 * 2 ^ 52, by decide⟩
    cursorText (.finite sixteenth) (.finite least) = "(0.062, -0.000)" ∧
      ∃ a b : Decimal, cursorText (.finite least) (.finite sixteenth) =
          "(" ++ String.ofList a.chars ++ ", " ++ String.ofList b.chars ++ ")" ∧
        a.IsNearest 3 least ∧ b.IsNearest 3 sixteenth ∧
        least.value ≤ sixteenth.value ∧ a.value ≤ b.value := by
  intro least sixteenth
  obtain ⟨shown, htext, hnearest, -, hmono⟩ := cursorText_nearest_thousandths
  have hle : least.value ≤ sixteenth.value :=
    ((Finite.value_lt_value_iff least sixteenth).2 (by decide)).le
  exact ⟨by decide +kernel, shown least, shown sixteenth, htext least sixteenth, hnearest least,
    hnearest sixteenth, hle, hmono least sixteenth hle⟩

end Engine
end CurveSheet
