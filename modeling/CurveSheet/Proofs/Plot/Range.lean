/-
# Ranges between typed bounds

A typed bound denotes the number that is read from it, less the blanks around it
(`denoted?`).  Bounds make a range exactly if both denote finite numbers and the value of the
first is less than that of the second (`Bounds.range_eq_ok_iff`).  Otherwise what is wrong is
looked for in a fixed order (`Bounds.Fails`), and the fault is the first that is found
(`Bounds.range_eq_error_iff`).

Bounds are all that can keep rows from an outcome, and rows have no say in it: whether there is
one, on which ranges, and else the error, comes from the bounds alone
(`build_requires_ranges`).

The text of a number has no blanks and reads back as the number, an infinity and a NaN too
(`denoted?_plainText`).  So numbers given as text make the range that they make by themselves,
or fail as they fail by themselves (`numeric_bounds_keep_range`).
-/

import CurveSheet.Error
import CurveSheet.Plot.Batch
import CurveSheet.Proofs.Number.Characters
import CurveSheet.Proofs.Number.Order
import CurveSheet.Proofs.Number.ReadBack
import CurveSheet.Session.Basic

namespace CurveSheet
namespace Plot

/-! ### What bounds denote -/

/-- The number that a typed bound denotes. -/
def denoted? (typed : String) : Option Binary64 := Binary64.read? (Text.trimChars typed.toList)

/-- Both bounds denote finite numbers, and the first is less than the second. -/
structure Bounds.Span (bounds : Bounds) (lower upper : Finite) : Prop where
  min : denoted? bounds.min = some (.finite lower)
  max : denoted? bounds.max = some (.finite upper)
  increasing : lower.units < upper.units

/-- The first thing that is wrong with bounds: the lower one is no number, or the upper one, or
one of them is not finite, or they are not in order. -/
inductive Bounds.Fails (bounds : Bounds) : RangeFault → Prop where
  | minText (hmin : denoted? bounds.min = none) :
    bounds.Fails (.notANumber .min (Text.trim bounds.min))
  | maxText {min : Binary64} (hmin : denoted? bounds.min = some min)
      (hmax : denoted? bounds.max = none) :
    bounds.Fails (.notANumber .max (Text.trim bounds.max))
  | notFinite {min max : Binary64} (hmin : denoted? bounds.min = some min)
      (hmax : denoted? bounds.max = some max) (h : min.finite? = none ∨ max.finite? = none) :
    bounds.Fails .notFinite
  | notIncreasing {lower upper : Finite} (hmin : denoted? bounds.min = some (.finite lower))
      (hmax : denoted? bounds.max = some (.finite upper)) (h : upper.units ≤ lower.units) :
    bounds.Fails (.notIncreasing lower upper)

/-! ### Ranges between numbers -/

theorem AxisRange.ofNumbers_eq_ok_iff {min max : Binary64} {range : AxisRange} :
    ofNumbers min max = .ok range ↔ min = .finite range.min ∧ max = .finite range.max := by
  constructor
  · intro h
    unfold ofNumbers at h
    split at h
    · rename_i lower upper hlower hupper
      split at h
      · cases h
        cases min <;> cases hlower
        cases max <;> cases hupper
        exact ⟨rfl, rfl⟩
      · cases h
    · cases h
  · rintro ⟨rfl, rfl⟩
    exact dif_pos range.min_lt_max

theorem AxisRange.ofNumbers_eq_error_iff {min max : Binary64} {fault : RangeFault} :
    ofNumbers min max = .error fault ↔
      fault = .notFinite ∧ (min.finite? = none ∨ max.finite? = none) ∨
        ∃ lower upper, fault = .notIncreasing lower upper ∧ min = .finite lower ∧
          max = .finite upper ∧ upper.units ≤ lower.units := by
  cases min with
  | finite lower =>
    cases max with
    | finite upper =>
      rw [ofNumbers]
      simp only [Binary64.finite?, reduceCtorEq, or_self, and_false, false_or,
        Binary64.finite.injEq]
      by_cases h : lower.order < upper.order
      · rw [dif_pos h]
        refine iff_of_false (by simp) ?_
        rintro ⟨_, _, -, rfl, rfl, hle⟩
        exact absurd ((Finite.units_lt_units_iff ..).2 h) (Int.not_lt.2 hle)
      · rw [dif_neg h, Except.error.injEq]
        constructor
        · rintro rfl
          exact ⟨lower, upper, rfl, rfl, rfl,
            Int.not_lt.1 fun hlt => h ((Finite.units_lt_units_iff ..).1 hlt)⟩
        · rintro ⟨_, _, rfl, rfl, rfl, -⟩
          rfl
    | nan => simp [ofNumbers, Binary64.finite?, eq_comm]
    | infinite negative => simp [ofNumbers, Binary64.finite?, eq_comm]
  | nan => simp [ofNumbers, Binary64.finite?, eq_comm]
  | infinite negative => simp [ofNumbers, Binary64.finite?, eq_comm]

/-! ### Ranges between bounds -/

theorem readBound_eq (bound : Bound) (typed : String) :
    readBound bound typed =
      match denoted? typed with
      | some number => .ok number
      | none => .error (.notANumber bound (Text.trim typed)) := rfl

/-- **Bounds that denote numbers make the range between these.** -/
theorem Bounds.range_of_denoted {bounds : Bounds} {min max : Binary64}
    (hmin : denoted? bounds.min = some min) (hmax : denoted? bounds.max = some max) :
    bounds.range = AxisRange.ofNumbers min max := by
  simp only [range, readBound_eq, hmin, hmax]

theorem Bounds.range_eq_error_iff {bounds : Bounds} {fault : RangeFault} :
    bounds.range = .error fault ↔ bounds.Fails fault := by
  constructor
  · intro h
    cases hmin : denoted? bounds.min with
    | none =>
      simp only [range, readBound_eq, hmin] at h
      cases h
      exact .minText hmin
    | some min =>
      cases hmax : denoted? bounds.max with
      | none =>
        simp only [range, readBound_eq, hmin, hmax] at h
        cases h
        exact .maxText hmin hmax
      | some max =>
        rw [range_of_denoted hmin hmax, AxisRange.ofNumbers_eq_error_iff] at h
        rcases h with ⟨rfl, hfinite⟩ | ⟨lower, upper, rfl, rfl, rfl, hle⟩
        · exact .notFinite hmin hmax hfinite
        · exact .notIncreasing hmin hmax hle
  · intro h
    cases h with
    | minText hmin => simp only [range, readBound_eq, hmin]
    | maxText hmin hmax => simp only [range, readBound_eq, hmin, hmax]
    | notFinite hmin hmax hfinite =>
      rw [range_of_denoted hmin hmax, AxisRange.ofNumbers_eq_error_iff]
      exact .inl ⟨rfl, hfinite⟩
    | notIncreasing hmin hmax hle =>
      rw [range_of_denoted hmin hmax, AxisRange.ofNumbers_eq_error_iff]
      exact .inr ⟨_, _, rfl, rfl, rfl, hle⟩

theorem Bounds.range_eq_ok_iff {bounds : Bounds} {range : AxisRange} :
    bounds.range = .ok range ↔ bounds.Span range.min range.max := by
  constructor
  · intro h
    have hnone (fault : RangeFault) : ¬bounds.Fails fault := fun hfails => by
      rw [← range_eq_error_iff, h] at hfails
      cases hfails
    obtain ⟨min, hmin⟩ := Option.ne_none_iff_exists'.1 fun hmin => hnone _ (.minText hmin)
    obtain ⟨max, hmax⟩ := Option.ne_none_iff_exists'.1 fun hmax => hnone _ (.maxText hmin hmax)
    rw [range_of_denoted hmin hmax, AxisRange.ofNumbers_eq_ok_iff] at h
    obtain ⟨rfl, rfl⟩ := h
    exact ⟨hmin, hmax, (Finite.units_lt_units_iff ..).2 range.min_lt_max⟩
  · rintro ⟨hmin, hmax, -⟩
    rw [range_of_denoted hmin hmax, AxisRange.ofNumbers_eq_ok_iff]
    exact ⟨rfl, rfl⟩

theorem Bounds.exists_range_iff {bounds : Bounds} :
    (∃ range, bounds.range = .ok range) ↔ ∃ lower upper, bounds.Span lower upper := by
  simp only [range_eq_ok_iff]
  refine ⟨fun ⟨range, h⟩ => ⟨_, _, h⟩, fun ⟨lower, upper, h⟩ => ?_⟩
  exact ⟨⟨lower, upper, (Finite.units_lt_units_iff ..).1 h.increasing⟩, h⟩

/-! ### Outcomes -/

theorem ranges_eq_ok_iff {x y : Bounds} {both : AxisRange × AxisRange} :
    ranges x y = .ok both ↔ x.range = .ok both.1 ∧ y.range = .ok both.2 := by
  unfold ranges
  cases x.range with
  | error fault => simp
  | ok xRange =>
    cases y.range with
    | error fault => simp
    | ok yRange => simp [Prod.ext_iff]

theorem ranges_eq_error_iff {x y : Bounds} {axis : Axis} {fault : RangeFault} :
    ranges x y = .error (axis, fault) ↔
      axis = .x ∧ x.range = .error fault ∨
        axis = .y ∧ (∃ range, x.range = .ok range) ∧ y.range = .error fault := by
  unfold ranges
  cases x.range with
  | error fault => simp [eq_comm]
  | ok xRange =>
    cases y.range with
    | error fault => simp [eq_comm]
    | ok yRange => simp

/-- The ranges that an outcome is drawn on come from the bounds. -/
theorem map_ranges_build (rows : List Row) (x y : Bounds) :
    (build rows x y).map (fun outcome => (outcome.batch.x, outcome.batch.y)) = ranges x y := by
  unfold build
  cases ranges x y with
  | error fault => rfl
  | ok both => rfl

/-- **Good bounds are all that rows need.**  Rows between bounds have an outcome exactly if on both
axes both bounds denote finite numbers in order, and then the outcome has these ranges.
Otherwise the error is the first thing wrong with the x bounds, or if nothing is, with the y
bounds.  All other rows have an outcome on the same ranges, or the same error. -/
theorem build_requires_ranges (rows : List Row) (x y : Bounds) :
    ((∃ outcome, build rows x y = .ok outcome) ↔
      (∃ lower upper, x.Span lower upper) ∧ ∃ lower upper, y.Span lower upper) ∧
    (∀ outcome, build rows x y = .ok outcome →
      x.Span outcome.batch.x.min outcome.batch.x.max ∧
        y.Span outcome.batch.y.min outcome.batch.y.max) ∧
    (∀ axis fault, build rows x y = .error (axis, fault) ↔
      axis = .x ∧ x.Fails fault ∨
        axis = .y ∧ (∃ lower upper, x.Span lower upper) ∧ y.Fails fault) ∧
    ∀ others : List Row,
      (build others x y).map (fun outcome => (outcome.batch.x, outcome.batch.y)) =
        (build rows x y).map fun outcome => (outcome.batch.x, outcome.batch.y) := by
  have hrange {outcome : Outcome} (h : build rows x y = .ok outcome) :
      x.range = .ok outcome.batch.x ∧ y.range = .ok outcome.batch.y :=
    ranges_eq_ok_iff.1 (build_eq_ok_iff.1 h).1
  refine ⟨⟨?_, ?_⟩, fun outcome h => ?_, fun axis fault => ?_, fun others => ?_⟩
  · rintro ⟨outcome, h⟩
    exact ⟨Bounds.exists_range_iff.1 ⟨_, (hrange h).1⟩, Bounds.exists_range_iff.1 ⟨_, (hrange h).2⟩⟩
  · rintro ⟨hx, hy⟩
    obtain ⟨xRange, hx⟩ := Bounds.exists_range_iff.2 hx
    obtain ⟨yRange, hy⟩ := Bounds.exists_range_iff.2 hy
    have hboth : ranges x y = .ok (xRange, yRange) := ranges_eq_ok_iff.2 ⟨hx, hy⟩
    exact ⟨.ofRows rows xRange yRange, build_eq_ok_iff.2 ⟨hboth, rfl⟩⟩
  · exact ⟨Bounds.range_eq_ok_iff.1 (hrange h).1, Bounds.range_eq_ok_iff.1 (hrange h).2⟩
  · rw [build_eq_error_iff, ranges_eq_error_iff, Bounds.exists_range_iff,
      Bounds.range_eq_error_iff, Bounds.range_eq_error_iff]
  · rw [map_ranges_build, map_ranges_build]

/-- Rows between -1 and 1 have an outcome.  Bounds that differ only beyond the precision of a
number are not in order, and infinite x bounds are reported before those. -/
theorem build_requires_ranges_rounded :
    let one (negative : Bool) : Finite := ⟨negative, 4607182418800017408, by decide⟩
    let rows := Row.coloured ["sinx", "x < y"]
    let unit : Bounds := ⟨"-1", " 1 "⟩
    let point : Bounds := ⟨"1", "1.00000000000000000001"⟩
    (∃ outcome, build rows unit unit = .ok outcome ∧
      unit.Span outcome.batch.x.min outcome.batch.x.max ∧
        unit.Span outcome.batch.y.min outcome.batch.y.max) ∧
      build rows unit point = .error (.y, .notIncreasing (one false) (one false)) ∧
      build rows ⟨"0", "1e400"⟩ point = .error (.x, .notFinite) := by
  intro one rows unit point
  have hunit : unit.Span (one true) (one false) :=
    ⟨by decide +kernel, by decide +kernel, by decide +kernel⟩
  have hpoint : point.Fails (.notIncreasing (one false) (one false)) :=
    .notIncreasing (by decide +kernel) (by decide +kernel) (by decide +kernel)
  have hinfinite : Bounds.Fails ⟨"0", "1e400"⟩ .notFinite := by
    have hmin : denoted? "0" = some (.finite ⟨false, 0, by decide⟩) := by decide +kernel
    have hmax : denoted? "1e400" = some (.infinite false) := by decide +kernel
    exact .notFinite hmin hmax (.inr rfl)
  obtain ⟨outcome, houtcome⟩ :=
    (build_requires_ranges rows unit unit).1.2 ⟨⟨_, _, hunit⟩, ⟨_, _, hunit⟩⟩
  obtain ⟨hx, hy⟩ := (build_requires_ranges rows unit unit).2.1 outcome houtcome
  exact ⟨⟨outcome, houtcome, hx, hy⟩,
    ((build_requires_ranges rows unit point).2.2.1 _ _).2 (.inr ⟨rfl, ⟨_, _, hunit⟩, hpoint⟩),
    ((build_requires_ranges rows ⟨"0", "1e400"⟩ point).2.2.1 _ _).2 (.inl ⟨rfl, hinfinite⟩)⟩

/-! ### Numbers as bounds -/

/-- **The text of a number denotes it,** also that of an infinity and of a NaN. -/
theorem denoted?_plainText (x : Binary64) : denoted? x.plainText = some x := by
  cases x with
  | nan => decide
  | infinite negative => cases negative <;> decide
  | finite x =>
    have hblank : ∀ c ∈ Layout.plain.finiteChars x, Text.isBlank c = false := fun c hc =>
      isBlank_eq_false_of_isNumeric (Layout.plain.isNumeric_of_mem_finiteChars hc)
    rw [denoted?, Binary64.plainText, String.toList_ofList, Layout.chars,
      Text.trimChars_eq_self hblank, Layout.plain.read?_finiteChars]

/-- **Numbers come through their text unharmed.**  Typed as text, or kept in a session and typed
from there, two numbers make just the range that they make by themselves, with these very
numbers as its ends, or fail with the same error about the same axis. -/
theorem numeric_bounds_keep_range (axis : Axis) (min max : Binary64) :
    ((Bounds.ofNumbers min max).range.mapError (PlotError.range axis) =
      (AxisRange.ofNumbers min max).mapError (PlotError.range axis)) ∧
    ((Session.AxisBounds.mk (.number min) (.number max)).typed.range.mapError
        (PlotError.range axis) =
      (AxisRange.ofNumbers min max).mapError (PlotError.range axis)) ∧
    ∀ range, AxisRange.ofNumbers min max = .ok range ↔
      min = .finite range.min ∧ max = .finite range.max := by
  have hrange : (Bounds.ofNumbers min max).range = AxisRange.ofNumbers min max :=
    Bounds.range_of_denoted (denoted?_plainText min) (denoted?_plainText max)
  exact ⟨by rw [hrange], congrArg _ hrange, fun _ => AxisRange.ofNumbers_eq_ok_iff⟩

end Plot
end CurveSheet
