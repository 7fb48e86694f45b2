/-
# What a reader finds in a document

The engine gets a text, and what it draws is what a reader finds in that text.  A reader
finds the canvas and the batch as they were given (`document_reads_back`): the target and
the colours and formulas character by character, the ends of the axes as the same binary64
numbers, and the curves in their order.
-/

import Mathlib.Data.List.Forall2
import CurveSheet.Proofs.Diagnostic.Report
import CurveSheet.Proofs.Json.RoundTrip

namespace CurveSheet
namespace Engine

open Plot Json

/-- What a reader finds is the entry of a curve. -/
structure DescribesCurve (spec : Spec) (found : Data) : Prop where
  formula : found.field? "fn" = some (.text spec.formula)
  kind : found.field? "fnType" = some (.text (kindName spec.kind))
  colour : found.field? "color" = some (.text spec.colour.name)
  hint : found.field? "graphType" = spec.hint?.map fun hint => .text hint.name

/-- The ends of an axis, as a reader finds them. -/
def domainData (range : AxisRange) : Data := .list [.real range.min, .real range.max]

/-- What a reader finds is the document of a batch on a canvas. -/
structure Describes (canvas : Canvas) (batch : Batch) (found : Data) : Prop where
  target : found.field? "target" = some (.text canvas.target)
  width : found.field? "width" = some (.integer canvas.width.toNat)
  height : found.field? "height" = some (.integer canvas.height.toNat)
  grid : found.field? "grid" = some (.bool canvas.grid)
  xDomain : (found.field? "xAxis").bind (Data.field? "domain") = some (domainData batch.x)
  yDomain : (found.field? "yAxis").bind (Data.field? "domain") = some (domainData batch.y)
  curves : ∃ entries, found.field? "data" = some (.list entries) ∧
    List.Forall₂ DescribesCurve batch.specs entries

/-- The entry of a curve has a field for the hint exactly if there is one. -/
theorem describesCurve_entry (spec : Spec) : DescribesCurve spec (entry spec).data := by
  cases hhint : spec.hint? with
  | none =>
    have hentry : (entry spec).data = .object [("fn", .text spec.formula),
        ("fnType", .text (kindName spec.kind)), ("color", .text spec.colour.name)] := by
      rw [entry, hhint]
      rfl
    rw [hentry]
    exact ⟨rfl, rfl, rfl, by rw [hhint]; rfl⟩
  | some hint =>
    have hentry : (entry spec).data = .object [("fn", .text spec.formula),
        ("fnType", .text (kindName spec.kind)), ("color", .text spec.colour.name),
        ("graphType", .text hint.name)] := by
      rw [entry, hhint]
      rfl
    rw [hentry]
    exact ⟨rfl, rfl, rfl, by rw [hhint]; rfl⟩

/-- The data of a document describe the batch on the canvas. -/
theorem describes_document (canvas : Canvas) (batch : Batch) :
    Describes canvas batch (document canvas batch).data where
  target := rfl
  width := rfl
  height := rfl
  grid := rfl
  xDomain := rfl
  yDomain := rfl
  curves := by
    refine ⟨(batch.specs.map entry).map Json.data, ?_, ?_⟩
    · rw [← dataItems_eq_map]
      rfl
    · rw [List.map_map, List.forall₂_map_right_iff]
      exact List.forall₂_same.2 fun spec _ => describesCurve_entry spec

/-- **The document decodes back to the batch.**  If every formula of an outcome balances, then
on every canvas the engine writes one JSON value and a line end.  A reader finds the canvas, the
ends of the axes and the curves in it, and finds the same in the document on one line. -/
theorem document_reads_back {outcome : Outcome}
    (h : ∀ spec ∈ outcome.batch.specs, isRefused spec = false) (canvas : Canvas) :
    ∃ text found, draw (render canvas) outcome = .ok text ∧
      readFirst? text = some (found, ['\n']) ∧ read? text = some found ∧
      read? (document canvas outcome.batch).compact = some found ∧
      Describes canvas outcome.batch found := by
  have hfirst : readFirst? (documentText canvas outcome.batch) =
      some ((document canvas outcome.batch).data, ['\n']) :=
    readFirst?_pretty (document canvas outcome.batch) "\n" (by decide)
  refine ⟨documentText canvas outcome.batch, (document canvas outcome.batch).data, ?_, hfirst, ?_,
    read?_compact _, describes_document canvas outcome.batch⟩
  · rw [draw, render, firstFault?_eq_none_iff.2 h]
    rfl
  · rw [read?, hfirst]
    rfl

/-- One curve with a hint and one without, on a canvas whose target has a quote and a line end. -/
theorem document_reads_back_two_curves :
    let canvas : Canvas := { Canvas.default with target := "#\"a\"\n" }
    ∃ outcome text found,
      build (Row.coloured ["sinx", "y = x"]) .default ⟨"-0", "1e-7"⟩ = .ok outcome ∧
      outcome.batch.specs.map Spec.hint? = [some .polyline, none] ∧
      draw (render canvas) outcome = .ok text ∧ read? text = some found ∧
      Describes canvas outcome.batch found := by
  intro canvas
  have hchecked : (match build (Row.coloured ["sinx", "y = x"]) .default ⟨"-0", "1e-7"⟩ with
      | .ok outcome => outcome.batch.specs.all (fun spec => !isRefused spec) &&
        outcome.batch.specs.map Spec.hint? == [some .polyline, none]
      | .error _ => false) = true := by decide +kernel
  cases hbuild : build (Row.coloured ["sinx", "y = x"]) .default ⟨"-0", "1e-7"⟩ with
  | error fault => rw [hbuild] at hchecked; cases hchecked
  | ok outcome =>
    rw [hbuild, Bool.and_eq_true, List.all_eq_true, beq_iff_eq] at hchecked
    obtain ⟨hclean, hhints⟩ := hchecked
    obtain ⟨text, found, hdraw, -, hread, -, hfound⟩ :=
      document_reads_back (fun spec hspec => by simpa using hclean spec hspec) canvas
    exact ⟨outcome, text, found, rfl, hhints, hdraw, hread, hfound⟩

end Engine
end CurveSheet
