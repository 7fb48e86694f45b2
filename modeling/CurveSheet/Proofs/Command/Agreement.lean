/-
# Checking and drawing agree

A check looks at every row; a drawing stops at the first thing that is wrong.  How
each of them ends depends on the resolved input, and for a drawing on whether its
document can be written (`ending_check`, `ending_draw`).  Bad bounds end both with the
same error.  Otherwise a check succeeds exactly if a drawing succeeds and no row was
left out, as long as the document can be written (`check_agrees_with_draw`).
-/

import CurveSheet.Command.Check
import CurveSheet.Proofs.Command.Running
import CurveSheet.Proofs.Diagnostic.Report

namespace CurveSheet
namespace Command

open Engine Plot Terminal

/-! ### How the commands end -/

/-- How a check ends on an outcome. -/
def checkEnding (outcome : Outcome) : Except PlotError Unit :=
  if (Check.report outcome).hasErrors then .error (.checkFailed (Check.report outcome).errors)
  else .ok ()

section

variable {printer : Printer} {arguments : Input} {world world' : World} {input : PlotInput}

/-- **A check between good bounds** says how many rows there are, prints what it found in them, and
ends as the report on them says. -/
theorem exists_outcomeIn_check_of_build {outcome : Outcome}
    (hresolve : outcomeIn (arguments.resolve printer) world = (.ok input, world'))
    (hbuild : build input.rows input.x input.y = .ok outcome) :
    ∃ tone, outcomeIn (check printer arguments) world =
      (checkEnding outcome, { world' with
        log := world'.log ++
          printer.line .done "Checked" (Text.counted input.rows.length "row" "rows") ++
          (Check.report outcome).lines printer ++
          printer.line tone "Check" (Check.report outcome).summary }) := by
  unfold check
  rw [outcomeIn_bind_of_ok hresolve, hbuild, outcomeIn_bind_of_ok (outcomeIn_orFail rangeError _),
    outcomeIn_bind_of_ok (outcomeIn_lift (run_say ..)),
    outcomeIn_bind_of_ok (outcomeIn_lift (World.run_log ..))]
  unfold checkEnding
  split
  · rw [outcomeIn_bind_of_ok (outcomeIn_lift (run_say ..))]
    exact ⟨.failure, rfl⟩
  · rw [outcomeIn_lift (run_say ..)]
    exact ⟨.done, rfl⟩

/-- **A check ends as the report on its input says.** -/
theorem ending_check
    (hresolve : outcomeIn (arguments.resolve printer) world = (.ok input, world')) :
    ending (check printer arguments) world =
      ((build input.rows input.x input.y).mapError rangeError >>= checkEnding) := by
  cases hbuild : build input.rows input.x input.y with
  | error fault =>
    unfold ending check
    rw [outcomeIn_bind_of_ok hresolve, hbuild,
      outcomeIn_bind_of_error (outcomeIn_orFail rangeError _)]
    rfl
  | ok outcome =>
    obtain ⟨tone, h⟩ := exists_outcomeIn_check_of_build hresolve hbuild
    rw [ending, h]
    rfl

end

/-- What a drawing leaves of a world before it writes its document. -/
def drawEnding (arguments : DrawArguments) (input : PlotInput) (world : World)
    (outcome : Outcome) : Except PlotError Unit := do
  let document ← Engine.draw (render (arguments.canvas input.session.canvas)) outcome
  match arguments.output with
  | some path =>
    ((world.files.writeText world.directory path document).mapError
      (.file path .writeOutput)).map fun _ => ()
  | none => .ok ()

/-- **A drawing ends as the engine and the file for its document say.** -/
theorem ending_draw {printer : Printer} {arguments : DrawArguments} {world world' : World}
    {input : PlotInput}
    (hresolve : outcomeIn (arguments.input.resolve printer) world = (.ok input, world')) :
    ending (draw printer arguments) world =
      ((build input.rows input.x input.y).mapError rangeError >>=
        drawEnding arguments input world') := by
  obtain ⟨log, h⟩ := exists_outcomeIn_draw hresolve
  rw [ending, h]
  cases hbuild : build input.rows input.x input.y with
  | error fault => rw [drawn_of_error hbuild]; rfl
  | ok outcome =>
    rw [drawn_of_ok hbuild]
    change _ = drawEnding arguments input world' outcome
    unfold drawEnding
    cases Engine.draw (render (arguments.canvas input.session.canvas)) outcome with
    | error error => rfl
    | ok document =>
      change (delivered arguments.output document world').1 = _
      unfold delivered
      cases arguments.output with
      | none => rfl
      | some path =>
        dsimp only
        change _ = ((world'.files.writeText world'.directory path document).mapError _).map _
        cases world'.files.writeText world'.directory path document with
        | error fault => rfl
        | ok files => rfl

/-- Every document can be written where the drawing is to go. -/
def CanWrite (arguments : DrawArguments) (world : World) : Prop :=
  ∀ path ∈ arguments.output, ∀ document,
    ∃ files, world.files.writeText world.directory path document = .ok files

/-- A check passes exactly if no row was set aside and no curve is refused. -/
theorem checkEnding_eq_ok_iff {outcome : Outcome} : checkEnding outcome = .ok () ↔
    outcome.failures = [] ∧ ∀ spec ∈ outcome.batch.specs, isRefused spec = false := by
  have hclean : (Check.report outcome).hasErrors = false ↔
      outcome.failures = [] ∧ ∀ spec ∈ outcome.batch.specs, isRefused spec = false := by
    rw [Report.hasErrors, Check.errors_report, decide_eq_false_iff_not, Nat.not_lt,
      Nat.le_zero, Nat.add_eq_zero_iff, List.length_eq_zero_iff, List.countP_eq_zero]
    simp only [Bool.not_eq_true]
  rw [← hclean, checkEnding]
  cases (Check.report outcome).hasErrors <;> simp

/-- A drawing that can be written succeeds exactly if no curve is refused. -/
theorem drawEnding_eq_ok_iff {arguments : DrawArguments} {input : PlotInput} {world : World}
    (hwriter : CanWrite arguments world) {outcome : Outcome} :
    drawEnding arguments input world outcome = .ok () ↔
      ∀ spec ∈ outcome.batch.specs, isRefused spec = false := by
  rw [← exists_draw_eq_ok_iff (arguments.canvas input.session.canvas), drawEnding]
  cases Engine.draw (render (arguments.canvas input.session.canvas)) outcome with
  | error error => exact ⟨fun h => (nomatch h), fun ⟨_, h⟩ => (nomatch h)⟩
  | ok document =>
    refine ⟨fun _ => ⟨document, rfl⟩, fun _ => ?_⟩
    cases houtput : arguments.output with
    | none => rfl
    | some path =>
      obtain ⟨files, hfiles⟩ := hwriter path houtput document
      change ((world.files.writeText world.directory path document).mapError _).map _ = _
      rw [hfiles]
      rfl

/-- **Checking and drawing agree.**  On an input that both resolve to the same rows and bounds,
bad bounds end both with one error; otherwise, if the document can be written, the check passes
exactly if the drawing succeeds and no row was set aside.  A report on any outcome whatever
speaks of parentheses exactly if the engine refuses the outcome; its errors are the rows that
were set aside and the curves that are refused, which in an outcome that was built are the rows
that are not blank and cannot be drawn. -/
theorem check_agrees_with_draw :
    (∀ (printer : Printer) (arguments : DrawArguments) (world world' : World) (input : PlotInput),
      outcomeIn (arguments.input.resolve printer) world = (.ok input, world') →
        (∀ fault, build input.rows input.x input.y = .error fault →
          ending (check printer arguments.input) world = .error (rangeError fault) ∧
            ending (draw printer arguments) world = .error (rangeError fault)) ∧
        (CanWrite arguments world' → ∀ outcome, build input.rows input.x input.y = .ok outcome →
          (ending (check printer arguments.input) world = .ok () ↔
            ending (draw printer arguments) world = .ok () ∧ outcome.failures = []))) ∧
    (∀ outcome : Outcome,
      (∀ canvas, (∀ d ∈ (Check.report outcome).diagnostics, d.code ≠ Check.structureCode) ↔
        ∃ document, Engine.draw (render canvas) outcome = .ok document) ∧
      (Check.report outcome).errors =
        outcome.failures.length + outcome.batch.specs.countP isRefused) ∧
    ∀ rows x y outcome, build rows x y = .ok outcome →
      (Check.report outcome).errors = rows.countP fun row => !row.isBlank && !row.isDrawn := by
  refine ⟨fun printer arguments world world' input hresolve => ⟨fun fault hbuild => ?_,
    fun hwriter outcome hbuild => ?_⟩, fun outcome => ⟨fun canvas => ?_, Check.errors_report _⟩,
    fun rows x y outcome hbuild => ?_⟩
  · rw [ending_check hresolve, ending_draw hresolve, hbuild]
    exact ⟨rfl, rfl⟩
  · rw [ending_check hresolve, ending_draw hresolve, hbuild]
    change checkEnding outcome = _ ↔ drawEnding arguments input world' outcome = _ ∧ _
    rw [checkEnding_eq_ok_iff, drawEnding_eq_ok_iff hwriter, and_comm]
  · rw [exists_draw_eq_ok_iff]
    simpa only [not_exists, not_and, Bool.not_eq_true] using
      not_congr (Check.structure_mem_report_iff outcome)
  · unfold build at hbuild
    cases hranges : ranges x y with
    | error fault => rw [hranges] at hbuild; cases hbuild
    | ok both =>
      rw [hranges] at hbuild
      cases hbuild
      exact Check.errors_report_ofRows rows both.1 both.2

/-- A check of `sin(x` and `cosx` finds the one error that a drawing of them stops at, and both
refuse a bound that is no number. -/
theorem check_agrees_with_draw_unclosed_call :
    let world : World := ⟨⟨[]⟩, [], "", ""⟩
    let arguments : DrawArguments :=
      { input := { formulas := ["sin(x", "cosx"] }, output := some (.ofText "plot.json") }
    let unbounded : DrawArguments := { input := { xMin := some "a" } }
    let input := arguments.input.over Session.default
    (∃ outcome, build input.rows input.x input.y = .ok outcome ∧
      (ending (check .plain arguments.input) world = .ok () ↔
        ending (draw .plain arguments) world = .ok () ∧ outcome.failures = []) ∧
      (Check.report outcome).errors = 1) ∧
    ending (check .plain unbounded.input) world =
        .error (rangeError (.x, .notANumber .min "a")) ∧
      ending (draw .plain unbounded) world =
        .error (rangeError (.x, .notANumber .min "a")) := by
  intro world arguments unbounded input
  obtain ⟨hcommands, -, hrows⟩ := check_agrees_with_draw
  have hbuild : (build input.rows input.x input.y).isOk = true := by decide +kernel
  have hwriter : CanWrite arguments world := by
    intro path hpath document
    cases hpath
    exact ⟨_, rfl⟩
  have hone : (input.rows.countP fun row => !row.isBlank && !row.isDrawn) = 1 := by decide
  have hbad : build [] (overlay Session.default.x.typed (some "a") none) Session.default.y.typed =
      .error (.x, .notANumber .min "a") := by
    have hread : Binary64.read? (Text.trimChars ['a']) = none := by decide
    have htrim : Text.trim "a" = "a" := by decide
    simp [build, ranges, Bounds.range, readBound, overlay, hread, htrim, Except.map]
  refine ⟨?_, (hcommands .plain unbounded world world _ rfl).1 _ hbad⟩
  cases houtcome : build input.rows input.x input.y with
  | error fault => rw [houtcome] at hbuild; cases hbuild
  | ok outcome =>
    have hagrees := (hcommands .plain arguments world world input rfl).2 hwriter outcome houtcome
    exact ⟨outcome, rfl, hagrees, (hrows _ _ _ outcome houtcome).trans hone⟩

end Command
end CurveSheet
