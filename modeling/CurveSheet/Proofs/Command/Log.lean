/-
# What the commands say of findings

A check prints every finding as it reads on one line, and under it its advice if it has any
(`Report.lines_plain`).  A drawing says which rows it leaves out.  Both speak of the same rows:
the findings about rows come first in a report, one for each row that was set aside, and each of
them names its row as the drawing does and says the same about it (`namesAlike_failureDiagnostic`).

These lines are what the two commands add to the log of a world, next to what they say of their
input and their result (`exists_outcomeIn_check_of_build`, `exists_outcomeIn_draw_of_build`).
-/

import CurveSheet.Proofs.Command.Agreement
import CurveSheet.Proofs.Diagnostic.Findings

namespace CurveSheet

open Formula Plot Terminal

/-! ### Findings in print -/

/-- A finding as it is to be printed: its one-line text, and its advice on a line of its own. -/
def Diagnostic.printed (d : Diagnostic) : String :=
  "  " ++ d.text ++ "\n" ++ d.help.elim "" fun help => "    help: " ++ help ++ "\n"

/-- **A finding is printed as it reads**, whatever it says. -/
theorem Diagnostic.lines_plain (d : Diagnostic) : d.lines .plain = d.printed := by
  unfold lines printed
  refine congrArg₂ (· ++ ·) ?finding ?advice
  case finding =>
    change "  " ++ d.severity.name ++ "[" ++ d.code ++ "]: " ++ d.rowLabel ++ d.message ++ "\n" = _
    simp only [text, String.append_assoc]
  case advice => cases d.help <;> rfl

/-- **A report is printed finding by finding.** -/
theorem Report.lines_plain (report : Report) :
    report.lines .plain = String.join (report.diagnostics.map Diagnostic.printed) := by
  rw [lines, funext Diagnostic.lines_plain]

/-! ### Failures and findings about them -/

namespace Plot

/-- The name of a row as it is shown, rows counted from one. -/
def rowName (row : Nat) : String := "f" ++ toString (row + 1)

/-- What is said of a failure next to the name of its row. -/
def RowFailure.wording (failure : RowFailure) : String :=
  "`" ++ failure.text ++ "`: " ++ failure.fault.message

end Plot

namespace Check

/-- A finding is about the row of a failure.  Where it reads, where a check prints it and where a
drawing says that the row is left out, the row has one name and one wording follows. -/
structure NamesAlike (failure : RowFailure) (d : Diagnostic) : Prop where
  row : d.row = some failure.row
  text : d.text =
    "error[" ++ failure.fault.code ++ "]: " ++ rowName failure.row ++ ": " ++ failure.wording
  printed : d.lines .plain =
    "  error[" ++ failure.fault.code ++ "]: " ++ rowName failure.row ++ ": " ++ failure.wording ++
      "\n" ++ "    help: " ++ failure.fault.help ++ "\n"
  skipped : Printer.plain.line .caution "Skipping" failure.message =
    "    Skipping " ++ rowName failure.row ++ " " ++ failure.wording ++ "\n"

/-- **The finding about a failure names it.** -/
theorem namesAlike_failureDiagnostic (failure : RowFailure) :
    NamesAlike failure (failureDiagnostic failure) := by
  have htext : (failureDiagnostic failure).text = "error[" ++ failure.fault.code ++ "]: " ++
      rowName failure.row ++ ": " ++ failure.wording := by
    change "error[" ++ failure.fault.code ++ "]: " ++ (rowName failure.row ++ ": ") ++
      failure.wording = _
    simp only [String.append_assoc]
  have hmessage : failure.message = rowName failure.row ++ " " ++ failure.wording := by
    simp only [RowFailure.message, rowName, RowFailure.wording, String.append_assoc]
    rfl
  refine ⟨rfl, htext, ?_, ?_⟩
  · rw [Diagnostic.lines_plain, Diagnostic.printed, htext]
    simp only [String.append_assoc]
    rfl
  · rw [Printer.line_plain, hmessage]
    simp only [String.append_assoc]
    rfl

/-- The report on rows that were built has the findings about failures first. -/
theorem diagnostics_report_of_build {rows : List Row} {x y : Bounds} {outcome : Outcome}
    (h : build rows x y = .ok outcome) : (report outcome).diagnostics =
      outcome.failures.map failureDiagnostic ++ batchFindings outcome := by
  obtain ⟨-, houtcome⟩ := build_eq_ok_iff.1 h
  rw [← houtcome]
  exact diagnostics_report_eq (isStableSort_failures_ofRows ..)

end Check

/-! ### The log of a command -/

namespace Command

/-- **Findings are printed as they read, and a failure is told alike everywhere.**  Whatever a
report holds, it is printed finding by finding, each as it reads on one line and with its advice
below if it has any.  The failures of rows that were built are those of the rows with their
numbers, and the report has a finding for each of them first, which names the row and tells what
is wrong with it as a drawing does; what else it has is about no row.  A check adds the printed
report to the log, and a drawing a line for every failure. -/
theorem findings_told_alike :
    (∀ report : Report, report.lines .plain = String.join (report.diagnostics.map fun d =>
      "  " ++ d.text ++ "\n" ++ d.help.elim "" fun help => "    help: " ++ help ++ "\n")) ∧
    (∀ rows x y outcome, build rows x y = .ok outcome →
      (∀ failure, failure ∈ outcome.failures ↔ ∃ row, rows[failure.row]? = some row ∧
        row.spec? = .error failure.fault ∧ failure.text = Text.trim row.text) ∧
      ∃ named rest, (Check.report outcome).diagnostics = named ++ rest ∧
        List.Forall₂ Check.NamesAlike outcome.failures named ∧ ∀ d ∈ rest, d.row = none) ∧
    ∀ (arguments : DrawArguments) (world world' : World) (input : PlotInput) (outcome : Outcome),
      outcomeIn (arguments.input.resolve .plain) world = (.ok input, world') →
      build input.rows input.x input.y = .ok outcome →
        (∃ tone, (outcomeIn (check .plain arguments.input) world).2.log = world'.log ++
          Printer.plain.line .done "Checked" (Text.counted input.rows.length "row" "rows") ++
          (Check.report outcome).lines .plain ++
          Printer.plain.line tone "Check" (Check.report outcome).summary) ∧
        ∃ more, (outcomeIn (draw .plain arguments) world).2.log = world'.log ++
          String.join (outcome.failures.map fun failure =>
            Printer.plain.line .caution "Skipping" failure.message) ++ more := by
  refine ⟨Report.lines_plain, fun rows x y outcome hbuild => ⟨fun failure => ?_, ?_⟩,
    fun arguments world world' input outcome hresolve hbuild => ⟨?_, ?_⟩⟩
  · obtain ⟨-, houtcome⟩ := build_eq_ok_iff.1 hbuild
    rw [← houtcome]
    exact mem_failures_ofRows_iff
  · refine ⟨_, _, Check.diagnostics_report_of_build hbuild, ?_, fun d hd =>
      Diagnostic.place_eq_top_iff.1 (Check.place_of_mem_batchFindings hd)⟩
    rw [List.forall₂_map_right_iff]
    exact List.forall₂_same.2 fun failure _ => Check.namesAlike_failureDiagnostic failure
  · obtain ⟨tone, h⟩ := exists_outcomeIn_check_of_build hresolve hbuild
    exact ⟨tone, by rw [h]⟩
  · obtain ⟨more, h⟩ := exists_outcomeIn_draw_of_build hresolve hbuild
    refine ⟨more, ?_⟩
    rw [h]
    cases drawn arguments input <;> rfl

/-- Of a curve, a blank row, a comparison and a chain of equations the last two fail. -/
theorem findings_told_alike_comparison :
    let world : World := ⟨⟨[]⟩, [], "", ""⟩
    let arguments : DrawArguments := { input := { formulas := ["sinx", " ", "y <= x", "a=b=c"] } }
    let input := arguments.input.over Session.default
    let failures : List RowFailure := [⟨2, "y <= x", .comparison "<="⟩, ⟨3, "a=b=c", .equation 2⟩]
    let printed :=
      "  error[fplot::row::comparison]: f3: `y <= x`: '<=' is a comparison, not an equation\n" ++
      "    help: Inequalities can't be plotted; use '=' for an implicit curve\n" ++
      "  error[fplot::row::equation]: f4: `a=b=c`: expected exactly one '=' in an equation, " ++
      "found 2\n" ++
      "    help: Write implicit curves as a single equation, e.g. x^2 + y^2 = 9\n"
    let skipped :=
      "    Skipping f3 `y <= x`: '<=' is a comparison, not an equation\n" ++
      "    Skipping f4 `a=b=c`: expected exactly one '=' in an equation, found 2\n"
    ∃ outcome, build input.rows input.x input.y = .ok outcome ∧
      (∃ named rest, (Check.report outcome).diagnostics = named ++ rest ∧
        List.Forall₂ Check.NamesAlike failures named ∧ ∀ d ∈ rest, d.row = none) ∧
      (∃ tone, (outcomeIn (check .plain arguments.input) world).2.log =
        "     Checked 4 rows\n" ++ printed ++
          Printer.plain.line tone "Check" "failed: 2 errors, 0 warnings") ∧
      ∃ more, (outcomeIn (draw .plain arguments) world).2.log = skipped ++ more := by
  intro world arguments input failures printed skipped
  obtain ⟨-, hbuilt, hcommands⟩ := findings_told_alike
  have hparts : (build input.rows input.x input.y).map
      (fun outcome => (outcome.failures, Check.batchFindings outcome)) =
      .ok (failures, []) := by decide +kernel
  have hchecked : world.log ++ Printer.plain.line .done "Checked"
      (Text.counted input.rows.length "row" "rows") = "     Checked 4 rows\n" := by
    decide +kernel
  have hprinted : Report.lines .plain ⟨failures.map Check.failureDiagnostic⟩ = printed := by
    decide +kernel
  have hsummary : Report.summary ⟨failures.map Check.failureDiagnostic⟩ =
      "failed: 2 errors, 0 warnings" := by decide +kernel
  have hskipped : world.log ++ String.join (failures.map fun failure =>
      Printer.plain.line .caution "Skipping" failure.message) = skipped := by decide +kernel
  cases hbuild : build input.rows input.x input.y with
  | error fault =>
    rw [hbuild] at hparts
    cases hparts
  | ok outcome =>
    rw [hbuild] at hparts
    obtain ⟨hfailures, hbatch⟩ := Prod.mk.inj (Except.ok.inj hparts)
    obtain ⟨-, hnamed⟩ := hbuilt _ _ _ outcome hbuild
    obtain ⟨⟨tone, hcheck⟩, more, hdraw⟩ := hcommands arguments world world input outcome rfl hbuild
    have hreport : Check.report outcome = ⟨failures.map Check.failureDiagnostic⟩ := by
      have hdiagnostics := Check.diagnostics_report_of_build hbuild
      rw [hfailures, hbatch, List.append_nil] at hdiagnostics
      exact congrArg Report.mk hdiagnostics
    rw [hfailures] at hnamed hdraw
    rw [hchecked, hreport, hprinted, hsummary] at hcheck
    rw [hskipped] at hdraw
    exact ⟨outcome, rfl, hnamed, ⟨tone, hcheck⟩, more, hdraw⟩

end Command
end CurveSheet
