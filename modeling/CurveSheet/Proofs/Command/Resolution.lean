/-
# Command line and session give the same input

A formula given on the command line is a row of a session, and a bound given there is a
bound of one (`entriesFrom_sessionRows`).  So what is given on the command line can be
written into a session and given there (`command_line_matches_session`), and where
everything is given the session does not matter.  A bound that is given takes the place
of its own bound alone.
-/

import CurveSheet.Proofs.Command.Running
import Mathlib.Data.List.Basic

namespace CurveSheet
namespace Command

open Plot Session Terminal

/-- The formulas of a command line as rows of a session: the first have the given colours, the
others none. -/
def sessionRows (formulas colours : List String) : List SessionRow :=
  formulas.mapIdx fun place text => ⟨text, colours[place]?.map Colour.mk⟩

/-- **Rows of a session and formulas of a command line are the same rows**, also behind `start`
others. -/
theorem entriesFrom_sessionRows (start : Nat) (formulas colours : List String) :
    entriesFrom start (sessionRows formulas colours) = colouredRows start formulas colours := by
  unfold sessionRows
  induction formulas generalizing start colours with
  | nil => rfl
  | cons text formulas ih =>
    rw [List.mapIdx_cons, entriesFrom]
    cases colours with
    | nil => exact congrArg _ (ih (start + 1) [])
    | cons colour colours => exact congrArg _ (ih (start + 1) colours)

/-- The commands' input is resolved over the session that is found. -/
theorem ending_resolve_of_ok {input : Input} {printer : Printer} {world : World}
    {session : Session} (h : ending (input.findSession printer) world = .ok session) :
    ending (input.resolve printer) world = .ok (input.over session) := by
  rw [ending_resolve, h]
  rfl

/-- Formulas, colours and all bounds given on the command line, and perhaps a session. -/
def fullInput (formulas colours : List String) (x y : Bounds) (named : Option Files.Path) : Input :=
  ⟨formulas, colours, some x.min, some x.max, some y.min, some y.max, named⟩

/-- Neither formulas nor bounds given on the command line. -/
def bareInput (unused : List String) (named : Option Files.Path) : Input :=
  { colours := unused, session := named }

/-- Both inputs are there, with the same rows and bounds. -/
def SamePlot (first second : Except PlotError PlotInput) : Prop :=
  ∃ input input', first = .ok input ∧ second = .ok input' ∧
    input.rows = input'.rows ∧ input.x = input'.x ∧ input.y = input'.y

theorem rows_over_fullInput {formulas : List String} (h : formulas ≠ []) (colours : List String)
    (x y : Bounds) (named : Option Files.Path) (session : Session) :
    ((fullInput formulas colours x y named).over session).rows =
      colouredRows 0 formulas colours := by
  have hgiven : formulas.isEmpty = false := List.isEmpty_eq_false_iff.2 h
  change (if formulas.isEmpty then _ else colouredRows 0 formulas colours) = _
  rw [hgiven, if_neg Bool.false_ne_true]

/-- **Command line and session give the same input.**  Formulas, colours and bounds on the command
line, over any session that is found, give the rows and bounds that they give as rows and bounds
of a session; so with formulas and all bounds given, no session makes a difference.  A bound that
is given on the command line takes the place of its own bound, and any other stays that of the
session, or the default one if there is no session. -/
theorem command_line_matches_session (printer : Printer) :
    (∀ (formulas colours : List String) (x y : Bounds), formulas ≠ [] →
      ∀ (named : Option Files.Path) (world : World) (found : Session),
      ending ((fullInput formulas colours x y named).findSession printer) world = .ok found →
      (∀ (unused : List String) (named' : Option Files.Path) (world' : World) (session : Session),
        ending ((bareInput unused named').findSession printer) world' = .ok session →
        session.rows = sessionRows formulas colours →
        session.x = ⟨.text x.min, .text x.max⟩ → session.y = ⟨.text y.min, .text y.max⟩ →
        SamePlot (ending ((fullInput formulas colours x y named).resolve printer) world)
          (ending ((bareInput unused named').resolve printer) world')) ∧
      ∀ (named' : Option Files.Path) (world' : World) (found' : Session),
        ending ((fullInput formulas colours x y named').findSession printer) world' = .ok found' →
        SamePlot (ending ((fullInput formulas colours x y named).resolve printer) world)
          (ending ((fullInput formulas colours x y named').resolve printer) world')) ∧
    (∀ (input : Input) (world : World) (session : Session),
      ending (input.findSession printer) world = .ok session →
      ∃ resolved, ending (input.resolve printer) world = .ok resolved ∧
        resolved.x.min = input.xMin.getD session.x.min.typed ∧
        resolved.x.max = input.xMax.getD session.x.max.typed ∧
        resolved.y.min = input.yMin.getD session.y.min.typed ∧
        resolved.y.max = input.yMax.getD session.y.max.typed) ∧
    Session.default.x.typed = Bounds.default ∧ Session.default.y.typed = Bounds.default := by
  refine ⟨fun formulas colours x y hne named world found hfull =>
    ⟨fun unused named' world' session hbare hrows hx hy => ?_,
      fun named' world' found' hfull' => ?_⟩, fun input world session hsession => ?_,
    by decide +kernel, by decide +kernel⟩
  · refine ⟨_, _, ending_resolve_of_ok hfull, ending_resolve_of_ok hbare, ?_, ?_, ?_⟩
    · rw [rows_over_fullInput hne]
      change _ = entriesFrom 0 session.rows
      rw [hrows, entriesFrom_sessionRows]
    · change _ = overlay session.x.typed none none
      rw [hx]
      rfl
    · change _ = overlay session.y.typed none none
      rw [hy]
      rfl
  · refine ⟨_, _, ending_resolve_of_ok hfull, ending_resolve_of_ok hfull', ?_, rfl, rfl⟩
    rw [rows_over_fullInput hne, rows_over_fullInput hne]
  · exact ⟨_, ending_resolve_of_ok hsession, rfl, rfl, rfl, rfl⟩

/-- Two formulas with one colour and four bounds, over a session with other rows, over the session
that says the same, and over none. -/
theorem command_line_matches_session_two_rows :
    let place (name : Char) : Files.Location := [Text.Utf8.encode [name]]
    let world : World := ⟨⟨[(place 'a', .file (.text "rows: [text: tanx]")),
      (place 'b', .file (.text ("x: \x7bmin: '1', max: '2'\x7d\ny: \x7bmin: a, max: '4'\x7d\n" ++
        "rows: [\x7btext: sinx, color: red\x7d, text: cosx]")))]⟩, [], "", ""⟩
    let full (named : Option Files.Path) : Input :=
      fullInput ["sinx", "cosx"] ["red"] ⟨"1", "2"⟩ ⟨"a", "4"⟩ named
    let bare : Input := bareInput [] (some (.ofText "b"))
    let half : Input := { bare with xMax := some "9" }
    SamePlot (ending ((full (some (.ofText "a"))).resolve .plain) world)
        (ending (bare.resolve .plain) world) ∧
      SamePlot (ending ((full (some (.ofText "a"))).resolve .plain) world)
        (ending ((full none).resolve .plain) world) ∧
      ∃ input, ending (half.resolve .plain) world = .ok input ∧ input.x.min = "1" ∧
        input.x.max = "9" ∧ input.y.min = "a" ∧ input.y.max = "4" := by
  intro place world full bare half
  obtain ⟨hfull, hhalf, -⟩ := command_line_matches_session .plain
  let other : Session := { Session.default with rows := [⟨"tanx", none⟩] }
  let same : Session := { Session.default with
    x := ⟨.text "1", .text "2"⟩, y := ⟨.text "a", .text "4"⟩,
    rows := [⟨"sinx", some ⟨"red"⟩⟩, ⟨"cosx", none⟩] }
  have hother : ending ((full (some (.ofText "a"))).findSession .plain) world = .ok other := by
    decide +kernel
  have hsame : ending (bare.findSession .plain) world = .ok same := by decide +kernel
  have hnone : ending ((full none).findSession .plain) world = .ok Session.default := by
    decide +kernel
  obtain ⟨hsession, halone⟩ := hfull ["sinx", "cosx"] ["red"] ⟨"1", "2"⟩ ⟨"a", "4"⟩ (by decide)
    (some (.ofText "a")) world other hother
  exact ⟨hsession [] (some (.ofText "b")) world same hsame rfl rfl rfl, halone none world _ hnone,
    hhalf half world same hsame⟩

end Command
end CurveSheet
