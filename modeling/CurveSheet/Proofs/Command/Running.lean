/-
# Commands in a world

What a command does in a world of its own is followed step by step: after a step that
succeeds comes the next one, after a step that fails nothing (`outcomeIn_bind_of_ok`,
`outcomeIn_bind_of_error`).  Looking for a session and resolving the input only write to
the log (`exists_outcomeIn_findSession`, `exists_outcomeIn_resolve`).  A drawing is its
input, its batch and the engine one after the other, and only when all of them are
content its document is delivered (`exists_outcomeIn_draw`).  Before it asks the engine it
says which rows it leaves out (`exists_outcomeIn_draw_of_build`).
-/

import CurveSheet.Command.Draw
import CurveSheet.Host.World

namespace CurveSheet
namespace Command

open Engine Plot Terminal

/-- What happens in a world. -/
abbrev InWorld (α : Type) := ExceptT PlotError (StateM World) α

/-- What becomes of a world and how a command ends in it. -/
def outcomeIn {α : Type} (command : InWorld α) (world : World) : Except PlotError α × World :=
  command.run.run world

/-- How a command ends in a world. -/
def ending {α : Type} (command : InWorld α) (world : World) : Except PlotError α :=
  (outcomeIn command world).1

/-! ### Commands step by step -/

section

variable {α β : Type} {command : InWorld α} {next : α → InWorld β} {world world' : World}

theorem outcomeIn_bind_of_ok {a : α} (h : outcomeIn command world = (.ok a, world')) :
    outcomeIn (command >>= next) world = outcomeIn (next a) world' := by
  unfold outcomeIn at h ⊢
  rw [ExceptT.run_bind, StateT.run_bind, h]
  rfl

theorem outcomeIn_bind_of_error {error : PlotError}
    (h : outcomeIn command world = (.error error, world')) :
    outcomeIn (command >>= next) world = (.error error, world') := by
  unfold outcomeIn at h ⊢
  rw [ExceptT.run_bind, StateT.run_bind, h]
  rfl

theorem outcomeIn_orFail {ε : Type} (error : ε → PlotError) (result : Except ε α) :
    outcomeIn (orFail error result) world = (result.mapError error, world) := rfl

theorem outcomeIn_lift {step : StateM World α} {a : α} (h : step.run world = (a, world')) :
    outcomeIn (liftM step) world = (.ok a, world') := by
  change (Except.ok <$> step : StateM World (Except PlotError α)).run world = _
  rw [StateT.run_map, h]
  rfl

end

/-- Saying something leaves all but the log as it is. -/
theorem run_say (printer : Printer) (tone : Tone) (verb message : String) (world : World) :
    (Host.say printer tone verb message : StateM World Unit).run world =
      ((), { world with log := world.log ++ printer.line tone verb message }) := rfl

/-- The lines about the rows that are left out. -/
def skippedLines (printer : Printer) (failures : List RowFailure) : String :=
  String.join (failures.map fun failure => printer.line .caution "Skipping" failure.message)

theorem skippedLines_cons (printer : Printer) (failure : RowFailure) (rest : List RowFailure) :
    skippedLines printer (failure :: rest) =
      printer.line .caution "Skipping" failure.message ++ skippedLines printer rest :=
  String.join_cons

/-- **Saying which rows are left out** adds a line for each of them, by induction over them. -/
theorem run_saySkipped (printer : Printer) (failures : List RowFailure) (world : World) :
    (saySkipped printer failures : StateM World Unit).run world =
      ((), { world with log := world.log ++ skippedLines printer failures }) := by
  induction failures generalizing world with
  | nil => rw [skippedLines, List.map_nil, String.join_nil, String.append_empty]; rfl
  | cons failure rest ih =>
    have hrest := ih
      { world with log := world.log ++ printer.line .caution "Skipping" failure.message }
    rw [String.append_assoc, ← skippedLines_cons] at hrest
    exact hrest

section

variable {printer : Printer} {path : Files.Path} {document : String} {world : World} {log : String}

/-- A document that cannot be written changes nothing. -/
theorem outcomeIn_writeDocument_of_error {fault : Files.FileFault}
    (h : world.files.writeText world.directory path document = .error fault) :
    outcomeIn (writeDocument printer path document) { world with log } =
      (.error (.file path .writeOutput fault), { world with log }) := by
  have hwritten : (Host.writeText path document : StateM World _).run { world with log } =
      (.error fault, { world with log }) := World.run_writeText_of_error h
  unfold writeDocument
  rw [outcomeIn_bind_of_ok (outcomeIn_lift hwritten), outcomeIn_bind_of_error]
  rfl

/-- A document that is written is said to be. -/
theorem exists_outcomeIn_writeDocument {files : Files.FileTree}
    (h : world.files.writeText world.directory path document = .ok files) :
    ∃ more, outcomeIn (writeDocument printer path document) { world with log } =
      (.ok (), { world with files, log := log ++ more }) := by
  have hwritten : (Host.writeText path document : StateM World _).run { world with log } =
      (.ok (), { world with files, log }) := World.run_writeText_of_ok h
  unfold writeDocument
  rw [outcomeIn_bind_of_ok (outcomeIn_lift hwritten),
    outcomeIn_bind_of_ok (outcomeIn_orFail _ _)]
  exact ⟨_, rfl⟩

end

/-! ### Finding the input -/

section

variable (printer : Printer) (world : World)

theorem exists_outcomeIn_loadSession (path : Files.Path) :
    ∃ loaded, outcomeIn (loadSession path) world = (loaded, world) := by
  unfold loadSession
  rw [outcomeIn_bind_of_ok (outcomeIn_lift (World.run_readText ..))]
  cases world.files.readText world.directory path with
  | error fault => exact ⟨_, outcomeIn_bind_of_error (outcomeIn_orFail _ _)⟩
  | ok text => exact ⟨_, outcomeIn_bind_of_ok (outcomeIn_orFail _ _)⟩

theorem exists_run_sessionPath (input : Input) :
    ∃ path?, (input.sessionPath : StateM World (Option Files.Path)).run world = (path?, world) := by
  unfold Input.sessionPath
  cases input.session with
  | none => exact ⟨_, rfl⟩
  | some path => exact ⟨_, rfl⟩

/-- **Looking for a session** leaves all but the log as it is. -/
theorem exists_outcomeIn_findSession (input : Input) :
    ∃ found log, outcomeIn (input.findSession printer) world = (found, { world with log }) := by
  obtain ⟨path?, hpath⟩ := exists_run_sessionPath world input
  unfold Input.findSession
  rw [outcomeIn_bind_of_ok (outcomeIn_lift hpath)]
  cases path? with
  | none => exact ⟨_, world.log, rfl⟩
  | some path =>
    obtain ⟨loaded, hloaded⟩ := exists_outcomeIn_loadSession world path
    cases loaded with
    | error error => exact ⟨_, world.log, outcomeIn_bind_of_error hloaded⟩
    | ok session =>
      dsimp only
      rw [outcomeIn_bind_of_ok hloaded]
      exact ⟨_, _, rfl⟩

/-- **The input is resolved** over the session that counts, if there is one. -/
theorem ending_resolve (input : Input) : ending (input.resolve printer) world =
    (ending (input.findSession printer) world).map input.over := by
  obtain ⟨found, log, hfound⟩ := exists_outcomeIn_findSession printer world input
  unfold Input.resolve ending
  rw [hfound]
  cases found with
  | error error => rw [outcomeIn_bind_of_error hfound]; rfl
  | ok session => rw [outcomeIn_bind_of_ok hfound]; rfl

/-- Resolving the input leaves all but the log as it is. -/
theorem exists_outcomeIn_resolve (input : Input) : ∃ log,
    outcomeIn (input.resolve printer) world =
      (ending (input.resolve printer) world, { world with log }) := by
  obtain ⟨found, log, hfound⟩ := exists_outcomeIn_findSession printer world input
  refine ⟨log, Prod.ext rfl ?_⟩
  unfold Input.resolve
  cases found with
  | error error => rw [outcomeIn_bind_of_error hfound]
  | ok session => rw [outcomeIn_bind_of_ok hfound]; rfl

end

/-! ### Drawing -/

/-- The document of a drawing, or what is in its way. -/
def drawn (arguments : DrawArguments) (input : PlotInput) : Except PlotError String := do
  let outcome ← (build input.rows input.x input.y).mapError rangeError
  Engine.draw (render (arguments.canvas input.session.canvas)) outcome

theorem drawn_of_error {arguments : DrawArguments} {input : PlotInput} {fault : Axis × RangeFault}
    (h : build input.rows input.x input.y = .error fault) :
    drawn arguments input = .error (rangeError fault) := by
  rw [drawn, h]
  rfl

theorem drawn_of_ok {arguments : DrawArguments} {input : PlotInput} {outcome : Outcome}
    (h : build input.rows input.x input.y = .ok outcome) : drawn arguments input =
      Engine.draw (render (arguments.canvas input.session.canvas)) outcome := by
  rw [drawn, h]
  rfl

/-- Where a document goes, and how that ends. -/
def delivered (output : Option Files.Path) (document : String) (world : World) :
    Except PlotError Unit × World :=
  match output with
  | none => (.ok (), { world with output := world.output ++ document })
  | some path =>
    match world.files.writeText world.directory path document with
    | .ok files => (.ok (), { world with files })
    | .error fault => (.error (.file path .writeOutput fault), world)

/-- Delivering a document and saying so. -/
theorem exists_outcomeIn_delivery (printer : Printer) (output : Option Files.Path)
    (document summary : String) (world : World) (log : String) :
    ∃ more, outcomeIn (do
        match output with
        | some path => writeDocument printer path document
        | none => Host.output (m := StateM World) document
        Host.say (m := StateM World) printer .done "Plotted" summary : InWorld Unit)
        { world with log } =
      ((delivered output document world).1,
        { (delivered output document world).2 with log := log ++ more }) := by
  cases output with
  | none =>
    rw [outcomeIn_bind_of_ok (outcomeIn_lift (World.run_output ..)), outcomeIn_lift (run_say ..)]
    exact ⟨_, rfl⟩
  | some path =>
    unfold delivered
    cases hwritten : world.files.writeText world.directory path document with
    | error fault =>
      dsimp only
      rw [outcomeIn_bind_of_error (outcomeIn_writeDocument_of_error hwritten), hwritten]
      exact ⟨"", by rw [String.append_empty]⟩
    | ok files =>
      obtain ⟨more, h⟩ := exists_outcomeIn_writeDocument hwritten
      dsimp only
      rw [outcomeIn_bind_of_ok h, outcomeIn_lift (run_say ..), hwritten]
      exact ⟨_, by rw [String.append_assoc]⟩

section

variable {printer : Printer} {arguments : DrawArguments} {world world' : World} {input : PlotInput}

/-- **A drawing between good bounds** says first which rows are left out.  Then it delivers its
document if there is one, and else nothing. -/
theorem exists_outcomeIn_draw_of_build {outcome : Outcome}
    (hresolve : outcomeIn (arguments.input.resolve printer) world = (.ok input, world'))
    (hbuild : build input.rows input.x input.y = .ok outcome) :
    ∃ more, outcomeIn (draw printer arguments) world =
      match drawn arguments input with
      | .error error => (.error error,
          { world' with log := world'.log ++ skippedLines printer outcome.failures ++ more })
      | .ok document => ((delivered arguments.output document world').1,
          { (delivered arguments.output document world').2 with
            log := world'.log ++ skippedLines printer outcome.failures ++ more }) := by
  unfold draw
  rw [outcomeIn_bind_of_ok hresolve, hbuild, outcomeIn_bind_of_ok (outcomeIn_orFail rangeError _),
    outcomeIn_bind_of_ok (outcomeIn_lift (run_saySkipped ..)),
    outcomeIn_bind_of_ok (outcomeIn_lift (run_say ..)), drawn_of_ok hbuild]
  dsimp only
  cases Engine.draw (render (arguments.canvas input.session.canvas)) outcome with
  | error error =>
    rw [outcomeIn_bind_of_error (outcomeIn_orFail id _)]
    exact ⟨_, rfl⟩
  | ok document =>
    rw [outcomeIn_bind_of_ok (outcomeIn_orFail id _)]
    obtain ⟨more, h⟩ := exists_outcomeIn_delivery printer arguments.output document
      (plottedSummary outcome) world' (world'.log ++ skippedLines printer outcome.failures ++
        printer.line .note "Viewport" (cornersText outcome.batch))
    exact ⟨_, h.trans (by rw [String.append_assoc])⟩

/-- **A drawing delivers its document if there is one**, and else nothing. -/
theorem exists_outcomeIn_draw
    (hresolve : outcomeIn (arguments.input.resolve printer) world = (.ok input, world')) :
    ∃ log, outcomeIn (draw printer arguments) world =
      match drawn arguments input with
      | .error error => (.error error, { world' with log })
      | .ok document => ((delivered arguments.output document world').1,
          { (delivered arguments.output document world').2 with log }) := by
  cases hbuild : build input.rows input.x input.y with
  | error fault =>
    unfold draw
    rw [outcomeIn_bind_of_ok hresolve, hbuild,
      outcomeIn_bind_of_error (outcomeIn_orFail rangeError _), drawn_of_error hbuild]
    exact ⟨world'.log, rfl⟩
  | ok outcome =>
    obtain ⟨more, h⟩ := exists_outcomeIn_draw_of_build hresolve hbuild
    exact ⟨_, h⟩

end

end Command
end CurveSheet
