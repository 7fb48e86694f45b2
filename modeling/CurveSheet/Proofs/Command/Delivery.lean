/-
# What a drawing leaves behind

A drawing that fails leaves the files and the output as they were, whatever it failed at
(`unchanged_of_draw_error`).  One that succeeds leaves its document and no more: in the
output, or in the one file that it was to be written to (`hasDelivered_of_draw`).
-/

import CurveSheet.Proofs.Command.Running
import CurveSheet.Proofs.Diagnostic.Report

namespace CurveSheet

/-! ### Writing one file -/

namespace Files.FileTree

variable {tree : FileTree} {directory place : Location} {path : Path}

/-- A file that is written is not the root. -/
theorem targetIn_ne_nil {parent : Location} {name : Segment} {slash : Bool}
    (h : tree.targetIn parent name slash = .ok place) : place ≠ [] := by
  unfold targetIn at h
  split at h
  · cases h
  · split_ifs at h
    cases h
    exact List.append_ne_nil_of_right_ne_nil _ (List.cons_ne_nil _ _)

theorem target_ne_nil (h : tree.target directory path = .ok place) : place ≠ [] := by
  unfold target at h
  dsimp only at h
  split at h
  · cases h
  · split at h
    · cases h
    · split at h
      · cases h
      · exact targetIn_ne_nil h

/-- **A file that is written holds the text**, and all else is as it was. -/
theorem entryAt?_writeText {text : String} {files : FileTree}
    (h : tree.writeText directory path text = .ok files) :
    ∃ place, tree.target directory path = .ok place ∧
      files.entryAt? place = some (.file (.text text)) ∧
      ∀ other, other ≠ place → files.entryAt? other = tree.entryAt? other := by
  unfold writeText at h
  cases htarget : tree.target directory path with
  | error fault => rw [htarget] at h; cases h
  | ok place =>
    rw [htarget] at h
    cases h
    exact ⟨place, rfl, entryAt?_put tree place _ (target_ne_nil htarget),
      fun other hother => entryAt?_put_of_ne tree _ hother⟩

end Files.FileTree

namespace Command

open Engine Plot Terminal

/-! ### Delivering a document -/

section

variable {output : Option Files.Path} {document : String} {world : World}

/-- A document that cannot be delivered leaves no trace. -/
theorem delivered_of_error {error : PlotError}
    (h : (delivered output document world).1 = .error error) :
    (delivered output document world).2 = world := by
  unfold delivered at h ⊢
  cases output with
  | none => cases h
  | some path =>
    dsimp only at h ⊢
    cases hwritten : world.files.writeText world.directory path document with
    | error fault => rfl
    | ok files => rw [hwritten] at h; cases h

/-- The document is where it was to go, and nothing else has changed. -/
def HasDelivered (output : Option Files.Path) (document : String) (world world' : World) : Prop :=
  match output with
  | none => world'.files = world.files ∧ world'.output = world.output ++ document
  | some path => world'.output = world.output ∧
      ∃ place, world.files.target world.directory path = .ok place ∧
        world'.files.entryAt? place = some (.file (.text document)) ∧
        ∀ other, other ≠ place → world'.files.entryAt? other = world.files.entryAt? other

theorem hasDelivered_of_ok (h : (delivered output document world).1 = .ok ()) (log : String) :
    HasDelivered output document world { (delivered output document world).2 with log } := by
  unfold delivered at h ⊢
  unfold HasDelivered
  cases output with
  | none => exact ⟨rfl, rfl⟩
  | some path =>
    dsimp only at h ⊢
    cases hwritten : world.files.writeText world.directory path document with
    | error fault => rw [hwritten] at h; cases h
    | ok files => exact ⟨rfl, Files.FileTree.entryAt?_writeText hwritten⟩

end

/-! ### Drawings as a whole -/

/-- What stands in the log does not matter to a delivery. -/
theorem delivered_log (output : Option Files.Path) (document : String) (world : World)
    (log : String) : delivered output document { world with log } =
      ((delivered output document world).1, { (delivered output document world).2 with log }) := by
  unfold delivered
  cases output with
  | none => rfl
  | some path =>
    dsimp only
    cases world.files.writeText world.directory path document <;> rfl

section

variable {printer : Printer} {arguments : DrawArguments} {world : World}

/-- A drawing without its input fails as the input does. -/
theorem exists_outcomeIn_draw_of_error {error : PlotError}
    (h : ending (arguments.input.resolve printer) world = .error error) :
    ∃ log, outcomeIn (draw printer arguments) world = (.error error, { world with log }) := by
  obtain ⟨log, hresolve⟩ := exists_outcomeIn_resolve printer world arguments.input
  rw [h] at hresolve
  exact ⟨log, outcomeIn_bind_of_error hresolve⟩

/-- A drawing with its input fails as its document does, or delivers it. -/
theorem exists_outcomeIn_draw_of_ok {input : PlotInput}
    (h : ending (arguments.input.resolve printer) world = .ok input) :
    (∀ error, drawn arguments input = .error error → ∃ log,
      outcomeIn (draw printer arguments) world = (.error error, { world with log })) ∧
    ∀ document, drawn arguments input = .ok document → ∃ log,
      outcomeIn (draw printer arguments) world = ((delivered arguments.output document world).1,
        { (delivered arguments.output document world).2 with log }) := by
  obtain ⟨log, hresolve⟩ := exists_outcomeIn_resolve printer world arguments.input
  rw [h] at hresolve
  obtain ⟨log', hdraw⟩ := exists_outcomeIn_draw hresolve
  refine ⟨fun error herror => ⟨log', ?_⟩, fun document hdocument => ⟨log', ?_⟩⟩
  · rw [hdraw, herror]
  · simp only [hdraw, hdocument, delivered_log]

/-- A drawing that fails leaves no trace, whatever it fails at. -/
theorem unchanged_of_draw_error {error : PlotError}
    (h : (outcomeIn (draw printer arguments) world).1 = .error error) :
    (outcomeIn (draw printer arguments) world).2.files = world.files ∧
      (outcomeIn (draw printer arguments) world).2.output = world.output := by
  cases hresolved : ending (arguments.input.resolve printer) world with
  | error error' =>
    obtain ⟨log, hended⟩ := exists_outcomeIn_draw_of_error hresolved
    rw [hended]
    exact ⟨rfl, rfl⟩
  | ok input =>
    obtain ⟨hfails, hdelivers⟩ := exists_outcomeIn_draw_of_ok hresolved
    cases hdrawn : drawn arguments input with
    | error error' =>
      obtain ⟨log, hended⟩ := hfails error' hdrawn
      rw [hended]
      exact ⟨rfl, rfl⟩
    | ok document =>
      obtain ⟨log, hended⟩ := hdelivers document hdrawn
      rw [hended] at h ⊢
      rw [delivered_of_error h]
      exact ⟨rfl, rfl⟩

/-- Without a document a drawing fails. -/
theorem draw_error_of_drawn {input : PlotInput} {error : PlotError}
    (h : ending (arguments.input.resolve printer) world = .ok input)
    (hdrawn : drawn arguments input = .error error) :
    (outcomeIn (draw printer arguments) world).1 = .error error := by
  obtain ⟨log, hended⟩ := (exists_outcomeIn_draw_of_ok h).1 error hdrawn
  rw [hended]

/-- A drawing that succeeds has delivered the document of its input. -/
theorem hasDelivered_of_draw (h : (outcomeIn (draw printer arguments) world).1 = .ok ()) :
    ∃ input document, ending (arguments.input.resolve printer) world = .ok input ∧
      drawn arguments input = .ok document ∧
      HasDelivered arguments.output document world
        (outcomeIn (draw printer arguments) world).2 := by
  cases hresolved : ending (arguments.input.resolve printer) world with
  | error error =>
    obtain ⟨log, hended⟩ := exists_outcomeIn_draw_of_error hresolved
    rw [hended] at h
    cases h
  | ok input =>
    cases hdrawn : drawn arguments input with
    | error error =>
      rw [draw_error_of_drawn hresolved hdrawn] at h
      cases h
    | ok document =>
      obtain ⟨log, hended⟩ := (exists_outcomeIn_draw_of_ok hresolved).2 document hdrawn
      rw [hended] at h ⊢
      exact ⟨input, document, rfl, hdrawn, hasDelivered_of_ok h log⟩

end

/-- Bad bounds are in the way of a document, and so is a curve that is refused. -/
theorem drawn_eq_ok {arguments : DrawArguments} {input : PlotInput} {document : String}
    (h : drawn arguments input = .ok document) : ∃ outcome,
      build input.rows input.x input.y = .ok outcome ∧
        (∀ spec ∈ outcome.batch.specs, isRefused spec = false) ∧
        document = documentText (arguments.canvas input.session.canvas) outcome.batch := by
  cases hbuild : build input.rows input.x input.y with
  | error fault => rw [drawn_of_error hbuild] at h; cases h
  | ok outcome =>
    rw [drawn_of_ok hbuild] at h
    have hclean := (exists_draw_eq_ok_iff _).1 ⟨document, h⟩
    rw [Engine.draw, render, firstFault?_eq_none_iff.2 hclean] at h
    exact ⟨outcome, rfl, hclean, (Except.ok.inj h).symm⟩

/-- One curve that is refused is in the way of the whole document. -/
theorem exists_drawn_eq_error {arguments : DrawArguments} {input : PlotInput} {outcome : Outcome}
    (hbuild : build input.rows input.x input.y = .ok outcome)
    (hrefused : ∃ spec ∈ outcome.batch.specs, isRefused spec = true) :
    ∃ error, drawn arguments input = .error error := by
  obtain ⟨spec, hspec, hrefused⟩ := hrefused
  cases hdrawn : drawn arguments input with
  | error error => exact ⟨error, rfl⟩
  | ok document =>
    obtain ⟨outcome', hbuild', hclean, -⟩ := drawn_eq_ok hdrawn
    rw [hbuild] at hbuild'
    cases hbuild'
    rw [hclean spec hspec] at hrefused
    cases hrefused

/-- **A drawing leaves its document and no more.**  It fails if its session cannot be found or
read, if a bound is bad, or if any curve of the batch is refused; and whatever it fails at, the
files and the output are what they were.  If it succeeds, the document of the resolved rows and
bounds, on the canvas of the session with the given size and grid over it, is in the output, or
it is the whole of the one file that has changed. -/
theorem draw_leaves_document_only (printer : Printer) (arguments : DrawArguments) (world : World) :
    let resolved := ending (arguments.input.resolve printer) world
    let ended := outcomeIn (draw printer arguments) world
    (∀ error, ended.1 = .error error →
      ended.2.files = world.files ∧ ended.2.output = world.output) ∧
    (∀ error, resolved = .error error → ended.1 = .error error) ∧
    (∀ input, resolved = .ok input →
      (∀ fault, build input.rows input.x input.y = .error fault →
        ended.1 = .error (rangeError fault)) ∧
      ∀ outcome, build input.rows input.x input.y = .ok outcome →
        (∃ spec ∈ outcome.batch.specs, isRefused spec = true) →
          ∃ error, ended.1 = .error error) ∧
    (ended.1 = .ok () → ∃ input outcome, resolved = .ok input ∧
      build input.rows input.x input.y = .ok outcome ∧
      HasDelivered arguments.output
        (documentText
          { target := input.session.canvas.target
            width := arguments.width.getD input.session.width
            height := arguments.height.getD input.session.height
            grid := input.session.grid && !arguments.noGrid } outcome.batch)
        world ended.2) := by
  intro resolved ended
  refine ⟨fun _ h => unchanged_of_draw_error h, fun error h => ?_, fun input h =>
    ⟨fun fault hbuild => draw_error_of_drawn h (drawn_of_error hbuild),
      fun outcome hbuild hrefused => ?_⟩, fun h => ?_⟩
  · obtain ⟨log, hended⟩ := exists_outcomeIn_draw_of_error h
    exact congrArg Prod.fst hended
  · obtain ⟨error, hdrawn⟩ := exists_drawn_eq_error hbuild hrefused
    exact ⟨error, draw_error_of_drawn h hdrawn⟩
  · obtain ⟨input, document, hresolved, hdrawn, hdelivered⟩ := hasDelivered_of_draw h
    obtain ⟨outcome, hbuild, -, rfl⟩ := drawn_eq_ok hdrawn
    exact ⟨input, outcome, hresolved, hbuild, hdelivered⟩

/-- A curve that is refused behind a good one leaves the document of an earlier drawing in its
place; a bound that is no number and a session that is not there leave nothing. -/
theorem draw_leaves_document_only_earlier :
    let place : Files.Location := [Text.Utf8.encode ['p']]
    let world : World := ⟨⟨[(place, .file (.text "earlier"))]⟩, [], "", ""⟩
    let late : DrawArguments :=
      { input := { formulas := ["x", "sin(x"] }, output := some (.ofText "p") }
    let lost : DrawArguments := { input := { session := some (.ofText "s") } }
    let unbounded : DrawArguments := { input := { yMax := some "a" } }
    let good : DrawArguments := { input := { formulas := ["x"] }, output := some (.ofText "p") }
    (∃ error, (outcomeIn (draw .plain late) world).1 = .error error) ∧
      (outcomeIn (draw .plain late) world).2.files.entryAt? place =
        some (.file (.text "earlier")) ∧
      (outcomeIn (draw .plain lost) world).1 = .error (.file (.ofText "s") .readSession .notFound) ∧
      (outcomeIn (draw .plain lost) world).2.output = "" ∧
      (outcomeIn (draw .plain unbounded) world).1 =
        .error (rangeError (.y, .notANumber .max "a")) ∧
      (outcomeIn (draw .plain good) world).1 = .ok () ∧
      (outcomeIn (draw .plain good) world).2.output = "" := by
  intro place world late lost unbounded good
  have hgood : (ending (draw .plain good) world) = .ok () := by decide +kernel
  obtain ⟨hlateTrace, -, hlateReasons, -⟩ := draw_leaves_document_only .plain late world
  obtain ⟨hlostTrace, hlostReason, -⟩ := draw_leaves_document_only .plain lost world
  obtain ⟨-, -, -, hgoodDelivers⟩ := draw_leaves_document_only .plain good world
  obtain ⟨-, -, hunboundedReasons, -⟩ := draw_leaves_document_only .plain unbounded world
  have hunbounded := (hunboundedReasons (unbounded.input.over Session.default) rfl).1
    (.y, .notANumber .max "a") (by decide +kernel)
  have hlost := hlostReason _ (rfl : ending (lost.input.resolve .plain) world = _)
  have hlate : ∃ error, (outcomeIn (draw .plain late) world).1 = .error error := by
    let input := late.input.over Session.default
    have hrefused : (match build input.rows input.x input.y with
        | .ok outcome => outcome.batch.specs.any isRefused
        | .error _ => false) = true := by decide +kernel
    cases hbuild : build input.rows input.x input.y with
    | error fault => rw [hbuild] at hrefused; cases hrefused
    | ok outcome =>
      rw [hbuild] at hrefused
      exact (hlateReasons input rfl).2 outcome hbuild (List.any_eq_true.1 hrefused)
  obtain ⟨error, herror⟩ := hlate
  obtain ⟨input, outcome, -, -, hdelivered⟩ := hgoodDelivers hgood
  refine ⟨⟨error, herror⟩, ?_, hlost, (hlostTrace _ hlost).2, hunbounded, hgood,
    hdelivered.1⟩
  rw [(hlateTrace error herror).1]
  rfl

end Command
end CurveSheet
