/-
# Drawing where there is little room

The engine looks at all formulas before it writes, so where it refuses one nothing is written.  It
then writes the document and behind it a line end, byte after byte, until it has no more room
(`renderTo`); what is left and whether it succeeds can be told from the number of bytes of both
together (`renderTo_eq`).  So a batch is drawn exactly if no curve is refused and all bytes have
room (`renderWithin_eq_ok_iff`), and otherwise stops at the first curve that is refused, or for
want of room (`renderWithin_eq_error_iff`).  The driver puts another error in the place of the
engine's, and never one in the place of a success (`draw_eq_ok_iff`, `draw_eq_error_iff`).
-/

import CurveSheet.Proofs.Diagnostic.Report
import Mathlib.Data.List.Basic

namespace CurveSheet
namespace Engine

open Plot

/-! ### Writing bytes -/

/-- The bytes of a text. -/
def bytesOf (text : String) : List UInt8 := text.toByteArray.data.toList

theorem length_bytesOf (text : String) : (bytesOf text).length = text.utf8ByteSize := by
  rw [bytesOf, Array.length_toList, ByteArray.size_data, String.size_toByteArray]

theorem bytesOf_append (first second : String) :
    bytesOf (first ++ second) = bytesOf first ++ bytesOf second := by
  simp [bytesOf]

theorem utf8ByteSize_eq_byteCount (text : List Char) :
    (String.ofList text).utf8ByteSize = Text.byteCount text := by
  induction text with
  | nil => rfl
  | cons c rest ih =>
    rw [Text.byteCount_cons, ← ih, ← List.singleton_append, String.ofList_append,
      String.utf8ByteSize_append, ← String.singleton_eq_ofList, String.utf8ByteSize_singleton]

/-- Bytes that were taken, and room for so many more. -/
structure Sink where
  taken : List UInt8
  room : Nat

/-- Writes bytes one after the other up to the first that has no room; tells whether all had. -/
def Sink.write (sink : Sink) : List UInt8 → Sink × Bool
  | [] => (sink, true)
  | byte :: rest =>
    match sink.room with
    | 0 => (sink, false)
    | room + 1 => Sink.write ⟨sink.taken ++ [byte], room⟩ rest

/-- **A sink takes what it has room for.** -/
theorem Sink.write_eq (sink : Sink) (bytes : List UInt8) :
    sink.write bytes = (⟨sink.taken ++ bytes.take sink.room, sink.room - bytes.length⟩,
      decide (bytes.length ≤ sink.room)) := by
  induction bytes generalizing sink with
  | nil => simp [write]
  | cons byte rest ih =>
    obtain ⟨taken, room⟩ := sink
    cases room with
    | zero => simp [write]
    | succ room => simp [write, ih]

/-- Bytes in two parts are written one part after the other. -/
theorem Sink.write_append (sink : Sink) (first second : List UInt8) :
    sink.write (first ++ second) =
      match sink.write first with
      | (sink, true) => sink.write second
      | (sink, false) => (sink, false) := by
  induction first generalizing sink with
  | nil => rfl
  | cons byte rest ih =>
    obtain ⟨taken, room⟩ := sink
    cases room with
    | zero => rfl
    | succ room => exact ih _

/-! ### The engine at work -/

/-- Looks at formulas one after the other up to the first that does not balance. -/
def examine : List Spec → Except EngineFault Unit
  | [] => .ok ()
  | spec :: rest =>
    match formulaFault? spec.formula with
    | some fault => .error fault
    | none => examine rest

/-- Writes a text. -/
def Sink.writeText (sink : Sink) (text : String) : Sink × Except EngineFault Unit :=
  match sink.write (bytesOf text) with
  | (sink, true) => (sink, .ok ())
  | (sink, false) => (sink, .error .noRoom)

/-- Examines the formulas of a batch, writes its document, and then a line end. -/
def renderTo (sink : Sink) (canvas : Canvas) (batch : Batch) : Sink × Except EngineFault Unit :=
  match examine batch.specs with
  | .error fault => (sink, .error fault)
  | .ok _ =>
    match sink.writeText (document canvas batch).pretty with
    | (sink, .ok _) => sink.writeText "\n"
    | (sink, .error fault) => (sink, .error fault)

theorem examine_eq (specs : List Spec) :
    examine specs = match firstFault? specs with
      | some fault => .error fault
      | none => .ok () := by
  induction specs with
  | nil => rfl
  | cons spec rest ih =>
    rw [examine, firstFault?, List.findSome?_cons, ih, firstFault?]
    cases formulaFault? spec.formula <;> rfl

/-- A text in two parts is written one part after the other. -/
theorem Sink.writeText_append (sink : Sink) (first second : String) :
    sink.writeText (first ++ second) =
      match sink.writeText first with
      | (sink, .ok _) => sink.writeText second
      | (sink, .error fault) => (sink, .error fault) := by
  rw [writeText, writeText, bytesOf_append, write_append]
  obtain ⟨sink', written⟩ := sink.write (bytesOf first)
  cases written <;> rfl

/-- The bytes of a document and its line end. -/
def documentSize (canvas : Canvas) (batch : Batch) : Nat :=
  (document canvas batch).pretty.utf8ByteSize + 1

theorem utf8ByteSize_documentText (canvas : Canvas) (batch : Batch) :
    (documentText canvas batch).utf8ByteSize = documentSize canvas batch := by
  rw [documentText, String.utf8ByteSize_append]
  rfl

/-- The size of a document, by its characters. -/
theorem documentSize_eq (canvas : Canvas) (batch : Batch) :
    documentSize canvas batch = Text.byteCount ((document canvas batch).prettyChars 0) + 1 := by
  rw [documentSize, Json.pretty, utf8ByteSize_eq_byteCount]

theorem renderTo_of_refused {canvas : Canvas} {batch : Batch} {fault : EngineFault}
    (h : firstFault? batch.specs = some fault) (sink : Sink) :
    renderTo sink canvas batch = (sink, .error fault) := by
  rw [renderTo, examine_eq, h]

theorem renderTo_of_accepted {canvas : Canvas} {batch : Batch}
    (h : firstFault? batch.specs = none) (sink : Sink) :
    renderTo sink canvas batch = sink.writeText (documentText canvas batch) := by
  rw [renderTo, examine_eq, h, documentText, Sink.writeText_append]

/-- **Writing byte after byte comes to what the size of the document tells.** -/
theorem renderTo_eq (room : Nat) (canvas : Canvas) (batch : Batch) :
    renderTo ⟨[], room⟩ canvas batch =
      (⟨if (firstFault? batch.specs).isSome then []
          else (bytesOf (documentText canvas batch)).take room,
        (renderWithin room canvas batch).1⟩, (renderWithin room canvas batch).2) := by
  unfold renderWithin render
  cases h : firstFault? batch.specs with
  | some fault =>
    rw [renderTo_of_refused h]
    rfl
  | none =>
    rw [renderTo_of_accepted h, Sink.writeText, Sink.write_eq, length_bytesOf]
    by_cases hroom : (documentText canvas batch).utf8ByteSize ≤ room
    · simp [hroom]
    · have hfull : room - (documentText canvas batch).utf8ByteSize = 0 := by omega
      simp [hroom, hfull]

/-! ### Where the engine stops -/

/-- Why a batch is not drawn: a curve is refused, and none before it; or none is refused, and the
document has no room. -/
inductive Stops (room : Nat) (canvas : Canvas) (batch : Batch) : EngineFault → Prop where
  | refused {before behind : List Spec} {spec : Spec} {fault : EngineFault}
    (hspecs : batch.specs = before ++ spec :: behind)
    (hbefore : ∀ earlier ∈ before, isRefused earlier = false)
    (hfault : formulaFault? spec.formula = some fault) : Stops room canvas batch fault
  | full (haccepted : ∀ spec ∈ batch.specs, isRefused spec = false)
    (hroom : room < documentSize canvas batch) : Stops room canvas batch .noRoom

variable {room : Nat} {canvas : Canvas} {batch : Batch}

/-- The first fault is that of the first curve that is refused. -/
theorem firstFault?_eq_some_iff {specs : List Spec} {fault : EngineFault} :
    firstFault? specs = some fault ↔ ∃ before spec behind, specs = before ++ spec :: behind ∧
      formulaFault? spec.formula = some fault ∧ ∀ earlier ∈ before, isRefused earlier = false := by
  simp only [firstFault?, List.findSome?_eq_some_iff, ← formulaFault?_isSome,
    Option.isSome_eq_false_iff, Option.isNone_iff_eq_none]

theorem exists_firstFault?_eq_some {specs : List Spec}
    (h : ∃ spec ∈ specs, isRefused spec = true) : ∃ fault, firstFault? specs = some fault := by
  rw [← Option.ne_none_iff_exists', Ne, firstFault?_eq_none_iff]
  obtain ⟨spec, hspec, hrefused⟩ := h
  exact fun hall => Bool.false_ne_true ((hall spec hspec).symm.trans hrefused)

theorem renderWithin_of_refused {fault : EngineFault} (h : firstFault? batch.specs = some fault) :
    renderWithin room canvas batch = (room, .error fault) := by
  rw [renderWithin, render, h]

theorem renderWithin_of_accepted (h : firstFault? batch.specs = none) :
    renderWithin room canvas batch =
      if documentSize canvas batch ≤ room then (room - documentSize canvas batch, .ok ())
      else (0, .error .noRoom) := by
  rw [renderWithin, render, h, ← utf8ByteSize_documentText]

/-- **A batch is drawn exactly if no curve is refused and its document has room.** -/
theorem renderWithin_eq_ok_iff : (renderWithin room canvas batch).2 = .ok () ↔
    (∀ spec ∈ batch.specs, isRefused spec = false) ∧ documentSize canvas batch ≤ room := by
  rw [← firstFault?_eq_none_iff]
  cases h : firstFault? batch.specs with
  | some fault => simp [renderWithin_of_refused h]
  | none =>
    rw [renderWithin_of_accepted h]
    split <;> simp_all

theorem renderWithin_eq_error_iff {fault : EngineFault} :
    (renderWithin room canvas batch).2 = .error fault ↔ Stops room canvas batch fault := by
  constructor
  · intro h
    cases hfault : firstFault? batch.specs with
    | some fault' =>
      rw [renderWithin_of_refused hfault] at h
      obtain rfl := Except.error.inj h
      obtain ⟨before, spec, behind, hspecs, hspec, hbefore⟩ := firstFault?_eq_some_iff.1 hfault
      exact .refused hspecs hbefore hspec
    | none =>
      rw [renderWithin_of_accepted hfault] at h
      split at h
      · cases h
      · obtain rfl := Except.error.inj h
        exact .full (firstFault?_eq_none_iff.1 hfault) (by omega)
  · rintro (⟨hspecs, hbefore, hfault⟩ | ⟨haccepted, hroom⟩)
    · rw [renderWithin_of_refused
        (firstFault?_eq_some_iff.2 ⟨_, _, _, hspecs, hfault, hbefore⟩)]
    · rw [renderWithin_of_accepted (firstFault?_eq_none_iff.2 haccepted), if_neg (by omega)]

/-- There is one reason why a batch is not drawn. -/
theorem Stops.unique {fault fault' : EngineFault} (h : Stops room canvas batch fault)
    (h' : Stops room canvas batch fault') : fault = fault' :=
  Except.error.inj ((renderWithin_eq_error_iff.2 h).symm.trans (renderWithin_eq_error_iff.2 h'))

/-! ### The driver -/

theorem draw_eq_ok_iff {α : Type} {engine : Batch → Except EngineFault α} {outcome : Outcome}
    {a : α} : draw engine outcome = .ok a ↔ engine outcome.batch = .ok a := by
  unfold draw
  cases engine outcome.batch <;> simp [Except.mapError]

theorem draw_eq_error_iff {α : Type} {engine : Batch → Except EngineFault α} {outcome : Outcome}
    {error : PlotError} : draw engine outcome = .error error ↔
      ∃ fault, engine outcome.batch = .error fault ∧ drawError outcome fault = error := by
  unfold draw
  cases engine outcome.batch <;> simp [Except.mapError]

/-- Drawing an outcome where there is room for so many bytes: the bytes left, and how it ends. -/
def drawWithin (room : Nat) (canvas : Canvas) (outcome : Outcome) : Nat × Except PlotError Unit :=
  ((renderWithin room canvas outcome.batch).1,
    draw (fun batch => (renderWithin room canvas batch).2) outcome)

theorem drawWithin_eq_ok_iff {outcome : Outcome} : (drawWithin room canvas outcome).2 = .ok () ↔
    (∀ spec ∈ outcome.batch.specs, isRefused spec = false) ∧
      documentSize canvas outcome.batch ≤ room := by
  rw [drawWithin, draw_eq_ok_iff, renderWithin_eq_ok_iff]

theorem drawWithin_eq_error_iff {outcome : Outcome} {error : PlotError} :
    (drawWithin room canvas outcome).2 = .error error ↔
      ∃ fault, Stops room canvas outcome.batch fault ∧ drawError outcome fault = error := by
  simp only [drawWithin, draw_eq_error_iff, renderWithin_eq_error_iff]

theorem drawError_of_failures {outcome : Outcome} (h : outcome.failures ≠ [])
    (fault : EngineFault) : drawError outcome fault = .rowsFailed := by
  rw [drawError, if_pos (by simpa [Outcome.hasFailures] using h)]

theorem drawError_of_no_failures {outcome : Outcome} (h : outcome.failures = [])
    (fault : EngineFault) : drawError outcome fault = .engine fault.message := by
  rw [drawError, if_neg (by simp [Outcome.hasFailures, h])]

/-- **Drawing with little room.**  A refused curve fails the drawing and leaves all the room.
Otherwise the drawing succeeds exactly if the document and its line end have room, and leaves what
they do not take.  If it fails, the engine has stopped at the first curve that is refused, or for
want of room; the error is about the formulas if rows were set aside before, and else says what
the engine says.  More room never hurts, and neither do failures.  The engine may as well write
byte after byte: it takes the bytes that have room, and comes to the same. -/
theorem draw_within_room (canvas : Canvas) (outcome : Outcome) :
    (∀ room, (∃ spec ∈ outcome.batch.specs, isRefused spec = true) →
      (∃ error, (drawWithin room canvas outcome).2 = .error error) ∧
        (drawWithin room canvas outcome).1 = room) ∧
    (∀ room, (∀ spec ∈ outcome.batch.specs, isRefused spec = false) →
      ((drawWithin room canvas outcome).2 = .ok () ↔ documentSize canvas outcome.batch ≤ room) ∧
        (documentSize canvas outcome.batch ≤ room →
          (drawWithin room canvas outcome).1 = room - documentSize canvas outcome.batch)) ∧
    (∀ room error, (drawWithin room canvas outcome).2 = .error error →
      ∃ fault, Stops room canvas outcome.batch fault ∧
        (outcome.failures ≠ [] → error = .rowsFailed ∧ error.errorClass = .formula) ∧
        (outcome.failures = [] → error = .engine fault.message ∧ error.errorClass = .render)) ∧
    (∀ room room', room ≤ room' → (drawWithin room canvas outcome).2 = .ok () →
      (drawWithin room' canvas outcome).2 = .ok ()) ∧
    (∀ room failures, (drawWithin room canvas ⟨outcome.batch, failures⟩).2 = .ok () ↔
      (drawWithin room canvas outcome).2 = .ok ()) ∧
    ∀ room, renderTo ⟨[], room⟩ canvas outcome.batch =
      (⟨if (firstFault? outcome.batch.specs).isSome then []
          else (bytesOf (documentText canvas outcome.batch)).take room,
        (renderWithin room canvas outcome.batch).1⟩,
        (renderWithin room canvas outcome.batch).2) := by
  refine ⟨fun room hrefused => ?_, fun room haccepted => ⟨?_, fun hroom => ?_⟩,
    fun room error herror => ?_, fun room room' hle h => ?_, fun room failures => ?_,
    fun room => renderTo_eq room canvas outcome.batch⟩
  · obtain ⟨fault, hfault⟩ := exists_firstFault?_eq_some hrefused
    have hstop : Stops room canvas outcome.batch fault := by
      rw [← renderWithin_eq_error_iff, renderWithin_of_refused hfault]
    refine ⟨⟨_, drawWithin_eq_error_iff.2 ⟨fault, hstop, rfl⟩⟩, ?_⟩
    rw [drawWithin, renderWithin_of_refused hfault]
  · rw [drawWithin_eq_ok_iff, and_iff_right haccepted]
  · rw [drawWithin, renderWithin_of_accepted (firstFault?_eq_none_iff.2 haccepted), if_pos hroom]
  · obtain ⟨fault, hstop, rfl⟩ := drawWithin_eq_error_iff.1 herror
    refine ⟨fault, hstop, fun hfailures => ?_, fun hfailures => ?_⟩
    · rw [drawError_of_failures hfailures]
      exact ⟨rfl, rfl⟩
    · rw [drawError_of_no_failures hfailures]
      exact ⟨rfl, rfl⟩
  · obtain ⟨haccepted, hroom⟩ := drawWithin_eq_ok_iff.1 h
    exact drawWithin_eq_ok_iff.2 ⟨haccepted, hroom.trans hle⟩
  · rw [drawWithin_eq_ok_iff, drawWithin_eq_ok_iff]

/-- The document of one curve and its line end take 407 bytes, two of them for `π`, so they have no
room where there is one byte less.  Of two formulas that do not balance the engine names the first,
and if a row was set aside the driver names neither. -/
theorem draw_within_room_boundary :
    let axis : AxisRange := ⟨⟨true, 4607182418800017408, by decide⟩,
      ⟨false, 4607182418800017408, by decide⟩, by decide⟩
    let curve : Spec := .explicit "π" (.forRow 0)
    let drawn : Outcome := ⟨⟨[curve], axis, axis⟩, []⟩
    let refused : Outcome :=
      ⟨⟨[curve, .explicit "sin(x" (.forRow 1), .explicit "x)" (.forRow 2)], axis, axis⟩, []⟩
    let doubled : RowFailure := ⟨2, "x==y", .equation 2⟩
    drawWithin 407 .default drawn = (0, .ok ()) ∧
      (drawWithin 500 .default drawn).2 = .ok () ∧
      (drawWithin 407 .default ⟨drawn.batch, [doubled]⟩).2 = .ok () ∧
      (drawWithin 406 .default drawn).2 =
        .error (.engine "Failed to write plot: failed to write whole buffer") ∧
      drawWithin 500 .default refused = (500, .error (.engine "unclosed '(' in `sin(x`")) ∧
      drawWithin 500 .default ⟨refused.batch, [doubled]⟩ = (500, .error .rowsFailed) := by
  intro axis curve drawn refused doubled
  have hsize : documentSize .default drawn.batch = 407 := by
    rw [documentSize_eq]
    decide +kernel
  have haccepted : ∀ spec ∈ drawn.batch.specs, isRefused spec = false := by decide
  have hrefused : ∃ spec ∈ refused.batch.specs, isRefused spec = true := by decide
  obtain ⟨-, hok, -, hroom, hfailures, -⟩ := draw_within_room .default drawn
  have hdrawn : (drawWithin 407 .default drawn).2 = .ok () :=
    (hok 407 haccepted).1.2 (by rw [hsize])
  have hleft : (drawWithin 407 .default drawn).1 = 0 := by
    rw [(hok 407 haccepted).2 (by rw [hsize]), hsize]
  have hfull : Stops 406 .default drawn.batch .noRoom := .full haccepted (by rw [hsize]; decide)
  have hspecs : refused.batch.specs = [curve] ++ .explicit "sin(x" (.forRow 1) ::
      [.explicit "x)" (.forRow 2)] := rfl
  have hstop : Stops 500 .default refused.batch (.unbalanced "sin(x" .unclosedOpen) :=
    .refused hspecs (by decide) (by decide)
  obtain ⟨hrefuse, -, hengine, -⟩ := draw_within_room .default refused
  obtain ⟨hrefuse', -, hrows, -⟩ := draw_within_room .default ⟨refused.batch, [doubled]⟩
  refine ⟨Prod.ext hleft hdrawn, hroom 407 500 (by decide) hdrawn,
    (hfailures 407 [doubled]).2 hdrawn, drawWithin_eq_error_iff.2 ⟨_, hfull, rfl⟩,
    Prod.ext (hrefuse 500 hrefused).2 ?_, Prod.ext (hrefuse' 500 hrefused).2 ?_⟩
  · obtain ⟨error, hend⟩ := (hrefuse 500 hrefused).1
    obtain ⟨fault, hfault, -, hnone⟩ := hengine 500 error hend
    rw [hend, (hnone rfl).1, hfault.unique hstop]
    decide
  · obtain ⟨error, hend⟩ := (hrefuse' 500 hrefused).1
    obtain ⟨fault, -, hsome, -⟩ := hrows 500 error hend
    rw [hend, (hsome (List.cons_ne_nil _ _)).1]

end Engine
end CurveSheet
