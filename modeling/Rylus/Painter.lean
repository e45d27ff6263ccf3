import Mathlib.Algebra.Order.Ring.Unbundled.Rat
import Mathlib.Data.Nat.Sqrt
import Rylus.LabelledExecution

/-!
# Local ink

`Painter` draws the strokes of the pens on the page before a frame of the
server shows them.  A line is a triangle strip to which each event adds the two
sides of its point; a prediction of the browser adds them too, to be taken off
when the next events arrive.

What the sides are is computed in the arithmetic of the page, of which nothing
is assumed: its sums, products and roots may be rounded.
-/

namespace Rylus

namespace Ink

/-- Numbers as JavaScript computes with them: the value of a literal, `** 2`,
`Math.sqrt` and `== 0` besides the operators. -/
class JsArithmetic (F : Type*)
    extends Add F, Sub F, Mul F, Div F, Neg F, Max F where
  literal : ℚ → F
  square : F → F
  sqrt : F → F
  isZero : F → Bool

/-- Fractions, computed exactly but for roots of other than squares. -/
structure Fraction where
  value : ℚ
  deriving DecidableEq

instance : JsArithmetic Fraction where
  add first second := ⟨first.value + second.value⟩
  sub first second := ⟨first.value - second.value⟩
  mul first second := ⟨first.value * second.value⟩
  div first second := ⟨first.value / second.value⟩
  neg number := ⟨-number.value⟩
  max first second := ⟨max first.value second.value⟩
  literal value := ⟨value⟩
  square number := ⟨number.value * number.value⟩
  sqrt number :=
    ⟨Nat.sqrt number.value.num.toNat / Nat.sqrt number.value.den⟩
  isZero number := number.value == 0

/-- The canvas when an event is drawn. -/
structure View (F : Type*) where
  width : F
  height : F
  devicePixelRatio : F

/-- A pointer event, with the canvas and `performance.now()` when it is
drawn. -/
structure InkEvent (F : Type*) where
  pointerId : Int32
  clientX : F
  clientY : F
  pressure : F
  view : View F
  now : F

/-- A `pointermove`; what `getCoalescedEvents` and `getPredictedEvents` answer
where the browser has them are events of the same pointer. -/
structure MoveEvent (F : Type*) where
  event : InkEvent F
  coalesced : Option (List (InkEvent F))
  predicted : Option (List (InkEvent F))
  coalesced_pointerId : ∀ events ∈ coalesced, ∀ other ∈ events,
    other.pointerId = event.pointerId
  predicted_pointerId : ∀ events ∈ predicted, ∀ other ∈ events,
    other.pointerId = event.pointerId

variable {F : Type*}

namespace MoveEvent

/-- The events that have happened. -/
def events (move : MoveEvent F) : List (InkEvent F) :=
  move.coalesced.getD [move.event]

theorem events_pointerId (move : MoveEvent F) :
    ∀ event ∈ move.events, event.pointerId = move.event.pointerId := by
  intro event member
  cases coalesced : move.coalesced with
  | none =>
      simp only [events, coalesced, Option.getD_none,
        List.mem_singleton] at member
      rw [member]
  | some events' =>
      simp only [events, coalesced, Option.getD_some] at member
      exact move.coalesced_pointerId events' coalesced event member

theorem getD_predicted_pointerId (move : MoveEvent F) :
    ∀ event ∈ move.predicted.getD [],
      event.pointerId = move.event.pointerId := by
  intro event member
  cases predicted : move.predicted with
  | none => simp [predicted] at member
  | some events =>
      rw [predicted] at member
      exact move.predicted_pointerId events predicted event member

end MoveEvent

structure Point (F : Type*) where
  x : F
  y : F
  delta : F
  t : F
  deriving DecidableEq

/-- The previous point and the vertices of a line. -/
structure Line (F : Type*) where
  last : Option (Point F)
  vertices : List F

/-- Two maps by pointer ids and the finished lines. -/
structure Painter (F : Type*) where
  linesActive : Int32 → Option (Line F)
  linesOld : List (List F)
  predictedCounts : Int32 → Option Nat

section Arithmetic

variable [JsArithmetic F]

open JsArithmetic

def InkEvent.point (event : InkEvent F) : Point F where
  x := event.clientX * event.view.devicePixelRatio / event.view.width *
    literal 2 - literal 1
  y := literal 1 - event.clientY * event.view.devicePixelRatio /
    event.view.height * literal 2
  delta := event.pressure + literal 0.4
  t := event.now

/-- The vector perpendicular to a line segment, `none` if it has no length. -/
def normal (view : View F) (previous point : Point F) : Option (F × F) :=
  let maxPixels : F := max view.width view.height
  let dx := point.y - previous.y
  let dy := -(point.x - previous.x)
  let dd := sqrt (square dx + square dy)
  if isZero dd then none
  else
    some (dx / dd * maxPixels / view.width * literal 0.004,
      dy / dd * maxPixels / view.height * literal 0.004)

/-- The two vertices at a point. -/
def Point.sides (point : Point F) (normal : F × F) : List F :=
  [point.x + point.delta * normal.1, point.y + point.delta * normal.2, point.t,
    point.x - point.delta * normal.1, point.y - point.delta * normal.2, point.t]

namespace Line

/-- `appendEventToLine` on the line of its pointer, with the number of floats
pushed. -/
def append (line : Line F) (event : InkEvent F) : Line F × Nat :=
  match line.last with
  | none => ({ line with last := some event.point }, 0)
  | some previous =>
      match normal event.view previous event.point with
      | none => (line, 0)
      | some normal =>
          let first :=
            if line.vertices.length = 0 then previous.sides normal else []
          ({ last := some event.point
             vertices := line.vertices ++ first ++ event.point.sides normal },
            first.length + 6)

/-- Append events in order. -/
def extend (line : Line F) : List (InkEvent F) → Line F × Nat
  | [] => (line, 0)
  | event :: events =>
      let (next, pushed) := line.append event
      let (final, more) := next.extend events
      (final, pushed + more)

/-- Vertices are only added, and counted. -/
theorem append_vertices (line : Line F) (event : InkEvent F) :
    ∃ tail, (line.append event).1.vertices = line.vertices ++ tail ∧
      tail.length = (line.append event).2 := by
  rw [append]
  split
  · exact ⟨[], by simp, rfl⟩
  · split
    · exact ⟨[], by simp, rfl⟩
    · exact ⟨_, List.append_assoc _ _ _, by simp [Point.sides]⟩

theorem extend_vertices (line : Line F) (events : List (InkEvent F)) :
    ∃ tail, (line.extend events).1.vertices = line.vertices ++ tail ∧
      tail.length = (line.extend events).2 := by
  induction events generalizing line with
  | nil => exact ⟨[], by simp [extend], rfl⟩
  | cons event events ih =>
      obtain ⟨first, vertices, pushed⟩ := line.append_vertices event
      obtain ⟨rest, vertices', more⟩ := ih (line.append event).1
      refine ⟨first ++ rest, ?_, ?_⟩
      · change ((line.append event).1.extend events).1.vertices = _
        rw [vertices', vertices, List.append_assoc]
      · change _ = (line.append event).2 +
          ((line.append event).1.extend events).2
        rw [List.length_append, pushed, more]

/-- A line that has a point keeps having one. -/
theorem extend_last {line : Line F} (events : List (InkEvent F))
    (started : line.last.isSome) :
    (line.extend events).1.last.isSome := by
  induction events generalizing line with
  | nil => exact started
  | cons event events ih =>
      apply ih
      split
      · rfl
      · split
        · exact started
        · rfl

theorem append_of_none {line : Line F} {event : InkEvent F}
    {previous : Point F} (last : line.last = some previous)
    (still : normal event.view previous event.point = none) :
    (line.append event).1 = line := by
  simp [append, last, still]

theorem append_of_some {line : Line F} {event : InkEvent F}
    {previous : Point F} {one : F × F} (last : line.last = some previous)
    (drawn : normal event.view previous event.point = some one) :
    (line.append event).1 =
      { last := some event.point
        vertices := line.vertices ++
          ((if line.vertices = [] then previous.sides one else []) ++
            event.point.sides one) } := by
  simp [append, last, drawn]

theorem extend_cons (line : Line F) (event : InkEvent F)
    (events : List (InkEvent F)) :
    (line.extend (event :: events)).1 =
      ((line.append event).1.extend events).1 :=
  rfl

end Line

end Arithmetic

namespace Painter

def new : Painter F where
  linesActive := fun _ => none
  linesOld := []
  predictedCounts := fun _ => none

def cancelAll (_ : Painter F) : Painter F where
  linesActive := fun _ => none
  linesOld := []
  predictedCounts := fun _ => none

/-- The last predicted tail of a line is taken off. -/
def strip (painter : Painter F) (id : Int32) (line : Line F) : Line F :=
  let prevPredicted := (painter.predictedCounts id).getD 0
  if 0 < prevPredicted then
    { line with
      vertices := line.vertices.take (line.vertices.length - prevPredicted) }
  else line

section Arithmetic

variable [JsArithmetic F]

def appendEventToLine (painter : Painter F)
    (event : InkEvent F) : Painter F × Nat :=
  let line := (painter.linesActive event.pointerId).getD ⟨none, []⟩
  let (next, pushed) := line.append event
  ({ painter with
      linesActive :=
        Function.update painter.linesActive event.pointerId (some next) },
    pushed)

/-- The loops of `onmove`. -/
def appendEvents (painter : Painter F) :
    List (InkEvent F) → Painter F × Nat
  | [] => (painter, 0)
  | event :: events =>
      let (next, pushed) := painter.appendEventToLine event
      let (final, more) := next.appendEvents events
      (final, pushed + more)

/-- The events of one pointer extend its line. -/
theorem appendEvents_eq (painter : Painter F)
    {events : List (InkEvent F)} {id : Int32} {line : Line F}
    (active : painter.linesActive id = some line)
    (same : ∀ event ∈ events, event.pointerId = id) :
    painter.appendEvents events =
      ({ painter with
          linesActive := Function.update painter.linesActive id
            (some (line.extend events).1) },
        (line.extend events).2) := by
  induction events generalizing painter line with
  | nil => simp [appendEvents, Line.extend, ← active]
  | cons event events ih =>
      obtain ⟨isId, rest⟩ := List.forall_mem_cons.mp same
      simp only [appendEvents, appendEventToLine, Line.extend, isId, active,
        Option.getD_some]
      rw [ih _ (Function.update_self _ _ _) rest]
      simp

def onstart (painter : Painter F) (event : InkEvent F) :
    Painter F :=
  (painter.appendEventToLine event).1

def onmove (painter : Painter F) (move : MoveEvent F) :
    Painter F :=
  let id := move.event.pointerId
  match painter.linesActive id with
  | none => painter
  | some line =>
      let painter :=
        { painter with
          linesActive := Function.update painter.linesActive id
            (some (painter.strip id line))
          predictedCounts :=
            Function.update painter.predictedCounts id (some 0) }
      let (painter, _) := painter.appendEvents move.events
      let predicted := move.predicted.getD []
      let (painter, predictedFloats) := painter.appendEvents predicted
      { painter with
        predictedCounts :=
          Function.update painter.predictedCounts id (some predictedFloats) }

/-- What `onmove` does to an active line. -/
theorem onmove_eq (painter : Painter F)
    (move : MoveEvent F) {line : Line F}
    (active : painter.linesActive move.event.pointerId = some line) :
    painter.onmove move =
      { painter with
        linesActive := Function.update painter.linesActive move.event.pointerId
          (some (((painter.strip move.event.pointerId line).extend
            move.events).1.extend (move.predicted.getD [])).1)
        predictedCounts := Function.update painter.predictedCounts
          move.event.pointerId
          (some (((painter.strip move.event.pointerId line).extend
            move.events).1.extend (move.predicted.getD [])).2) } := by
  simp only [onmove, active]
  rw [appendEvents_eq _ (Function.update_self _ _ _)
    move.events_pointerId]
  dsimp only
  rw [appendEvents_eq _ (Function.update_self _ _ _)
    move.getD_predicted_pointerId]
  simp

end Arithmetic

def onstop (painter : Painter F) (event : InkEvent F) : Painter F :=
  let id := event.pointerId
  match painter.linesActive id with
  | some lines =>
      { linesActive := Function.update painter.linesActive id none
        linesOld :=
          if 0 < lines.vertices.length then
            painter.linesOld ++ [lines.vertices]
          else painter.linesOld
        predictedCounts := Function.update painter.predictedCounts id none }
  | none =>
      { painter with
        predictedCounts := Function.update painter.predictedCounts id none }

end Painter

end Ink

end Rylus
