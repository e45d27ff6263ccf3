import Rylus.Painter

/-!
# What predicted ink leaves behind

A run of the painter is compared with the run in which nothing is predicted.
The vertices of a predicted tail are taken off again; the last predicted point
stays the one from which the next segment is drawn, and a stroke that ends
keeps its tail.
-/

namespace Rylus

namespace Ink

variable {F : Type*} [JsArithmetic F]

/-- The floats that events push after a previous point, on a line that is
`fresh` if it has no vertices. -/
def pushedBy (fresh : Bool) (previous : Point F) : List (InkEvent F) → List F
  | [] => []
  | event :: events =>
      match normal event.view previous event.point with
      | none => pushedBy fresh previous events
      | some one =>
          (if fresh then previous.sides one else []) ++
            event.point.sides one ++ pushedBy false event.point events

/-- From both points on, the events draw the same: for the first event that is
not in the place of its previous point the same sides are computed from both,
and on a fresh line those of the points themselves too.  If it is in the place
of one of them only, the sides must come to the same in the end. -/
def SeenAlike (fresh : Bool) (predicted plain : Point F) :
    List (InkEvent F) → Prop
  | [] => True
  | event :: events =>
      match normal event.view predicted event.point,
        normal event.view plain event.point with
      | none, none => SeenAlike fresh predicted plain events
      | some one, some other =>
          event.point.sides one = event.point.sides other ∧
            (fresh → predicted.sides one = plain.sides other)
      | none, some _ | some _, none =>
          pushedBy fresh predicted (event :: events) =
            pushedBy fresh plain (event :: events)

theorem seenAlike_iff (fresh : Bool) (predicted plain : Point F)
    (events : List (InkEvent F)) :
    SeenAlike fresh predicted plain events ↔
      pushedBy fresh predicted events = pushedBy fresh plain events := by
  induction events with
  | nil => simp [SeenAlike, pushedBy]
  | cons event events ih =>
      rw [SeenAlike]
      cases left : normal event.view predicted event.point with
      | none =>
          cases right : normal event.view plain event.point with
          | none => simpa only [pushedBy, left, right] using ih
          | some other => exact Iff.rfl
      | some one =>
          cases right : normal event.view plain event.point with
          | none => exact Iff.rfl
          | some other =>
              -- both lines end in the place of the event, and go on alike
              simp only [pushedBy, left, right, List.append_cancel_right_eq]
              cases fresh with
              | false => simp
              | true =>
                  simp only [if_true, forall_const]
                  constructor
                  · rintro ⟨ends, starts⟩
                    rw [ends, starts]
                  · intro same
                    obtain ⟨starts, ends⟩ := List.append_inj same rfl
                    exact ⟨ends, starts⟩

/-- Points at which an event has the same normal are seen alike once something
is drawn. -/
theorem seenAlike_of_normal_eq {fresh : Bool} {event : InkEvent F}
    {predicted plain : Point F} (drawn : fresh = false)
    (same : normal event.view predicted event.point =
      normal event.view plain event.point) :
    SeenAlike fresh predicted plain [event] := by
  rw [seenAlike_iff, pushedBy, pushedBy, same, drawn]
  rfl

theorem seenAlike_self (fresh : Bool) (point : Point F)
    (events : List (InkEvent F)) : SeenAlike fresh point point events :=
  (seenAlike_iff fresh point point events).mpr rfl

/-- A line gets what its events push after its last point. -/
theorem extend_vertices_eq (vertices : List F) (previous : Point F)
    (events : List (InkEvent F)) :
    ((Line.mk (some previous) vertices).extend events).1.vertices =
      vertices ++ pushedBy vertices.isEmpty previous events := by
  induction events generalizing vertices previous with
  | nil => simp [Line.extend, pushedBy]
  | cons event events ih =>
      rw [Line.extend_cons, pushedBy]
      cases segment : normal event.view previous event.point with
      | none =>
          rw [Line.append_of_none rfl segment]
          exact ih vertices previous
      | some one =>
          rw [Line.append_of_some rfl segment, ih]
          have drawn : (vertices ++ ((if vertices = [] then
              previous.sides one else []) ++
                event.point.sides one)).isEmpty = false := by
            simp [Point.sides]
          dsimp only
          rw [drawn]
          simp

/-- A line is extended alike from two points exactly if the events see them
alike. -/
theorem extend_vertices_eq_iff (vertices : List F) (first second : Point F)
    (events : List (InkEvent F)) :
    ((Line.mk (some first) vertices).extend events).1.vertices =
        ((Line.mk (some second) vertices).extend events).1.vertices ↔
      SeenAlike vertices.isEmpty first second events := by
  rw [extend_vertices_eq, extend_vertices_eq, List.append_cancel_left_eq,
    seenAlike_iff]

/-! ### Two runs -/

inductive Call (F : Type*) where
  | onstart (event : InkEvent F)
  | onmove (move : MoveEvent F)
  | onstop (event : InkEvent F)
  | cancelAll

/-- `getPredictedEvents` answers the empty list. -/
def MoveEvent.unpredicted (move : MoveEvent F) : MoveEvent F :=
  { move with
    predicted := some []
    predicted_pointerId := by simp }

/-- The painters of a run and of the same run without predictions. -/
structure TwoRuns (F : Type*) where
  predicted : Painter F
  plain : Painter F

namespace TwoRuns

def start : TwoRuns F := ⟨Painter.new, Painter.new⟩

/-- A stroke starts when its pointer has none. -/
def step (runs : TwoRuns F) : Call F → Option (TwoRuns F)
  | .onstart event =>
      if (runs.predicted.linesActive event.pointerId).isNone then
        some ⟨runs.predicted.onstart event,
          runs.plain.onstart event⟩
      else none
  | .onmove move =>
      some ⟨runs.predicted.onmove move,
        runs.plain.onmove move.unpredicted⟩
  | .onstop event =>
      some ⟨runs.predicted.onstop event, runs.plain.onstop event⟩
  | .cancelAll => some ⟨runs.predicted.cancelAll, runs.plain.cancelAll⟩

end TwoRuns

/-- The vertices of the active line with the predicted tail removed. -/
def Painter.realVertices (painter : Painter F) (id : Int32) :
    Option (List F) :=
  (painter.linesActive id).map fun line =>
    line.vertices.take
      (line.vertices.length - (painter.predictedCounts id).getD 0)

namespace Painter

omit [JsArithmetic F] in
/-- A tail is taken off with its count. -/
theorem strip_append {painter : Painter F} {id : Int32}
    {last : Option (Point F)} {vertices tail : List F}
    (count : (painter.predictedCounts id).getD 0 = tail.length) :
    painter.strip id ⟨last, vertices ++ tail⟩ = ⟨last, vertices⟩ := by
  simp only [strip, count]
  split_ifs with some
  · simp
  · simp only [Nat.not_lt, Nat.le_zero, List.length_eq_zero_iff] at some
    rw [some, List.append_nil]

/-- What `onmove` makes of a line with a tail and its count: the line without
the tail, extended by the events, and a new tail with its count. -/
theorem onmove_linesActive (painter : Painter F) (move : MoveEvent F)
    {last : Point F} {vertices tail : List F}
    (active : painter.linesActive move.event.pointerId =
      some ⟨some last, vertices ++ tail⟩)
    (count : (painter.predictedCounts move.event.pointerId).getD 0 =
      tail.length) :
    ∃ last' tail',
      (painter.onmove move).linesActive move.event.pointerId =
          some ⟨some last', ((Line.mk (some last) vertices).extend
            move.events).1.vertices ++ tail'⟩ ∧
        ((painter.onmove move).predictedCounts
          move.event.pointerId).getD 0 = tail'.length := by
  rw [onmove_eq painter move active, strip_append count]
  simp only [Function.update_self, Option.getD_some]
  have started : ((Line.mk (some last) vertices).extend
      move.events).1.last.isSome :=
    Line.extend_last _ rfl
  obtain ⟨tail', extended, pushed⟩ := Line.extend_vertices
    ((Line.mk (some last) vertices).extend move.events).1
    (move.predicted.getD [])
  obtain ⟨last', isLast⟩ := Option.isSome_iff_exists.mp
    (Line.extend_last (move.predicted.getD []) started)
  refine ⟨last', tail', ?_, pushed.symm⟩
  rw [← isLast, ← extended]

omit [JsArithmetic F] in
theorem realVertices_append {painter : Painter F} {id : Int32}
    {last : Option (Point F)} {vertices tail : List F}
    (active : painter.linesActive id = some ⟨last, vertices ++ tail⟩)
    (count : (painter.predictedCounts id).getD 0 = tail.length) :
    painter.realVertices id = some vertices := by
  simp [realVertices, active, count]

/-- The vertices of a line with a tail and its count after `onmove`. -/
theorem realVertices_onmove (painter : Painter F) (move : MoveEvent F)
    {last : Point F} {vertices tail : List F}
    (active : painter.linesActive move.event.pointerId =
      some ⟨some last, vertices ++ tail⟩)
    (count : (painter.predictedCounts move.event.pointerId).getD 0 =
      tail.length) :
    (painter.onmove move).realVertices move.event.pointerId =
      some ((Line.mk (some last) vertices).extend
        move.events).1.vertices := by
  obtain ⟨last', tail', active', count'⟩ :=
    onmove_linesActive painter move active count
  exact realVertices_append active' count'

/-- Without predictions and without a tail `onmove` extends the line, and
there is no tail. -/
theorem onmove_unpredicted (painter : Painter F) (move : MoveEvent F)
    {last : Point F} {vertices : List F}
    (active : painter.linesActive move.event.pointerId =
      some ⟨some last, vertices⟩)
    (count : (painter.predictedCounts move.event.pointerId).getD 0 = 0) :
    ∃ last',
      (painter.onmove move.unpredicted).linesActive
            move.event.pointerId =
          some ⟨some last', ((Line.mk (some last) vertices).extend
            move.events).1.vertices⟩ ∧
        ((painter.onmove move.unpredicted).predictedCounts
          move.event.pointerId).getD 0 = 0 := by
  have started : ((Line.mk (some last) vertices).extend
      move.events).1.last.isSome :=
    Line.extend_last _ rfl
  obtain ⟨last', isLast⟩ := Option.isSome_iff_exists.mp started
  have stripped : painter.strip move.event.pointerId ⟨some last, vertices⟩ =
      ⟨some last, vertices⟩ := by
    simp [strip, count]
  refine ⟨last', ?_, ?_⟩
  · rw [onmove_eq painter move.unpredicted active, ← isLast]
    change Function.update painter.linesActive move.event.pointerId
      (some ((painter.strip move.event.pointerId
        ⟨some last, vertices⟩).extend move.events).1)
      move.event.pointerId = _
    rw [Function.update_self, stripped]
  · rw [onmove_eq painter move.unpredicted active]
    simp [MoveEvent.unpredicted, Line.extend]

/-- `onmove` is about one pointer. -/
theorem onmove_of_ne {painter : Painter F} {move : MoveEvent F} {id : Int32}
    (other : id ≠ move.event.pointerId) :
    (painter.onmove move).linesActive id = painter.linesActive id ∧
      (painter.onmove move).predictedCounts id =
        painter.predictedCounts id := by
  cases active : painter.linesActive move.event.pointerId with
  | none => simp [onmove, active]
  | some line =>
      rw [onmove_eq painter move active]
      simp [other]

omit [JsArithmetic F] in
/-- What `onstop` adds to the old lines. -/
theorem onstop_linesOld {painter : Painter F} {event : InkEvent F}
    {last : Option (Point F)} {vertices : List F}
    (active : painter.linesActive event.pointerId = some ⟨last, vertices⟩) :
    (painter.onstop event).linesOld =
      painter.linesOld ++ if vertices = [] then [] else [vertices] := by
  simp only [onstop, active, List.length_pos_iff]
  by_cases empty : vertices = [] <;> simp [empty]

omit [JsArithmetic F] in
theorem onstop_self (painter : Painter F) (event : InkEvent F) :
    (painter.onstop event).linesActive event.pointerId = none ∧
      (painter.onstop event).predictedCounts event.pointerId = none := by
  simp only [onstop]
  split
  · simp
  next inactive => simp [inactive]

omit [JsArithmetic F] in
theorem onstop_of_ne {painter : Painter F} {event : InkEvent F} {id : Int32}
    (other : id ≠ event.pointerId) :
    (painter.onstop event).linesActive id = painter.linesActive id ∧
      (painter.onstop event).predictedCounts id =
        painter.predictedCounts id := by
  simp only [onstop]
  split <;> simp [other]

end Painter

namespace TwoRuns

/-- After `onmove` the vertices without the predicted tail are those of the run
without predictions, and `onstop` moves the same vertices to the old lines. -/
def Traceless (runs : TwoRuns F) : Call F → Prop
  | .onmove move =>
      (runs.predicted.onmove move).realVertices move.event.pointerId =
        (runs.plain.onmove move.unpredicted).realVertices
          move.event.pointerId
  | .onstop event => ∃ moved,
      (runs.predicted.onstop event).linesOld =
          runs.predicted.linesOld ++ moved ∧
        (runs.plain.onstop event).linesOld = runs.plain.linesOld ++ moved
  | .onstart _ | .cancelAll => True

/-- The events of an `onmove` see the point that the predictions have left and
the last real one alike; before `onstop` the last predictions pushed nothing. -/
def Restored (runs : TwoRuns F) : Call F → Prop
  | .onmove move => ∀ line plain last plainLast,
      runs.predicted.linesActive move.event.pointerId = some line →
      runs.plain.linesActive move.event.pointerId = some plain →
      line.last = some last → plain.last = some plainLast →
        SeenAlike plain.vertices.isEmpty last plainLast move.events
  | .onstop event => ∀ line,
      runs.predicted.linesActive event.pointerId = some line →
        (runs.predicted.predictedCounts event.pointerId).getD 0 = 0
  | .onstart _ | .cancelAll => True

/-- What the two painters know about a pointer when the run has left no trace
so far. -/
inductive MatchedAt (runs : TwoRuns F) (id : Int32) : Prop
  | idle
      (predicted : runs.predicted.linesActive id = none)
      (plain : runs.plain.linesActive id = none)
      (predictedCount : (runs.predicted.predictedCounts id).getD 0 = 0)
      (plainCount : (runs.plain.predictedCounts id).getD 0 = 0)
  | drawing (last plainLast : Point F) (vertices tail : List F)
      (predicted : runs.predicted.linesActive id =
        some ⟨some last, vertices ++ tail⟩)
      (plain : runs.plain.linesActive id = some ⟨some plainLast, vertices⟩)
      (predictedCount :
        (runs.predicted.predictedCounts id).getD 0 = tail.length)
      (plainCount : (runs.plain.predictedCounts id).getD 0 = 0)

def Matched (runs : TwoRuns F) : Prop :=
  ∀ id, runs.MatchedAt id

variable {runs next : TwoRuns F} {id : Int32}

omit [JsArithmetic F] in
theorem MatchedAt.congr (matched : runs.MatchedAt id)
    (predicted :
      next.predicted.linesActive id = runs.predicted.linesActive id ∧
        next.predicted.predictedCounts id = runs.predicted.predictedCounts id)
    (plain : next.plain.linesActive id = runs.plain.linesActive id ∧
      next.plain.predictedCounts id = runs.plain.predictedCounts id) :
    next.MatchedAt id := by
  cases matched with
  | idle active plainActive count plainCount =>
      apply MatchedAt.idle
      · rw [predicted.1, active]
      · rw [plain.1, plainActive]
      · rw [predicted.2, count]
      · rw [plain.2, plainCount]
  | drawing last plainLast vertices tail active plainActive count plainCount =>
      apply MatchedAt.drawing last plainLast vertices tail
      · rw [predicted.1, active]
      · rw [plain.1, plainActive]
      · rw [predicted.2, count]
      · rw [plain.2, plainCount]

/-- An `onstop` leaves no trace exactly if the last predictions pushed
nothing. -/
theorem traceless_onstop_iff {event : InkEvent F}
    (matched : runs.MatchedAt event.pointerId) :
    runs.Traceless (.onstop event) ↔
      runs.Restored (.onstop event) := by
  cases matched with
  | idle active plainActive =>
      simp [Traceless, Restored, Painter.onstop, active, plainActive]
  | drawing last plainLast vertices tail active plainActive count plainCount =>
      simp only [Traceless, Restored, Painter.onstop_linesOld active,
        Painter.onstop_linesOld plainActive, List.append_cancel_left_eq,
        exists_eq_left', count]
      constructor
      · intro same line _
        have lengths := congrArg (fun moved => (moved.map List.length).sum) same
        split_ifs at lengths <;> simp_all
      · intro noTail
        have empty := List.length_eq_zero_iff.mp (noTail _ active)
        simp [empty]

/-- A stroke that starts has a point and no vertices. -/
theorem MatchedAt.onstart {event : InkEvent F}
    (matched : runs.MatchedAt event.pointerId)
    (fresh : runs.predicted.linesActive event.pointerId = none) :
    (TwoRuns.mk (runs.predicted.onstart event)
      (runs.plain.onstart event)).MatchedAt event.pointerId := by
  cases matched with
  | idle active plainActive count plainCount =>
      apply MatchedAt.drawing event.point event.point [] []
      · simp [Painter.onstart, Painter.appendEventToLine, active, Line.append]
      · simp [Painter.onstart, Painter.appendEventToLine, plainActive,
          Line.append]
      · exact count
      · exact plainCount
  | drawing last plainLast vertices tail active =>
      rw [active] at fresh
      cases fresh

/-- An `onmove` leaves no trace exactly if its events see the last point as
they would without predictions. -/
theorem traceless_onmove_iff {move : MoveEvent F}
    (matched : runs.MatchedAt move.event.pointerId) :
    runs.Traceless (.onmove move) ↔ runs.Restored (.onmove move) := by
  cases matched with
  | idle active plainActive =>
      simp [Traceless, Restored, Painter.onmove, Painter.realVertices,
        MoveEvent.unpredicted, active, plainActive]
  | drawing last plainLast vertices tail active plainActive count plainCount =>
      have real := Painter.realVertices_onmove runs.predicted move active
        count
      obtain ⟨plainLast', plainActive', plainCount'⟩ :=
        Painter.onmove_unpredicted runs.plain move plainActive plainCount
      have plainReal : (runs.plain.onmove
          move.unpredicted).realVertices move.event.pointerId =
            some ((Line.mk (some plainLast) vertices).extend
              move.events).1.vertices := by
        simp [Painter.realVertices, plainActive', plainCount']
      rw [Traceless, real, plainReal, Option.some.injEq,
        extend_vertices_eq_iff]
      constructor
      · rintro alike line plain point plainPoint isLine isPlain isLast
          isPlainLast
        rw [active] at isLine
        rw [plainActive] at isPlain
        cases isLine
        cases isPlain
        cases isLast
        cases isPlainLast
        exact alike
      · intro restored
        exact restored _ _ _ _ active plainActive rfl rfl

/-- An `onmove` that leaves no trace leaves two lines with the same vertices up
to the predicted tail. -/
theorem MatchedAt.onmove {move : MoveEvent F}
    (matched : runs.MatchedAt move.event.pointerId)
    (restored : runs.Restored (.onmove move)) :
    (TwoRuns.mk (runs.predicted.onmove move)
      (runs.plain.onmove move.unpredicted)).MatchedAt
        move.event.pointerId := by
  cases matched with
  | idle active plainActive count plainCount =>
      have unchanged : runs.predicted.onmove move = runs.predicted := by
        simp [Painter.onmove, active]
      have plainUnchanged :
          runs.plain.onmove move.unpredicted = runs.plain := by
        simp [Painter.onmove, MoveEvent.unpredicted, plainActive]
      rw [unchanged, plainUnchanged]
      exact .idle active plainActive count plainCount
  | drawing last plainLast vertices tail active plainActive count plainCount =>
      have alike := restored _ _ _ _ active plainActive rfl rfl
      have same := (extend_vertices_eq_iff vertices last plainLast
        move.events).mpr alike
      obtain ⟨last', tail', active', count'⟩ :=
        Painter.onmove_linesActive runs.predicted move active count
      obtain ⟨plainLast', plainActive', plainCount'⟩ :=
        Painter.onmove_unpredicted runs.plain move plainActive plainCount
      rw [same] at active'
      exact .drawing last' plainLast' _ tail' active' plainActive' count'
        plainCount'

theorem Matched.kept {call : Call F} (matched : runs.Matched)
    (restored : runs.Restored call)
    (taken : runs.step call = some next) : next.Matched := by
  intro id
  cases call with
  | onstart event =>
      simp only [step, Option.isNone_iff_eq_none,
        Option.ite_none_right_eq_some, Option.some.injEq] at taken
      obtain ⟨fresh, rfl⟩ := taken
      by_cases own : id = event.pointerId
      · subst own
        exact (matched _).onstart fresh
      · apply (matched id).congr <;>
          simp [Painter.onstart, Painter.appendEventToLine, own]
  | onmove move =>
      cases taken
      by_cases own : id = move.event.pointerId
      · subst own
        exact (matched _).onmove restored
      · exact (matched id).congr (Painter.onmove_of_ne own)
          (Painter.onmove_of_ne own)
  | onstop event =>
      cases taken
      by_cases own : id = event.pointerId
      · subst own
        obtain ⟨active, count⟩ := Painter.onstop_self runs.predicted event
        obtain ⟨plainActive, plainCount⟩ := Painter.onstop_self runs.plain event
        apply MatchedAt.idle active plainActive
        · rw [count, Option.getD_none]
        · rw [plainCount, Option.getD_none]
      · exact (matched id).congr (Painter.onstop_of_ne own)
          (Painter.onstop_of_ne own)
  | cancelAll =>
      cases taken
      exact .idle rfl rfl rfl rfl

/-- A run of the painter is the run without predictions exactly if each
`onmove` sees the last point restored and each `onstop` has no tail. -/
theorem traceless_along_iff (execution :
    Transition.Execution step (start : TwoRuns F)) :
    execution.StepsMeet (Traceless) ↔
      execution.StepsMeet (Restored) := by
  apply execution.stepsMeet_iff_of_invariant Matched
  · exact fun _ => .idle rfl rfl rfl rfl
  · intro runs call next matched _
    cases call with
    | onstart event => exact Iff.rfl
    | onmove move => exact traceless_onmove_iff (matched _)
    | onstop event => exact traceless_onstop_iff (matched _)
    | cancelAll => exact Iff.rfl
  · exact fun _ _ _ matched restored taken => matched.kept restored taken

/-- A pen on a canvas of four pixels. -/
def penAt (clientX clientY now : ℚ) : InkEvent Fraction :=
  ⟨1, ⟨clientX⟩, ⟨clientY⟩, ⟨0⟩, ⟨⟨2⟩, ⟨2⟩, ⟨1⟩⟩, ⟨now⟩⟩

/-- A pen that has moved to a place, with the place it is predicted to be at. -/
def penMoves (clientX clientY now : ℚ) (predicted : Option (ℚ × ℚ)) :
    MoveEvent Fraction where
  event := penAt clientX clientY now
  coalesced := none
  predicted :=
    some (predicted.toList.map fun place => penAt place.1 place.2 now)
  coalesced_pointerId := by simp
  predicted_pointerId := by
    rintro events ⟨⟩ other member
    obtain ⟨place, -, rfl⟩ := List.mem_map.mp member
    rfl

/-- A pen goes on in the direction in which it was predicted to go. -/
def straight : Transition.Execution step (start : TwoRuns Fraction) where
  labels := [.onstart (penAt 0 0 0), .onmove (penMoves 0 1 1 (some (0, 2))),
    .onmove (penMoves 0 3 2 none), .onstop (penAt 0 3 3)]
  final := _
  runs := rfl

theorem traceless_along_iff_straight :
    straight.StepsMeet Traceless := by
  apply (traceless_along_iff straight).mpr
  refine straight.stepsMeet_of_meetsFrom ?_
  refine ⟨trivial, ?_⟩
  rintro _ ⟨⟩
  constructor
  · rintro line plain last plainLast ⟨⟩ ⟨⟩ ⟨⟩ ⟨⟩
    exact seenAlike_self _ _ _
  rintro _ ⟨⟩
  constructor
  · intro line plain last plainLast isLine isPlain isLast isPlainLast
    obtain rfl := Option.some.inj isLine
    obtain rfl := Option.some.inj isPlain
    have predicted : last = (penAt 0 2 1).point :=
      Option.some.inj (isLast.symm.trans (by decide +kernel))
    have plainMoved : plainLast = (penAt 0 1 1).point :=
      Option.some.inj (isPlainLast.symm.trans (by decide +kernel))
    rw [predicted, plainMoved]
    apply seenAlike_of_normal_eq
    · decide +kernel
    · decide +kernel
  rintro _ ⟨⟩
  constructor
  · intro line _
    decide
  · exact fun _ _ => trivial

/-- A pen is lifted where it was predicted to go on. -/
def lifted : Transition.Execution step (start : TwoRuns Fraction) where
  labels := [.onstart (penAt 0 0 0), .onmove (penMoves 0 1 1 (some (0, 2))),
    .onstop (penAt 0 1 2)]
  final := _
  runs := rfl

theorem lifted_leaves_prediction :
    ¬ ∀ execution : Transition.Execution step (start : TwoRuns Fraction),
      execution.StepsMeet Traceless := by
  intro holds
  obtain ⟨moved, first, second⟩ := holds lifted [_, _] _ [] _ rfl rfl
  exact absurd (first.trans second.symm) (by decide +kernel)

end TwoRuns

end Ink

end Rylus
