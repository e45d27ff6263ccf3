import Rylus.MouseButtons
import Rylus.PenState

/-!
# Releases that are not delivered

Before anything else `send_pointer_event` activates the window and asks for
its geometry, and returns if either fails.  A release that meets such a
failure changes nothing, so what it should have ended stays.
-/

namespace Rylus

open EventDevice (InputEvent DeviceState)

namespace UInputDevice

variable {F : Type*} [F64Convert F]

/-- Nothing that the event releases is there: no slot of its pointer, no pen
that touches, or no key held of its button. -/
def IsReleased (device : UInputDevice F) (event : PointerEvent F) : Prop :=
  match event.pointerType with
  | .touch => ∀ slot, device.touches slot ≠ some event.pointerId
  | .pen =>
      device.penTouching = false ∧ device.stylusState.held ecKeyTouch = false
  | .mouse | .unknown =>
      ∀ code, mouseKey event.button = some code →
        device.mouseState.held code = false

/-- After a release, what it releases is gone. -/
def ReleaseHonoured (device : UInputDevice F) (attempt : PointerAttempt F) :
    Prop :=
  attempt.event.eventType.isRelease = true →
    ∀ next, device.attemptStep attempt = some next →
      next.IsReleased attempt.event

/-- A release is delivered, or has nothing to release. -/
def DeliversRelease (device : UInputDevice F) (attempt : PointerAttempt F) :
    Prop :=
  attempt.event.eventType.isRelease = true → attempt.geometry = none →
    device.IsReleased attempt.event

variable {device next : UInputDevice F} {event : PointerEvent F}

/-! ### Slots under events of all types -/

/-- The arm for the type of the event, once the geometry is known. -/
def sendLocated (device : UInputDevice F) (event : PointerEvent F)
    (now : Nat) : UInputDevice F :=
  match event.pointerType with
  | .touch => device.sendTouchEvent event
  | .pen => device.sendPenEvent event now
  | .mouse | .unknown => device.sendMouseEvent event

theorem sendPointerEvent_some (device : UInputDevice F)
    (event : PointerEvent F) (geometry : Rect F) (now : Nat) :
    device.sendPointerEvent event (some geometry) now =
      (({ device with geometry := geometry } :
        UInputDevice F).clearStalePenHover now).sendLocated event now := by
  unfold sendPointerEvent sendLocated
  cases event.pointerType <;> rfl

theorem touchInvariant_sendLocated (holds : device.TouchInvariant)
    (event : PointerEvent F) (now : Nat) :
    (device.sendLocated event now).TouchInvariant := by
  unfold sendLocated
  cases event.pointerType with
  | touch =>
      exact touchInvariant_of_touchMove holds
        (touchMove_of_sendTouchEvent device event)
  | pen =>
      obtain ⟨_, _, _, same⟩ := sendPenEvent_frame device event now
      simp only [same]
      exact touchInvariant_of_eq holds rfl rfl
  | mouse | unknown =>
      obtain ⟨_, same⟩ := sendMouseEvent_frame device event
      simp only [same]
      exact touchInvariant_of_eq holds rfl rfl

omit [F64Convert F] in
/-- Another geometry and the end of a stale hover leave the slots alone. -/
theorem touchInvariant_located (holds : device.TouchInvariant)
    (geometry : Rect F) (now : Nat) :
    (({ device with geometry := geometry } :
      UInputDevice F).clearStalePenHover now).TouchInvariant := by
  obtain ⟨_, _, same⟩ := clearStalePenHover_frame
    ({ device with geometry := geometry } : UInputDevice F) now
  rw [same]
  exact touchInvariant_of_eq holds rfl rfl

/-- The slots stay consistent whatever is delivered. -/
theorem touchInvariant_of_attemptStep (holds : device.TouchInvariant)
    {attempt : PointerAttempt F}
    (moved : device.attemptStep attempt = some next) :
    next.TouchInvariant := by
  obtain ⟨event, geometry, now⟩ := attempt
  cases moved
  cases geometry with
  | none => exact holds
  | some geometry =>
      simp only
      rw [sendPointerEvent_some]
      exact touchInvariant_sendLocated
        (touchInvariant_located holds geometry now) event now

/-! ### Releases that are delivered -/

/-- A touch that is released has no slot left. -/
theorem isReleased_sendTouchEvent (holds : device.TouchInvariant)
    (releases : event.eventType.isRelease = true) (slot : Fin 5) :
    (device.sendTouchEvent event).touches slot ≠ some event.pointerId := by
  rw [sendTouchEvent_of_release releases]
  cases found : device.findSlot event.pointerId with
  | none => exact findSlot_none found slot
  | some held =>
      have isHeld := findSlot_some found
      simp only
      by_cases same : slot = held
      · subst same
        simp
      · rw [Function.update_of_ne same]
        intro occupied
        exact same (holds.distinct slot held _ occupied isHeld)

/-- A button that is released is not pressed. -/
theorem held_sendMouseEvent_release (device : UInputDevice F)
    (releases : event.eventType.isRelease = true) {code : Nat}
    (isKey : mouseKey event.button = some code) :
    (device.sendMouseEvent event).mouseState.held code = false := by
  rw [held_sendMouseEvent, if_pos isKey,
    if_neg (PointerEventType.ne_down_of_isRelease releases), if_pos releases]

theorem isReleased_sendLocated (holds : device.TouchInvariant)
    (releases : event.eventType.isRelease = true) (now : Nat) :
    (device.sendLocated event now).IsReleased event := by
  unfold IsReleased sendLocated
  cases event.pointerType with
  | touch => exact isReleased_sendTouchEvent holds releases
  | pen =>
      obtain ⟨mirrors, notTouching⟩ :
          (device.sendPenEvent event now).PenMirrors ∧
            (device.sendPenEvent event now).penTouching = false :=
        penMirrors_of_release releases
      refine ⟨notTouching, ?_⟩
      rw [mirrors.touch]
      exact notTouching
  | mouse | unknown =>
      intro code isKey
      exact held_sendMouseEvent_release device releases isKey

/-- A release is honoured exactly if it is delivered or has nothing to
release. -/
theorem releaseHonoured_iff (holds : device.TouchInvariant)
    (attempt : PointerAttempt F) :
    device.ReleaseHonoured attempt ↔ device.DeliversRelease attempt := by
  obtain ⟨event, geometry, now⟩ := attempt
  unfold ReleaseHonoured DeliversRelease attemptStep
  apply imp_congr_right
  intro releases
  cases geometry with
  | none => simp [sendPointerEvent]
  | some geometry =>
      simp only [reduceCtorEq, false_imp_iff, iff_true]
      intro next moved
      cases moved
      rw [sendPointerEvent_some]
      exact isReleased_sendLocated (touchInvariant_located holds geometry now)
        releases now

/-- No release of a sequence of pointer events is swallowed, exactly if every
release is delivered or has nothing to release. -/
theorem releaseHonoured_along_iff (now : Nat)
    (execution : Transition.Execution attemptStep
      (new now : UInputDevice F)) :
    execution.StepsMeet ReleaseHonoured ↔
      execution.StepsMeet DeliversRelease := by
  apply execution.stepsMeet_congr
  intro before attempt after reached _
  apply releaseHonoured_iff
  apply reached.invariant
  · exact touchInvariant_new now
  · intro before attempt after holds moved
    exact touchInvariant_of_attemptStep holds moved

/-- A touch in the middle of the screen, delivered or not. -/
def sampleAttempt (eventType : PointerEventType)
    (geometry : Option (Rect ℚ)) : PointerAttempt ℚ where
  event := ⟨eventType, 1, 0, true, .touch, .none, .none, 1 / 2, 1 / 2, 0, 0, 0,
    1 / 2, 0, 0, none, none⟩
  geometry := geometry
  now := 0

/-- The window closes during a stroke: the touch keeps its slot. -/
theorem not_releaseHonoured_after_close :
    ∃ device : UInputDevice ℚ, Transition.run attemptStep (new 0)
        [sampleAttempt .down (some ⟨0, 0, 1, 1⟩)] = some device ∧
      ¬ device.ReleaseHonoured (sampleAttempt .up none) := by
  have observed : (Transition.run attemptStep (new 0 : UInputDevice ℚ)
      [sampleAttempt .down (some ⟨0, 0, 1, 1⟩)]).any
      (fun device => decide (device.touches 0 = some 1)) = true := by
    decide
  obtain ⟨device, runs, occupied⟩ := (Option.any_eq_true _ _).mp observed
  refine ⟨device, runs, ?_⟩
  intro honoured
  have released : device.IsReleased (sampleAttempt .up none).event :=
    honoured rfl device rfl
  exact released 0 (of_decide_eq_true occupied)

end UInputDevice

end Rylus
