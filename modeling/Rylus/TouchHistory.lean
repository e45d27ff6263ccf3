import Rylus.TouchKeys

/-!
# Touch keys and the history of touches

A session with the touch device also knows which pointers went down and were
not released since, and how many slots were occupied when tools were last
written.  In these terms the contact key and the tools are right in exactly
determined sequences of touch events.
-/

namespace Rylus

open EventDevice (InputEvent DeviceState)

/-- A touch device with what was sent to it: `down` holds for a pointer with a
`DOWN` that was not released since, and `lastCount` is the number of slots
occupied after the last event that wrote tools, 0 before the first. -/
structure TouchSession (F : Type*) where
  device : UInputDevice F
  down : Int64 → Bool
  lastCount : Nat

namespace TouchSession

open UInputDevice (PointerInput sampleTouch)

variable {F : Type*} [F64Convert F]

def new (now : Nat) : TouchSession F where
  device := .new now
  down := fun _ => false
  lastCount := 0

/-- Whether tools are written: for a pointer with a slot that goes down or is
released. -/
def writesTools (session : TouchSession F) (event : PointerEvent F) : Bool :=
  if event.eventType.isRelease then session.device.hasSlot event.pointerId
  else
    decide (event.eventType = .down) &&
      (session.device.withSlot event.pointerId).hasSlot event.pointerId

def step (session : TouchSession F) (input : PointerInput F) :
    Option (TouchSession F) :=
  (session.device.touchStep input).map fun device =>
    { device := device
      down :=
        if input.event.eventType.isRelease then
          Function.update session.down input.event.pointerId false
        else if input.event.eventType = .down then
          Function.update session.down input.event.pointerId true
        else session.down
      lastCount :=
        if session.writesTools input.event then device.activeCount
        else session.lastCount }

/-- A pointer that has a slot is down. -/
def InContact (session : TouchSession F) (id : Int64) : Prop :=
  session.device.hasSlot id = true ∧ session.down id = true

/-- `BTN_TOUCH` is held exactly if some pointer with a slot is down. -/
def TouchFollows (session : TouchSession F) : Prop :=
  session.device.touchState.held ecKeyTouch = true ↔
    ∃ id, session.InContact id

/-- A pointer with a slot is released only when no other one is down, and a
pointer that went down without a slot gets one only when another one is. -/
def EndsAlone (session : TouchSession F) (input : PointerInput F) : Prop :=
  let id := input.event.pointerId
  if input.event.eventType.isRelease then
    session.device.hasSlot id = true →
      ∀ other, other ≠ id → ¬ session.InContact other
  else
    input.event.eventType ≠ .down → session.device.hasSlot id = false →
      (session.device.withSlot id).hasSlot id = true →
        session.down id = true → ∃ other, session.InContact other

/-- No two tools are held at once. -/
def OneTool (device : UInputDevice F) : Prop :=
  ∀ first second, IsToolCount first → IsToolCount second →
    device.touchState.held (toolKeyForTouchCount first) = true →
      device.touchState.held (toolKeyForTouchCount second) = true →
        first = second

/-- After the event no two tools are held, and after a `DOWN` the one for the
number of occupied slots is. -/
def ToolsMatch (session : TouchSession F) (input : PointerInput F) : Prop :=
  ∀ next, session.step input = some next → OneTool next.device ∧
    (input.event.eventType = .down →
      next.device.touchState.held
        (toolKeyForTouchCount next.device.activeCount) = true)

/-- When tools are written, at most one slot more is occupied than when they
were last written, if they were, with the slot of the pointer that goes down
or is released; and a pointer that goes down when all slots are taken by
others finds that tools were last written with all slots occupied. -/
def CountsOneMore (session : TouchSession F) (input : PointerInput F) : Prop :=
  let id := input.event.pointerId
  if session.writesTools input.event then
    session.lastCount = 0 ∨
      (session.device.withSlot id).activeCount ≤ session.lastCount + 1
  else
    input.event.eventType = .down → session.lastCount = 5

variable {session next : TouchSession F} {input : PointerInput F}

theorem step_spec (moved : session.step input = some next) :
    session.device.touchStep input = some next.device ∧
      session.device.TouchResult input.event next.device ∧
      next.down =
        (if input.event.eventType.isRelease then
          Function.update session.down input.event.pointerId false
        else if input.event.eventType = .down then
          Function.update session.down input.event.pointerId true
        else session.down) ∧
      next.lastCount =
        (if session.writesTools input.event then next.device.activeCount
        else session.lastCount) := by
  obtain ⟨device, stepped, rfl⟩ := Option.map_eq_some_iff.mp moved
  exact ⟨stepped, UInputDevice.touchResult_of_touchStep stepped, rfl, rfl⟩

theorem touchInvariant_of_step (holds : session.device.TouchInvariant)
    (moved : session.step input = some next) : next.device.TouchInvariant := by
  obtain ⟨stepped, -⟩ := step_spec moved
  obtain ⟨cleared, same, silent, -, move⟩ :=
    UInputDevice.touchStep_cases stepped
  exact UInputDevice.touchInvariant_of_touchMove
    (UInputDevice.touchInvariant_of_eq holds same silent) move

theorem touchInvariant_of_reachable {now : Nat}
    (reached : Transition.Reachable step (new now : TouchSession F) session) :
    session.device.TouchInvariant := by
  apply reached.invariant
  · exact UInputDevice.touchInvariant_new now
  · intro before input after holds moved
    exact touchInvariant_of_step holds moved

/-! ### Slots after a step -/

/-- A release frees the slot of its pointer. -/
theorem hasSlot_of_release (holds : session.device.TouchInvariant)
    (moved : session.step input = some next)
    (releases : input.event.eventType.isRelease = true) (other : Int64) :
    next.device.hasSlot other = true ↔
      session.device.hasSlot other = true ∧ other ≠ input.event.pointerId := by
  obtain ⟨-, result, -⟩ := step_spec moved
  have touches := result.touches
  rw [if_pos releases] at touches
  rw [UInputDevice.hasSlot_iff, UInputDevice.hasSlot_iff]
  cases found : session.device.findSlot input.event.pointerId with
  | none =>
      have missing := UInputDevice.findSlot_none found
      rw [found] at touches
      rw [touches]
      constructor
      · rintro ⟨slot, occupied⟩
        refine ⟨⟨slot, occupied⟩, ?_⟩
        rintro rfl
        exact missing slot occupied
      · exact fun has => has.1
  | some slot =>
      have held := UInputDevice.findSlot_some found
      rw [found] at touches
      have touches : next.device.touches =
          Function.update session.device.touches slot none := touches
      rw [touches]
      constructor
      · rintro ⟨index, occupied⟩
        have different : index ≠ slot := by
          rintro rfl
          simp at occupied
        rw [Function.update_of_ne different] at occupied
        refine ⟨⟨index, occupied⟩, ?_⟩
        rintro rfl
        exact different (holds.distinct index slot _ occupied held)
      · rintro ⟨⟨index, occupied⟩, different⟩
        have notSlot : index ≠ slot := by
          rintro rfl
          rw [held] at occupied
          exact different (Option.some.inj occupied).symm
        exact ⟨index, by rw [Function.update_of_ne notSlot, occupied]⟩

theorem activeCount_of_release (moved : session.step input = some next)
    (releases : input.event.eventType.isRelease = true)
    (has : session.device.hasSlot input.event.pointerId = true) :
    session.device.activeCount = next.device.activeCount + 1 := by
  obtain ⟨-, result, -⟩ := step_spec moved
  have touches := result.touches
  obtain ⟨slot, found⟩ := Option.isSome_iff_exists.mp has
  rw [if_pos releases, found] at touches
  exact UInputDevice.activeCount_ended (UInputDevice.findSlot_some found)
    touches

/-- A pointer that touches or hovers may get a slot; others are not touched. -/
theorem hasSlot_of_not_release (moved : session.step input = some next)
    (stays : input.event.eventType.isRelease = false) (other : Int64) :
    next.device.hasSlot other = true ↔
      session.device.hasSlot other = true ∨
        other = input.event.pointerId ∧
          (session.device.withSlot input.event.pointerId).hasSlot
            input.event.pointerId = true := by
  obtain ⟨-, result, -⟩ := step_spec moved
  have touches : next.device.touches =
      (session.device.withSlot input.event.pointerId).touches := by
    simpa [stays] using result.touches
  have same : next.device.hasSlot other =
      (session.device.withSlot input.event.pointerId).hasSlot other := by
    rw [Bool.eq_iff_iff, UInputDevice.hasSlot_iff, UInputDevice.hasSlot_iff,
      touches]
  rw [same]
  by_cases isPointer : other = input.event.pointerId
  · subst isPointer
    constructor
    · exact fun has => .inr ⟨rfl, has⟩
    · rintro (has | ⟨-, has⟩)
      · rw [UInputDevice.withSlot_of_hasSlot has]
        exact has
      · exact has
  · rw [UInputDevice.hasSlot_withSlot _ _ _ isPointer]
    constructor
    · exact Or.inl
    · rintro (has | ⟨isOther, -⟩)
      · exact has
      · exact absurd isOther isPointer

theorem activeCount_of_not_release (moved : session.step input = some next)
    (stays : input.event.eventType.isRelease = false) :
    next.device.activeCount =
      (session.device.withSlot input.event.pointerId).activeCount := by
  obtain ⟨-, result, -⟩ := step_spec moved
  have touches := result.touches
  simp only [stays, Bool.false_eq_true, if_false] at touches
  rw [UInputDevice.activeCount, UInputDevice.activeCount, touches]

/-! ### The contact key -/

/-- A release releases the contact key, if its pointer has a slot. -/
theorem held_touch_of_release (moved : session.step input = some next)
    (releases : input.event.eventType.isRelease = true) :
    next.device.touchState.held ecKeyTouch =
      if session.device.hasSlot input.event.pointerId then false
      else session.device.touchState.held ecKeyTouch := by
  obtain ⟨-, result, -⟩ := step_spec moved
  rw [result.held, UInputDevice.touchKeys, if_pos releases]
  split
  · exact UInputDevice.held_touch_after_upTools _ _
  · rfl

theorem held_touch_of_not_release (moved : session.step input = some next)
    (stays : input.event.eventType.isRelease = false) :
    next.device.touchState.held ecKeyTouch =
      if input.event.eventType = .down ∧
          (session.device.withSlot input.event.pointerId).hasSlot
            input.event.pointerId then true
      else session.device.touchState.held ecKeyTouch := by
  obtain ⟨-, result, -⟩ := step_spec moved
  rw [result.held, UInputDevice.touchKeys]
  simp only [stays, Bool.false_eq_true, if_false]
  split
  · exact UInputDevice.held_touch_after_downTools _ _
  · rfl

/-- A release keeps the contact key right exactly if nothing else is in
contact. -/
theorem touchFollows_of_release (holds : session.device.TouchInvariant)
    (follows : session.TouchFollows) (moved : session.step input = some next)
    (releases : input.event.eventType.isRelease = true) :
    next.TouchFollows ↔ session.EndsAlone input := by
  obtain ⟨-, -, down, -⟩ := step_spec moved
  rw [if_pos releases] at down
  have inContact (other : Int64) : next.InContact other ↔
      session.InContact other ∧ other ≠ input.event.pointerId := by
    unfold InContact
    rw [hasSlot_of_release holds moved releases, down]
    constructor
    · rintro ⟨⟨has, different⟩, isDown⟩
      rw [Function.update_of_ne different] at isDown
      exact ⟨⟨has, isDown⟩, different⟩
    · rintro ⟨⟨has, isDown⟩, different⟩
      rw [Function.update_of_ne different]
      exact ⟨⟨has, different⟩, isDown⟩
  unfold TouchFollows EndsAlone
  rw [held_touch_of_release moved releases]
  simp only [releases, if_true, inContact]
  cases has : session.device.hasSlot input.event.pointerId with
  | true =>
      simp only [if_true, Bool.false_eq_true, false_iff, true_imp_iff,
        not_exists, not_and, not_not]
      constructor
      · intro alone other different contact
        exact different (alone other contact)
      · intro alone other contact
        by_contra different
        exact alone other different contact
  | false =>
      simp only [Bool.false_eq_true, if_false, false_imp_iff, iff_true]
      unfold TouchFollows at follows
      rw [follows]
      constructor
      · rintro ⟨other, contact⟩
        refine ⟨other, contact, ?_⟩
        rintro rfl
        rw [contact.1] at has
        cases has
      · rintro ⟨other, contact, -⟩
        exact ⟨other, contact⟩

/-- Any other event keeps it right unless it gives a slot to a pointer that
went down without one. -/
theorem touchFollows_of_not_release (follows : session.TouchFollows)
    (moved : session.step input = some next)
    (stays : input.event.eventType.isRelease = false) :
    next.TouchFollows ↔ session.EndsAlone input := by
  obtain ⟨-, -, down, -⟩ := step_spec moved
  simp only [stays, Bool.false_eq_true, if_false] at down
  have has := hasSlot_of_not_release moved stays
  unfold TouchFollows EndsAlone
  rw [held_touch_of_not_release moved stays]
  simp only [stays, Bool.false_eq_true, if_false]
  by_cases isDown : input.event.eventType = .down
  · rw [if_pos isDown] at down
    apply iff_of_true
    · cases given : (session.device.withSlot input.event.pointerId).hasSlot
          input.event.pointerId with
      | true =>
          simp only [isDown, and_self, if_true, true_iff]
          refine ⟨input.event.pointerId, ?_, ?_⟩
          · rw [has]
            exact .inr ⟨rfl, given⟩
          · rw [down, Function.update_self]
      | false =>
          simp only [Bool.false_eq_true, and_false, if_false]
          unfold TouchFollows at follows
          rw [follows]
          apply exists_congr
          intro other
          unfold InContact
          rw [has, given, down]
          simp only [Bool.false_eq_true, and_false, or_false]
          apply and_congr_right
          intro hasOther
          have different : other ≠ input.event.pointerId := by
            rintro rfl
            rw [UInputDevice.withSlot_of_hasSlot hasOther, hasOther] at given
            cases given
          rw [Function.update_of_ne different]
    · exact fun notDown => absurd isDown notDown
  · rw [if_neg isDown] at down
    have inContact (other : Int64) : next.InContact other ↔
        session.InContact other ∨ other = input.event.pointerId ∧
          (session.device.withSlot input.event.pointerId).hasSlot
            input.event.pointerId = true ∧
              session.down input.event.pointerId = true := by
      unfold InContact
      rw [has, down]
      constructor
      · rintro ⟨hasSlot | ⟨rfl, given⟩, downBefore⟩
        · exact .inl ⟨hasSlot, downBefore⟩
        · exact .inr ⟨rfl, given, downBefore⟩
      · rintro (⟨hasSlot, downBefore⟩ | ⟨rfl, given, downBefore⟩)
        · exact ⟨.inl hasSlot, downBefore⟩
        · exact ⟨.inr ⟨rfl, given⟩, downBefore⟩
    unfold TouchFollows at follows
    simp only [isDown, false_and, if_false, inContact, follows]
    constructor
    · intro same _ _ given downBefore
      exact same.mpr ⟨_, .inr ⟨rfl, given, downBefore⟩⟩
    · intro joins
      constructor
      · rintro ⟨other, contact⟩
        exact ⟨other, .inl contact⟩
      · rintro ⟨other, contact | ⟨rfl, given, downBefore⟩⟩
        · exact ⟨other, contact⟩
        · cases hasSlot : session.device.hasSlot input.event.pointerId with
          | true => exact ⟨_, hasSlot, downBefore⟩
          | false => exact joins isDown hasSlot given downBefore

/-- The contact key is held exactly while a pointer with a slot is down, after
every event, exactly if pointers end their contacts alone. -/
theorem touchFollows_along_iff (now : Nat)
    (execution : Transition.Execution step (new now : TouchSession F)) :
    execution.Along TouchFollows ↔ execution.StepsMeet EndsAlone := by
  apply execution.along_iff_stepsMeet
  · constructor
    · intro isHeld
      cases isHeld
    · rintro ⟨id, -, isDown⟩
      cases isDown
  · intro before input after reached follows moved
    cases isType : input.event.eventType.isRelease with
    | true =>
        exact touchFollows_of_release (touchInvariant_of_reachable reached)
          follows moved isType
    | false => exact touchFollows_of_not_release follows moved isType

/-- Of two fingers that touch, one is lifted; the other one still touches but
the contact key is released. -/
theorem not_touchFollows_after_lift :
    ∃ final : TouchSession ℚ, Transition.run step (new 0)
        [sampleTouch .down 1, sampleTouch .down 2, sampleTouch .up 2] =
          some final ∧ ¬ final.TouchFollows := by
  have observed : (Transition.run step (new 0 : TouchSession ℚ)
      [sampleTouch .down 1, sampleTouch .down 2, sampleTouch .up 2]).any
      (fun final => !final.device.touchState.held ecKeyTouch &&
        (final.device.hasSlot 1 && final.down 1)) = true := by
    decide
  obtain ⟨final, runs, facts⟩ := (Option.any_eq_true _ _).mp observed
  simp only [Bool.and_eq_true, Bool.not_eq_true'] at facts
  refine ⟨final, runs, ?_⟩
  intro follows
  have isHeld := follows.mpr ⟨1, facts.2⟩
  rw [facts.1] at isHeld
  cases isHeld

/-! ### The tools -/

/-- What a step does to the tools. -/
inductive ToolMove (session : TouchSession F) (input : PointerInput F)
    (next : TouchSession F) : Prop
  | lowered (releases : input.event.eventType.isRelease = true)
      (writes : session.writesTools input.event = true)
      (isCount : IsToolCount session.device.activeCount)
      (given : session.device.withSlot input.event.pointerId = session.device)
      (fewer : session.device.activeCount = next.device.activeCount + 1)
      (held : ∀ tool, IsToolCount tool →
        next.device.touchState.held (toolKeyForTouchCount tool) =
          if tool = session.device.activeCount then false
          else if tool + 1 = session.device.activeCount then true
          else session.device.touchState.held (toolKeyForTouchCount tool))
  | raised (isDown : input.event.eventType = .down)
      (writes : session.writesTools input.event = true)
      (isCount : IsToolCount next.device.activeCount)
      (given : (session.device.withSlot input.event.pointerId).activeCount =
        next.device.activeCount)
      (more : session.device.activeCount ≤ next.device.activeCount)
      (held : ∀ tool, IsToolCount tool →
        next.device.touchState.held (toolKeyForTouchCount tool) =
          if tool = next.device.activeCount then true
          else if tool + 1 = next.device.activeCount then false
          else session.device.touchState.held (toolKeyForTouchCount tool))
  | silent (leaves : session.writesTools input.event = false)
      (same : next.device.touchState.held = session.device.touchState.held)
      (more : session.device.activeCount ≤ next.device.activeCount)
      (full : input.event.eventType = .down → next.device.activeCount = 5)

omit [F64Convert F] in
/-- A slot that is given away does not make the others fewer. -/
theorem activeCount_le_withSlot (device : UInputDevice F) (id : Int64) :
    device.activeCount ≤ (device.withSlot id).activeCount := by
  cases has : device.hasSlot id with
  | true => rw [UInputDevice.withSlot_of_hasSlot has]
  | false =>
      cases given : (device.withSlot id).hasSlot id with
      | true =>
          rw [UInputDevice.activeCount_withSlot has given]
          exact Nat.le_succ _
      | false => rw [(UInputDevice.activeCount_of_noSlot given).1]

theorem toolMove_of_release (moved : session.step input = some next)
    (releases : input.event.eventType.isRelease = true) :
    session.ToolMove input next := by
  obtain ⟨-, result, -⟩ := step_spec moved
  have writes : session.writesTools input.event =
      session.device.hasSlot input.event.pointerId := by
    simp [writesTools, releases]
  have notDown := PointerEventType.ne_down_of_isRelease releases
  cases has : session.device.hasSlot input.event.pointerId with
  | true =>
      obtain ⟨slot, occupied⟩ := (UInputDevice.hasSlot_iff _ _).mp has
      have isCount : IsToolCount session.device.activeCount :=
        ⟨UInputDevice.activeCount_pos occupied,
          UInputDevice.activeCount_le _⟩
      refine .lowered releases (writes.trans has) isCount
        (UInputDevice.withSlot_of_hasSlot has)
        (activeCount_of_release moved releases has) ?_
      intro tool isTool
      have keys : session.device.touchKeys input.event =
          UInputDevice.upTools session.device.activeCount := by
        simp [UInputDevice.touchKeys, releases, has]
      rw [result.held, keys]
      exact UInputDevice.held_tool_after_upTools_eq _ isCount isTool
  | false =>
      have keys : session.device.touchKeys input.event = [] := by
        simp [UInputDevice.touchKeys, releases, has]
      have touches : next.device.touches = session.device.touches := by
        have missing : session.device.findSlot input.event.pointerId =
            none := by
          simpa [UInputDevice.hasSlot] using has
        rw [result.touches, if_pos releases, missing]
      refine .silent (writes.trans has) ?_ ?_ fun isDown =>
        absurd isDown notDown
      · rw [result.held, keys]
        rfl
      · rw [UInputDevice.activeCount, UInputDevice.activeCount, touches]

theorem toolMove_of_not_release (moved : session.step input = some next)
    (stays : input.event.eventType.isRelease = false) :
    session.ToolMove input next := by
  obtain ⟨-, result, -⟩ := step_spec moved
  have count := activeCount_of_not_release moved stays
  have more := activeCount_le_withSlot session.device input.event.pointerId
  rw [← count] at more
  by_cases writes : session.writesTools input.event = true
  · have goesDown : input.event.eventType = .down ∧
        (session.device.withSlot input.event.pointerId).hasSlot
          input.event.pointerId = true := by
      simpa [writesTools, stays] using writes
    obtain ⟨isDown, given⟩ := goesDown
    obtain ⟨slot, occupied⟩ := (UInputDevice.hasSlot_iff _ _).mp given
    have positive := UInputDevice.activeCount_pos occupied
    have isCount : IsToolCount next.device.activeCount := by
      rw [count]
      exact ⟨positive, UInputDevice.activeCount_le _⟩
    refine .raised isDown writes isCount count.symm more ?_
    intro tool isTool
    have keys : session.device.touchKeys input.event =
        UInputDevice.downTools next.device.activeCount := by
      simp [UInputDevice.touchKeys, isDown, PointerEventType.isRelease, given,
        count]
    rw [result.held, keys]
    exact UInputDevice.held_tool_after_downTools _ isCount isTool
  · have notDown : ¬ (input.event.eventType = .down ∧
        (session.device.withSlot input.event.pointerId).hasSlot
          input.event.pointerId = true) := by
      simpa [writesTools, stays] using writes
    have keys : session.device.touchKeys input.event = [] := by
      unfold UInputDevice.touchKeys
      rw [if_neg (by simp [stays]), if_neg notDown]
    refine .silent (by simpa using writes) ?_ more ?_
    · rw [result.held, keys]
      rfl
    · intro isDown
      have noSlot : (session.device.withSlot
          input.event.pointerId).hasSlot input.event.pointerId = false := by
        simpa [isDown] using notDown
      obtain ⟨same, five⟩ := UInputDevice.activeCount_of_noSlot noSlot
      rw [count, same, five]

theorem toolMove_of_step (moved : session.step input = some next) :
    session.ToolMove input next := by
  cases isType : input.event.eventType.isRelease with
  | true => exact toolMove_of_release moved isType
  | false => exact toolMove_of_not_release moved isType

/-- The one tool held, if any, is that of the count when tools were last
written. -/
structure ToolFollows (session : TouchSession F) : Prop where
  held : ∀ tool, IsToolCount tool →
    (session.device.touchState.held (toolKeyForTouchCount tool) = true ↔
      tool = session.lastCount)
  within : session.lastCount ≤ session.device.activeCount

theorem toolFollows_of_step (follows : session.ToolFollows)
    (guarded : session.CountsOneMore input)
    (moved : session.step input = some next) : next.ToolFollows := by
  obtain ⟨-, -, -, lastCount⟩ := step_spec moved
  unfold CountsOneMore at guarded
  cases toolMove_of_step moved with
  | lowered releases writes isCount given fewer held =>
      rw [if_pos writes] at lastCount
      simp only [writes, if_true, given] at guarded
      have within := follows.within
      refine ⟨?_, lastCount.le⟩
      intro tool isTool
      have isLast := follows.held tool isTool
      have one := isTool.1
      rw [held tool isTool, lastCount]
      split
      · simp only [Bool.false_eq_true, false_iff]
        omega
      · split
        · simp only [true_iff]
          omega
        · rw [isLast]
          omega
  | raised isDown writes isCount given more held =>
      rw [if_pos writes] at lastCount
      simp only [writes, if_true, given] at guarded
      have within := follows.within
      refine ⟨?_, lastCount.le⟩
      intro tool isTool
      have isLast := follows.held tool isTool
      have one := isTool.1
      rw [held tool isTool, lastCount]
      split
      · simp only [true_iff]
        assumption
      · split
        · simp only [Bool.false_eq_true, false_iff]
          assumption
        · rw [isLast]
          omega
  | silent leaves same more full =>
      simp only [leaves, Bool.false_eq_true, if_false] at lastCount
      refine ⟨?_, ?_⟩
      · rw [same, lastCount]
        exact follows.held
      · rw [lastCount]
        exact follows.within.trans more

omit [F64Convert F] in
/-- Whatever is held is the same tool. -/
theorem oneTool_of_held {device : UInputDevice F} (only : Nat)
    (unique : ∀ tool, IsToolCount tool →
      device.touchState.held (toolKeyForTouchCount tool) = true →
        tool = only) : OneTool device := by
  intro first second isFirst isSecond holdsFirst holdsSecond
  rw [unique first isFirst holdsFirst, unique second isSecond holdsSecond]

/-- A step leaves the right tools exactly if it counts at most one more. -/
theorem toolsMatch_iff_countsOneMore (follows : session.ToolFollows)
    (moved : session.step input = some next) :
    session.ToolsMatch input ↔ session.CountsOneMore input := by
  have isNext : session.ToolsMatch input ↔ OneTool next.device ∧
      (input.event.eventType = .down →
        next.device.touchState.held
          (toolKeyForTouchCount next.device.activeCount) = true) := by
    unfold ToolsMatch
    rw [moved]
    simp
  have within := follows.within
  have fits := session.device.activeCount_le
  rw [isNext]
  unfold CountsOneMore
  cases toolMove_of_step moved with
  | lowered releases writes isCount given fewer held =>
      have notDown := PointerEventType.ne_down_of_isRelease releases
      simp only [writes, if_true, given, notDown, false_imp_iff, and_true]
      constructor
      · intro oneTool
        by_contra grown
        have isLast : IsToolCount session.lastCount := by
          unfold IsToolCount
          omega
        have isBelow : IsToolCount (session.device.activeCount - 1) := by
          unfold IsToolCount
          omega
        have same := oneTool _ _ isLast isBelow (by
          rw [held _ isLast, if_neg (by omega), if_neg (by omega)]
          exact (follows.held _ isLast).mpr rfl) (by
          rw [held _ isBelow, if_neg (by omega), if_pos (by omega)])
        omega
      · intro counts
        apply oneTool_of_held (session.device.activeCount - 1)
        intro tool isTool isHeld
        have isLast := follows.held tool isTool
        have one := isTool.1
        rw [held tool isTool] at isHeld
        split at isHeld
        · cases isHeld
        · split at isHeld
          · omega
          · have := isLast.mp isHeld
            omega
  | raised isDown writes isCount given more held =>
      simp only [writes, if_true, given, isDown, true_imp_iff]
      have isHeld : next.device.touchState.held
          (toolKeyForTouchCount next.device.activeCount) = true := by
        rw [held _ isCount, if_pos rfl]
      constructor
      · rintro ⟨oneTool, -⟩
        by_contra grown
        have isLast : IsToolCount session.lastCount := by
          unfold IsToolCount
          omega
        have same := oneTool _ _ isLast isCount (by
          rw [held _ isLast, if_neg (by omega), if_neg (by omega)]
          exact (follows.held _ isLast).mpr rfl) isHeld
        omega
      · intro counts
        refine ⟨oneTool_of_held next.device.activeCount ?_, isHeld⟩
        intro tool isTool isHeld
        have isLast := follows.held tool isTool
        have one := isTool.1
        rw [held tool isTool] at isHeld
        split at isHeld
        · assumption
        · split at isHeld
          · cases isHeld
          · have := isLast.mp isHeld
            omega
  | silent leaves same more full =>
      simp only [leaves, Bool.false_eq_true, if_false]
      have oneTool : OneTool next.device := by
        apply oneTool_of_held session.lastCount
        intro tool isTool isHeld
        rw [same] at isHeld
        exact (follows.held tool isTool).mp isHeld
      rw [and_iff_right oneTool]
      apply imp_congr_right
      intro isDown
      have isFive : IsToolCount 5 := ⟨by omega, by omega⟩
      rw [full isDown, same, follows.held 5 isFive]
      exact eq_comm

/-- After every event at most one tool is held, and after a `DOWN` the right
one, exactly if tools are written whenever one slot more is occupied. -/
theorem toolsMatch_along_iff (now : Nat)
    (execution : Transition.Execution step (new now : TouchSession F)) :
    execution.StepsMeet ToolsMatch ↔ execution.StepsMeet CountsOneMore := by
  apply execution.stepsMeet_iff_of_invariant ToolFollows
  · constructor
    · intro tool isTool
      have := isTool.1
      apply iff_of_false
      · intro isHeld
        cases isHeld
      · change ¬ tool = 0
        omega
    · exact Nat.zero_le _
  · intro before input after follows moved
    exact toolsMatch_iff_countsOneMore follows moved
  · intro before input after follows guarded moved
    exact toolFollows_of_step follows guarded moved

/-- One finger touches and two hover; the last of them goes down, and the
tools for one and for three fingers are held. -/
theorem not_toolsMatch_after_hover :
    ∃ session : TouchSession ℚ, Transition.run step (new 0)
        [sampleTouch .down 1, sampleTouch .over 2, sampleTouch .over 3] =
          some session ∧ ¬ session.ToolsMatch (sampleTouch .down 3) := by
  have observed : (Transition.run step (new 0 : TouchSession ℚ)
      [sampleTouch .down 1, sampleTouch .over 2, sampleTouch .over 3]).any
      (fun session => (session.step (sampleTouch .down 3)).any fun next =>
        next.device.touchState.held ecKeyToolFinger &&
          next.device.touchState.held ecKeyToolTripletap) = true := by
    decide
  obtain ⟨session, runs, both⟩ := (Option.any_eq_true _ _).mp observed
  obtain ⟨next, moved, both⟩ := (Option.any_eq_true _ _).mp both
  simp only [Bool.and_eq_true] at both
  refine ⟨session, runs, ?_⟩
  intro isRight
  have oneTool := (isRight next moved).1
  have same : 1 = 3 :=
    oneTool 1 3 ⟨by omega, by omega⟩ ⟨by omega, by omega⟩ both.1 both.2
  omega

end TouchSession

end Rylus
