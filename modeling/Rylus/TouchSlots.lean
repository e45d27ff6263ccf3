import Mathlib.Tactic.IntervalCases
import Rylus.LabelledExecution
import Rylus.UInputDevice

/-!
# Slots of the touch device

Touches get the first free slot and keep it until they end; the kernel learns
of them through the events emitted.  The tool keys follow the number of
occupied slots, but only when a touch goes down or ends.
-/

namespace Rylus

open EventDevice (InputEvent DeviceState)

/-- Two predicates that differ at one element of a list without repetitions. -/
theorem countP_eq_succ {Element : Type*} {elements : List Element}
    {first second : Element → Bool} {element : Element}
    (nodup : elements.Nodup) (member : element ∈ elements)
    (elsewhere : ∀ other, other ≠ element → second other = first other)
    (unset : first element = false) (set : second element = true) :
    elements.countP second = elements.countP first + 1 := by
  induction elements with
  | nil => cases member
  | cons head tail ih =>
      obtain ⟨notIn, nodup⟩ := List.nodup_cons.mp nodup
      rcases List.mem_cons.mp member with same | later
      · subst same
        have agree : tail.countP second = tail.countP first := by
          apply List.countP_congr
          intro other inTail
          rw [elsewhere other (fun same => notIn (same ▸ inTail))]
        simp [unset, set, agree]
      · have different : head ≠ element := fun same => notIn (same ▸ later)
        rw [List.countP_cons, List.countP_cons, ih nodup later,
          elsewhere head different]
        omega

/-- One tool for each number of touches. -/
theorem toolKeyForTouchCount_inj {first second : Nat}
    (firstPositive : 1 ≤ first) (firstFits : first ≤ 5)
    (secondPositive : 1 ≤ second) (secondFits : second ≤ 5)
    (same : toolKeyForTouchCount first = toolKeyForTouchCount second) :
    first = second := by
  interval_cases first <;> interval_cases second <;> first
    | rfl
    | exact absurd same (by decide)

theorem toolKeyForTouchCount_ne_touch (count : Nat) :
    toolKeyForTouchCount count ≠ ecKeyTouch := by
  unfold toolKeyForTouchCount
  split <;> decide

theorem isAxis_absolute {code : Nat} (value : Int)
    (noSlot : code ≠ EventDevice.absMtSlot)
    (noId : code ≠ EventDevice.absMtTrackingId) :
    DeviceState.IsAxis (absolute code value) :=
  ⟨rfl, noSlot, noId⟩

namespace UInputDevice

variable {F : Type*} [F64Convert F]

/-- The kernel's view of the touch device. -/
def touchState (device : UInputDevice F) : DeviceState :=
  DeviceState.initial.after device.touch

omit [F64Convert F] in
theorem findSlot_some {device : UInputDevice F} {id : Int64} {slot : Fin 5}
    (found : device.findSlot id = some slot) :
    device.touches slot = some id := by
  simpa using List.find?_some found

omit [F64Convert F] in
theorem findSlot_none {device : UInputDevice F} {id : Int64}
    (missing : device.findSlot id = none) (slot : Fin 5) :
    device.touches slot ≠ some id := by
  simpa using List.find?_eq_none.mp missing slot (List.mem_finRange slot)

omit [F64Convert F] in
theorem freeSlot_some {device : UInputDevice F} {slot : Fin 5}
    (found : device.freeSlot = some slot) : device.touches slot = none := by
  simpa using List.find?_some found

omit [F64Convert F] in
theorem freeSlot_none {device : UInputDevice F}
    (search : device.freeSlot = none) (slot : Fin 5) :
    device.touches slot ≠ none := by
  have occupied := List.find?_eq_none.mp search slot (List.mem_finRange slot)
  simpa using occupied

omit [F64Convert F] in
theorem activeCount_le (device : UInputDevice F) : device.activeCount ≤ 5 := by
  have bounded : device.activeCount ≤ (List.finRange 5).length :=
    List.countP_le_length
  simpa using bounded

omit [F64Convert F] in
theorem activeCount_pos {device : UInputDevice F} {slot : Fin 5} {id : Int64}
    (occupied : device.touches slot = some id) : 1 ≤ device.activeCount := by
  have positive : 0 < device.activeCount := List.countP_pos_iff.mpr
    ⟨slot, List.mem_finRange slot, by simp [occupied]⟩
  exact positive

/-- What a touch event does to the slots, and what is emitted. -/
inductive TouchMove (device : UInputDevice F) (event : PointerEvent F)
    (next : UInputDevice F) : Prop
  | moved (slot : Fin 5)
      (found : device.touches slot = some event.pointerId)
      (same : next.touches = device.touches)
      (emitted : next.touch = device.touch ++
        ([absolute ecAbsMtSlot slot, absolute ecAbsMtTrackingId slot] ++
          (if event.eventType = .down then downTools next.activeCount
          else []) ++ next.touchAxes event))
      (stays : event.eventType.isRelease = false)
  | began (slot : Fin 5)
      (isNew : ∀ other, device.touches other ≠ some event.pointerId)
      (free : device.touches slot = none)
      (taken : next.touches =
        Function.update device.touches slot (some event.pointerId))
      (emitted : next.touch = device.touch ++
        ([absolute ecAbsMtSlot slot, absolute ecAbsMtTrackingId slot] ++
          (if event.eventType = .down then downTools next.activeCount
          else []) ++ next.touchAxes event))
      (stays : event.eventType.isRelease = false)
  | ended (slot : Fin 5)
      (releases : event.eventType.isRelease = true)
      (found : device.touches slot = some event.pointerId)
      (freed : next.touches = Function.update device.touches slot none)
      (emitted : next.touch = device.touch ++
        ([absolute ecAbsMtSlot slot, absolute ecAbsMtTrackingId (-1)] ++
          upTools device.activeCount))
  | ignored (same : next.touches = device.touches)
      (silent : next.touch = device.touch)
      (missing : event.eventType.isRelease = true →
        ∀ slot, device.touches slot ≠ some event.pointerId)
      (full : event.eventType.isRelease = false →
        ∀ slot, device.touches slot ≠ none)

theorem touchAxes_isAxis (device : UInputDevice F) (event : PointerEvent F) :
    ∀ axis ∈ device.touchAxes event, DeviceState.IsAxis axis := by
  intro axis member
  simp only [touchAxes, List.mem_cons, List.not_mem_nil, or_false] at member
  rcases member with rfl | rfl | rfl | rfl | rfl | rfl | rfl | rfl <;>
    exact isAxis_absolute _ (by decide) (by decide)

/-- Pointers that touch or hover get a slot or keep theirs. -/
theorem sendTouchEvent_of_not_release {device : UInputDevice F}
    {event : PointerEvent F} (stays : event.eventType.isRelease = false) :
    device.sendTouchEvent event =
      match device.findSlot event.pointerId with
      | some slot =>
          { device with
            touch := device.touch ++ device.touchMoved event slot }
      | none =>
          match device.freeSlot with
          | some slot =>
              { device with
                touches := Function.update device.touches slot
                  (some event.pointerId)
                touch := device.touch ++
                  ({ device with
                    touches := Function.update device.touches slot
                      (some event.pointerId) }).touchMoved event slot }
          | none => device := by
  unfold sendTouchEvent
  cases isType : event.eventType <;> first
    | rfl
    | simp [isType, PointerEventType.isRelease] at stays

theorem sendTouchEvent_of_release {device : UInputDevice F}
    {event : PointerEvent F} (releases : event.eventType.isRelease = true) :
    device.sendTouchEvent event =
      match device.findSlot event.pointerId with
      | some slot =>
          { device with
            touch := device.touch ++ device.touchEnded slot
            touches := Function.update device.touches slot none }
      | none => device := by
  unfold sendTouchEvent
  cases isType : event.eventType <;> first
    | rfl
    | simp [isType, PointerEventType.isRelease] at releases

theorem touchMove_of_sendTouchEvent (device : UInputDevice F)
    (event : PointerEvent F) :
    device.TouchMove event (device.sendTouchEvent event) := by
  cases releases : event.eventType.isRelease with
  | false =>
      rw [sendTouchEvent_of_not_release releases]
      cases found : device.findSlot event.pointerId with
      | some slot => exact .moved slot (findSlot_some found) rfl rfl releases
      | none =>
          cases free : device.freeSlot with
          | some slot =>
              exact .began slot (findSlot_none found) (freeSlot_some free)
                rfl rfl releases
          | none =>
              refine .ignored rfl rfl ?_ fun _ => freeSlot_none free
              rw [releases]
              exact fun impossible => nomatch impossible
  | true =>
      rw [sendTouchEvent_of_release releases]
      cases found : device.findSlot event.pointerId with
      | some slot => exact .ended slot releases (findSlot_some found) rfl rfl
      | none =>
          refine .ignored rfl rfl (fun _ => findSlot_none found) ?_
          rw [releases]
          exact fun impossible => nomatch impossible

/-- The slots, what the kernel knows of them, and which tools it may believe
to be there. -/
structure TouchInvariant (device : UInputDevice F) : Prop where
  distinct : ∀ first second id, device.touches first = some id →
    device.touches second = some id → first = second
  slotRange : ∀ event ∈ device.touch, event.eventType = .absolute →
    event.code = ecAbsMtSlot → 0 ≤ event.value ∧ event.value ≤ 4
  contacts : ∀ slot : Int, device.touchState.trackingId slot ≠ -1 ↔
    ∃ index : Fin 5, slot = index ∧ device.touches index ≠ none
  tools : ∀ count, 1 ≤ count → count ≤ 5 →
    device.touchState.held (toolKeyForTouchCount count) = true →
      count ≤ device.activeCount
  touchKey : device.activeCount = 0 →
    device.touchState.held ecKeyTouch = false

variable {device next : UInputDevice F} {event : PointerEvent F}

omit [F64Convert F] in
theorem activeCount_began {slot : Fin 5} {id : Int64}
    (free : device.touches slot = none)
    (taken : next.touches = Function.update device.touches slot (some id)) :
    next.activeCount = device.activeCount + 1 := by
  apply countP_eq_succ (List.nodup_finRange 5) (List.mem_finRange slot)
  · intro other different
    rw [taken, Function.update_of_ne different]
  · simp [free]
  · simp [taken]

omit [F64Convert F] in
theorem activeCount_ended {slot : Fin 5} {id : Int64}
    (found : device.touches slot = some id)
    (freed : next.touches = Function.update device.touches slot none) :
    device.activeCount = next.activeCount + 1 := by
  apply countP_eq_succ (List.nodup_finRange 5) (List.mem_finRange slot)
  · intro other different
    rw [freed, Function.update_of_ne different]
  · simp [freed]
  · simp [found]

omit [F64Convert F] in
/-- A contact emitted for a slot, as the kernel sees it. -/
theorem contacts_update {slot : Fin 5} {id : Int} {touch : Option Int64}
    {tracking : Int → Int}
    (contacts : ∀ other : Int, tracking other ≠ -1 ↔
      ∃ index : Fin 5, other = index ∧ device.touches index ≠ none)
    (agrees : id ≠ -1 ↔ touch ≠ none) (other : Int) :
    Function.update tracking (slot : Int) id other ≠ -1 ↔
      ∃ index : Fin 5, other = index ∧
        Function.update device.touches slot touch index ≠ none := by
  by_cases same : other = (slot : Int)
  · subst same
    rw [Function.update_self, agrees]
    constructor
    · exact fun occupied => ⟨slot, rfl, by simpa using occupied⟩
    · rintro ⟨index, isIndex, occupied⟩
      have isSlot : index = slot := by
        apply Fin.ext
        exact_mod_cast isIndex.symm
      simpa [isSlot] using occupied
  · rw [Function.update_of_ne same, contacts]
    apply exists_congr
    intro index
    apply and_congr_right
    intro isIndex
    have different : index ≠ slot := by
      rintro rfl
      exact same isIndex
    rw [Function.update_of_ne different]

theorem downTools_areKeys (count : Nat) :
    ∀ event ∈ downTools count, event.eventType = .key := by
  intro event member
  unfold downTools at member
  split at member <;> simp at member
  · rcases member with rfl | rfl | rfl <;> rfl
  · rcases member with rfl | rfl <;> rfl

theorem upTools_areKeys (count : Nat) :
    ∀ event ∈ upTools count, event.eventType = .key := by
  intro event member
  unfold upTools at member
  split at member <;> simp at member
  · rcases member with rfl | rfl | rfl <;> rfl
  · rcases member with rfl | rfl <;> rfl

/-- Going down presses the tool of the new count only. -/
theorem downTools_presses {count : Nat} {event : InputEvent}
    (member : event ∈ downTools count) (presses : event.value ≠ 0) :
    event.code = ecKeyTouch ∨ event.code = toolKeyForTouchCount count := by
  unfold downTools at member
  split at member <;> simp at member
  · rcases member with rfl | rfl | rfl
    · exact .inl rfl
    · exact absurd rfl presses
    · exact .inr rfl
  · rcases member with rfl | rfl
    · exact .inl rfl
    · exact .inr rfl

theorem upTools_presses {count : Nat} {event : InputEvent}
    (member : event ∈ upTools count) (presses : event.value ≠ 0) :
    1 ≤ count - 1 ∧ event.code = toolKeyForTouchCount (count - 1) := by
  unfold upTools at member
  split at member <;> simp at member
  · rcases member with rfl | rfl | rfl
    · exact absurd rfl presses
    · exact absurd rfl presses
    · exact ⟨‹_›, rfl⟩
  · rcases member with rfl | rfl
    · exact absurd rfl presses
    · exact absurd rfl presses

/-- The end of a contact releases the touch key. -/
theorem held_touch_after_upTools (state : DeviceState) (count : Nat) :
    (state.after (upTools count)).held ecKeyTouch = false := by
  apply DeviceState.held_after_last [] _ (key ecKeyTouch 0) rfl rfl (by decide)
  intro event member isKey isTouch
  split at member <;> simp at member
  · rcases member with rfl | rfl
    · exact absurd isTouch (toolKeyForTouchCount_ne_touch _)
    · exact absurd isTouch (toolKeyForTouchCount_ne_touch _)
  · subst member
    exact absurd isTouch (toolKeyForTouchCount_ne_touch _)

/-- And the tool of the old count. -/
theorem held_tool_after_upTools (state : DeviceState) {count : Nat}
    (fits : count ≤ 5) :
    (state.after (upTools count)).held (toolKeyForTouchCount count) =
      false := by
  apply DeviceState.held_after_last [key ecKeyTouch 0] _
    (key (toolKeyForTouchCount count) 0) rfl rfl (show (0 : Int) ≠ 2 by decide)
  intro event member isKey isTool
  split at member <;> simp at member
  rename_i several
  subst member
  have same := toolKeyForTouchCount_inj several (by omega) (by omega) fits
    isTool
  omega

omit [F64Convert F] in
theorem touchState_append {events : List InputEvent}
    (emitted : next.touch = device.touch ++ events) :
    next.touchState = device.touchState.after events := by
  rw [touchState, emitted, DeviceState.after_append]
  rfl

omit [F64Convert F] in
/-- Every slot that is emitted exists. -/
theorem slotRange_append {slot : Fin 5} {id : Int}
    {keys axes : List InputEvent}
    (range : ∀ event ∈ device.touch, event.eventType = .absolute →
      event.code = ecAbsMtSlot → 0 ≤ event.value ∧ event.value ≤ 4)
    (emitted : next.touch = device.touch ++
      ([absolute ecAbsMtSlot slot, absolute ecAbsMtTrackingId id] ++ keys ++
        axes))
    (areKeys : ∀ event ∈ keys, event.eventType = .key)
    (areAxes : ∀ event ∈ axes, DeviceState.IsAxis event) :
    ∀ event ∈ next.touch, event.eventType = .absolute →
      event.code = ecAbsMtSlot → 0 ≤ event.value ∧ event.value ≤ 4 := by
  intro event member isAbsolute isSlot
  rw [emitted] at member
  simp only [List.mem_append, List.mem_cons, List.not_mem_nil,
    or_false] at member
  rcases member with before | ((rfl | rfl) | isKey) | isAxis
  · exact range event before isAbsolute isSlot
  · have inside := slot.isLt
    simp only [absolute]
    omega
  · exact absurd isSlot (by decide : ecAbsMtTrackingId ≠ ecAbsMtSlot)
  · rw [areKeys event isKey] at isAbsolute
    cases isAbsolute
  · exact absurd isSlot (areAxes event isAxis).2.1

/-- A touch that goes down, moves or hovers. -/
theorem touchInvariant_touching {slot : Fin 5}
    (holds : device.TouchInvariant)
    (distinct : ∀ first second id, next.touches first = some id →
      next.touches second = some id → first = second)
    (contacts : ∀ other : Int,
      Function.update device.touchState.trackingId (slot : Int) slot other ≠
          -1 ↔
        ∃ index : Fin 5, other = index ∧ next.touches index ≠ none)
    (positive : 1 ≤ next.activeCount)
    (grows : device.activeCount ≤ next.activeCount)
    (emitted : next.touch = device.touch ++
      ([absolute ecAbsMtSlot slot, absolute ecAbsMtTrackingId slot] ++
        (if event.eventType = .down then downTools next.activeCount
        else []) ++ next.touchAxes event)) :
    next.TouchInvariant := by
  have areKeys : ∀ tool ∈ (if event.eventType = .down then
      downTools next.activeCount else []), tool.eventType = .key := by
    split
    · exact downTools_areKeys _
    · simp
  have areAxes := next.touchAxes_isAxis event
  obtain ⟨trackingId, held⟩ :
      next.touchState.trackingId =
          Function.update device.touchState.trackingId (slot : Int) slot ∧
        next.touchState.held = (device.touchState.after
          (if event.eventType = .down then downTools next.activeCount
          else [])).held := by
    rw [touchState_append emitted]
    exact DeviceState.after_contact slot slot areKeys areAxes
  constructor
  · exact distinct
  · exact slotRange_append holds.slotRange emitted areKeys areAxes
  · rw [trackingId]
    exact contacts
  · intro count one fits isHeld
    rw [held] at isHeld
    rcases DeviceState.held_of_held_after isHeld with
      before | ⟨tool, member, -, isTool, presses⟩
    · exact (holds.tools count one fits before).trans grows
    · split at member
      · rcases downTools_presses member presses with isTouch | isCount
        · rw [isTool] at isTouch
          exact absurd isTouch (toolKeyForTouchCount_ne_touch count)
        · rw [isTool] at isCount
          exact (toolKeyForTouchCount_inj one fits positive
            next.activeCount_le isCount).le
      · cases member
  · intro empty
    omega

omit [F64Convert F] in
/-- A touch that ends. -/
theorem touchInvariant_ended {slot : Fin 5} {id : Int64}
    (holds : device.TouchInvariant) (found : device.touches slot = some id)
    (freed : next.touches = Function.update device.touches slot none)
    (emitted : next.touch = device.touch ++
      ([absolute ecAbsMtSlot slot, absolute ecAbsMtTrackingId (-1)] ++
        upTools device.activeCount ++ [])) :
    next.TouchInvariant := by
  have areKeys := upTools_areKeys device.activeCount
  obtain ⟨trackingId, held⟩ :
      next.touchState.trackingId =
          Function.update device.touchState.trackingId (slot : Int) (-1) ∧
        next.touchState.held =
          (device.touchState.after (upTools device.activeCount)).held := by
    rw [touchState_append emitted]
    exact DeviceState.after_contact slot (-1) areKeys (by simp)
  have fewer := activeCount_ended found freed
  constructor
  · intro first second other isFirst isSecond
    rw [freed] at isFirst isSecond
    by_cases firstEnded : first = slot
    · simp [firstEnded] at isFirst
    · by_cases secondEnded : second = slot
      · simp [secondEnded] at isSecond
      · rw [Function.update_of_ne firstEnded] at isFirst
        rw [Function.update_of_ne secondEnded] at isSecond
        exact holds.distinct first second other isFirst isSecond
  · exact slotRange_append holds.slotRange emitted areKeys (by simp)
  · rw [trackingId, freed]
    exact contacts_update holds.contacts (by simp)
  · intro count one fits isHeld
    rw [held] at isHeld
    have notOld : count ≠ device.activeCount := by
      rintro rfl
      rw [held_tool_after_upTools _ device.activeCount_le] at isHeld
      cases isHeld
    rcases DeviceState.held_of_held_after isHeld with
      before | ⟨tool, member, -, isTool, presses⟩
    · have := holds.tools count one fits before
      omega
    · obtain ⟨remains, isLower⟩ := upTools_presses member presses
      have bounded := device.activeCount_le
      rw [isTool] at isLower
      have := toolKeyForTouchCount_inj one fits remains (by omega) isLower
      omega
  · intro _
    rw [held]
    exact held_touch_after_upTools _ _

omit [F64Convert F] in
/-- The invariant is about the slots and the touch device only. -/
theorem touchInvariant_of_eq (holds : device.TouchInvariant)
    (same : next.touches = device.touches)
    (silent : next.touch = device.touch) : next.TouchInvariant := by
  have sameState : next.touchState = device.touchState := by
    rw [touchState, silent]
    rfl
  have sameCount : next.activeCount = device.activeCount := by
    rw [activeCount, activeCount, same]
  constructor
  · rw [same]
    exact holds.distinct
  · rw [silent]
    exact holds.slotRange
  · rw [sameState, same]
    exact holds.contacts
  · rw [sameState, sameCount]
    exact holds.tools
  · rw [sameState, sameCount]
    exact holds.touchKey

theorem touchInvariant_of_touchMove (holds : device.TouchInvariant)
    (moved : device.TouchMove event next) : next.TouchInvariant := by
  cases moved with
  | moved slot found same emitted =>
      have sameCount : next.activeCount = device.activeCount := by
        rw [activeCount, activeCount, same]
      apply touchInvariant_touching holds ?_ ?_ ?_ sameCount.ge emitted
      · rw [same]
        exact holds.distinct
      · have isSame : next.touches =
            Function.update device.touches slot (some event.pointerId) := by
          rw [same, ← found, Function.update_eq_self]
        rw [isSame]
        exact contacts_update holds.contacts (by simp)
      · rw [sameCount]
        exact activeCount_pos found
  | began slot isNew free taken emitted =>
      have more := activeCount_began free taken
      apply touchInvariant_touching holds ?_ ?_ (by omega) (by omega) emitted
      · intro first second other isFirst isSecond
        rw [taken] at isFirst isSecond
        by_cases firstNew : first = slot
        · by_cases secondNew : second = slot
          · rw [firstNew, secondNew]
          · rw [firstNew, Function.update_self] at isFirst
            rw [Function.update_of_ne secondNew, ← isFirst] at isSecond
            exact absurd isSecond (isNew second)
        · rw [Function.update_of_ne firstNew] at isFirst
          by_cases secondNew : second = slot
          · rw [secondNew, Function.update_self] at isSecond
            rw [← isSecond] at isFirst
            exact absurd isFirst (isNew first)
          · rw [Function.update_of_ne secondNew] at isSecond
            exact holds.distinct first second other isFirst isSecond
      · rw [taken]
        exact contacts_update holds.contacts (by simp)
  | ended slot releases found freed emitted =>
      exact touchInvariant_ended holds found freed (by simpa using emitted)
  | ignored same silent =>
      exact touchInvariant_of_eq holds same silent

omit [F64Convert F] in
theorem touchInvariant_new [F64Convert F] (now : Nat) :
    (new now : UInputDevice F).TouchInvariant := by
  constructor
  · intro first second id occupied
    cases occupied
  · intro event member
    cases member
  · intro slot
    apply iff_of_false
    · exact fun occupied => occupied rfl
    · rintro ⟨index, -, occupied⟩
      exact occupied rfl
  · intro count _ _ isHeld
    cases isHeld
  · exact fun _ => rfl

/-- A pointer event that is not lost, with the geometry of the capturable. -/
structure PointerInput (F : Type*) where
  event : PointerEvent F
  geometry : Rect F
  now : Nat

/-- Touch events reach the device one after the other. -/
def touchStep (device : UInputDevice F) (input : PointerInput F) :
    Option (UInputDevice F) :=
  if input.event.pointerType = .touch then
    some (device.sendPointerEvent input.event (some input.geometry) input.now)
  else
    none

/-- The slots name different pointers and exist, the kernel sees a contact in
each that is occupied and in no other, and without any it sees no finger. -/
structure SlotsFaithful (device : UInputDevice F) : Prop where
  distinct : ∀ first second id, device.touches first = some id →
    device.touches second = some id → first = second
  slotRange : ∀ event ∈ device.touch, event.eventType = .absolute →
    event.code = ecAbsMtSlot → 0 ≤ event.value ∧ event.value ≤ 4
  contacts : ∀ slot : Int, device.touchState.trackingId slot ≠ -1 ↔
    ∃ index : Fin 5, slot = index ∧ device.touches index ≠ none
  released : (∀ slot, device.touches slot = none) →
    ∀ code ∈ [ecKeyTouch, ecKeyToolFinger, ecKeyToolDoubletap,
      ecKeyToolTripletap, ecKeyToolQuadtap, ecKeyToolQuinttap],
      device.touchState.held code = false

/-- A pointer keeps its slot through an event that does not release it. -/
def KeepsSlots (device : UInputDevice F) (input : PointerInput F) : Prop :=
  ∀ slot id, device.touches slot = some id →
    ¬ (input.event.pointerId = id ∧ input.event.eventType.isRelease = true) →
      ∀ next, device.touchStep input = some next →
        next.touches slot = some id

/-- A release leaves its pointer without a slot. -/
def FreesReleased (device : UInputDevice F) (input : PointerInput F) : Prop :=
  input.event.eventType.isRelease = true →
    ∀ next, device.touchStep input = some next →
      ∀ slot, next.touches slot ≠ some input.event.pointerId

/-- Any other event gives its pointer a slot if one is free. -/
def TakesFreeSlot (device : UInputDevice F) (input : PointerInput F) : Prop :=
  input.event.eventType.isRelease = false →
    (∃ slot, device.touches slot = none) →
      ∀ next, device.touchStep input = some next →
        ∃ slot, next.touches slot = some input.event.pointerId

omit [F64Convert F] in
theorem slotsFaithful_of_touchInvariant (holds : device.TouchInvariant) :
    device.SlotsFaithful := by
  refine ⟨holds.distinct, holds.slotRange, holds.contacts, ?_⟩
  intro empty code member
  have noneActive : device.activeCount = 0 := by
    simp [activeCount, empty]
  have noTool : ∀ count, 1 ≤ count → count ≤ 5 →
      device.touchState.held (toolKeyForTouchCount count) = false := by
    intro count one fits
    cases isHeld : device.touchState.held (toolKeyForTouchCount count) with
    | false => rfl
    | true =>
        have := holds.tools count one fits isHeld
        omega
  simp only [List.mem_cons, List.not_mem_nil, or_false] at member
  rcases member with rfl | rfl | rfl | rfl | rfl | rfl
  · exact holds.touchKey noneActive
  · exact noTool 1 (by decide) (by decide)
  · exact noTool 2 (by decide) (by decide)
  · exact noTool 3 (by decide) (by decide)
  · exact noTool 4 (by decide) (by decide)
  · exact noTool 5 (by decide) (by decide)

/-- A touch event is handled after the stale pen is cleared, which leaves
the slots alone. -/
theorem touchStep_cases {input : PointerInput F}
    (moved : device.touchStep input = some next) :
    ∃ cleared : UInputDevice F, cleared.touches = device.touches ∧
      cleared.touch = device.touch ∧
        cleared.sendTouchEvent input.event = next ∧
          cleared.TouchMove input.event next := by
  unfold touchStep at moved
  split at moved
  · rename_i isTouch
    cases moved
    obtain ⟨_, _, same⟩ := ({ device with
      geometry := input.geometry }).clearStalePenHover_frame input.now
    refine ⟨({ device with
      geometry := input.geometry }).clearStalePenHover input.now, ?_, ?_, ?_, ?_⟩
    · rw [same]
    · rw [same]
    · simp only [sendPointerEvent, isTouch]
    · simp only [sendPointerEvent, isTouch]
      exact touchMove_of_sendTouchEvent _ _
  · cases moved

theorem keepsSlots (device : UInputDevice F) (input : PointerInput F) :
    device.KeepsSlots input := by
  intro slot id occupied notReleased next moved
  obtain ⟨cleared, sameTouches, -, -, move⟩ := touchStep_cases moved
  rw [← sameTouches] at occupied
  cases move with
  | moved other found same emitted =>
      rw [same]
      exact occupied
  | began other isNew free taken emitted =>
      have different : slot ≠ other := by
        rintro rfl
        rw [free] at occupied
        cases occupied
      rw [taken, Function.update_of_ne different]
      exact occupied
  | ended other releases found freed emitted =>
      have different : slot ≠ other := by
        rintro rfl
        rw [found] at occupied
        cases occupied
        exact notReleased ⟨rfl, releases⟩
      rw [freed, Function.update_of_ne different]
      exact occupied
  | ignored same silent =>
      rw [same]
      exact occupied

theorem freesReleased (holds : device.TouchInvariant)
    (input : PointerInput F) : device.FreesReleased input := by
  intro releases next moved slot occupied
  obtain ⟨cleared, sameTouches, -, -, move⟩ := touchStep_cases moved
  cases move with
  | moved other found same emitted stays =>
      rw [releases] at stays
      cases stays
  | began other isNew free taken emitted stays =>
      rw [releases] at stays
      cases stays
  | ended other _ found freed emitted =>
      rw [sameTouches] at found
      rw [freed, sameTouches] at occupied
      by_cases same : slot = other
      · rw [same, Function.update_self] at occupied
        cases occupied
      · rw [Function.update_of_ne same] at occupied
        exact same (holds.distinct slot other _ occupied found)
  | ignored same silent missing _ =>
      rw [same] at occupied
      exact missing releases slot occupied

theorem takesFreeSlot (device : UInputDevice F) (input : PointerInput F) :
    device.TakesFreeSlot input := by
  rintro stays ⟨slot, isFree⟩ next moved
  obtain ⟨cleared, sameTouches, -, -, move⟩ := touchStep_cases moved
  rw [← sameTouches] at isFree
  cases move with
  | moved other found same emitted _ => exact ⟨other, by rw [same, found]⟩
  | began other isNew free taken emitted _ =>
      exact ⟨other, by rw [taken, Function.update_self]⟩
  | ended other releases found freed emitted =>
      rw [releases] at stays
      cases stays
  | ignored same silent _ full => exact absurd isFree (full stays slot)

/-- Multi-touch slots are faithful after any sequence of touch events.  Every
pointer gets a slot if one is free, and keeps it until it is released, when the
slot becomes free. -/
theorem slotsFaithful_along (now : Nat)
    (execution : Transition.Execution touchStep
      (new now : UInputDevice F)) :
    execution.Along SlotsFaithful ∧ execution.StepsMeet KeepsSlots ∧
      execution.StepsMeet FreesReleased ∧
      execution.StepsMeet TakesFreeSlot := by
  have invariant : ∀ taken device,
      Transition.run touchStep (new now : UInputDevice F) taken =
        some device → device.TouchInvariant := by
    intro taken device runs
    have reached : Transition.Reachable touchStep (new now) device :=
      ⟨taken, runs⟩
    apply reached.invariant
    · exact touchInvariant_new now
    · intro before input after holds moved
      obtain ⟨cleared, same, silent, -, move⟩ := touchStep_cases moved
      exact touchInvariant_of_touchMove
        (touchInvariant_of_eq holds same silent) move
  refine ⟨?_, ?_, ?_, ?_⟩
  · intro taken _ device _ runs
    exact slotsFaithful_of_touchInvariant (invariant taken device runs)
  · intro _ input _ device _ _
    exact keepsSlots device input
  · intro taken input _ device _ runs
    exact freesReleased (invariant taken device runs) input
  · intro _ input _ device _ _
    exact takesFreeSlot device input

/-- A touch in the middle of the screen. -/
def sampleTouch (eventType : PointerEventType) (id : Int64) :
    PointerInput ℚ where
  event := ⟨eventType, id, 0, true, .touch, .none, .none, 1 / 2, 1 / 2, 0, 0, 0,
    1 / 2, 0, 0, none, none⟩
  geometry := ⟨0, 0, 1, 1⟩
  now := 0

/-- Two fingers get a slot each, and the first one is lifted. -/
theorem slotsFaithful_along_tap :
    ∃ execution : Transition.Execution touchStep (new 0 : UInputDevice ℚ),
      execution.labels =
          [sampleTouch .down 1, sampleTouch .down 2, sampleTouch .up 1] ∧
        execution.final.SlotsFaithful ∧
        (List.finRange 5).map execution.final.touches =
          [none, some 2, none, none, none] := by
  have runs : (Transition.run touchStep (new 0 : UInputDevice ℚ)
      [sampleTouch .down 1, sampleTouch .down 2, sampleTouch .up 1]).map
        (fun final => (List.finRange 5).map final.touches) =
      some [none, some 2, none, none, none] := by
    decide
  obtain ⟨final, reaches, slots⟩ := Option.map_eq_some_iff.mp runs
  refine ⟨⟨_, final, reaches⟩, rfl, ?_, slots⟩
  exact (slotsFaithful_along 0 ⟨_, final, reaches⟩).1 _ [] final
    (List.append_nil _).symm reaches

end UInputDevice

end Rylus
