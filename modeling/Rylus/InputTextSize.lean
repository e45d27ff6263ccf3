import Rylus.EncoderAgreement
import Rylus.JsonText
import Rylus.SocketTasks

/-!
# The size of pointer messages

The client sends all events coalesced into a pointer move as one text, however
many there are.  The server's WebSocket library reports a text that is larger
than `maxTextFrameSize` as a read error, and the reader task ends.
-/

namespace Rylus

variable (numeral : ℚ → String) (settings : InputSettings)

/-! ### How long a text is -/

/-- Bytes of the text of one pointer event: names and punctuation, then the
values. -/
def DomPointerEvent.size (eventType : PointerEventType) (rect : DomRect)
    (event : DomPointerEvent) : Nat :=
  167 + eventType.tag.utf8ByteSize + event.pointerType.tag.utf8ByteSize +
    (if event.isPrimary then 4 else 5) +
    ([event.pointerId.toInt, mathRound (event.timeStamp.millis * 1000),
      (domButton event.button).bits.toNat, event.buttons.toNat,
      event.tiltX.toInt, event.tiltY.toInt, event.twist.toInt].map
        fun value => (integerJson value).size numeral).sum +
    ([.quotient (event.clientX - rect.left) rect.width,
      .quotient (event.clientY - rect.top) rect.height,
      .finite (PEvent.pressureOf settings event),
      .quotient event.width (PEvent.diagonal settings rect),
      .quotient event.height (PEvent.diagonal settings rect)].map
        fun value : JsNumber => value.toJson.size numeral).sum

/-- Bytes of a message about the given events. -/
def pointerTextSize (eventType : PointerEventType) (rect : DomRect)
    (events : List DomPointerEvent) : Nat :=
  (events.map fun event =>
    event.size numeral settings eventType rect).sum +
      if 1 < events.length then events.length + 28 else 17

theorem DomPointerEvent.le_size (eventType : PointerEventType)
    (rect : DomRect) (event : DomPointerEvent) :
    167 ≤ event.size numeral settings eventType rect := by
  unfold DomPointerEvent.size
  omega

/-- However short the numbers are, a text grows with its events. -/
theorem le_pointerTextSize (eventType : PointerEventType) (rect : DomRect)
    (events : List DomPointerEvent) :
    167 * events.length ≤
      pointerTextSize numeral settings eventType rect events := by
  have atLeast : 167 * events.length ≤ (events.map fun event =>
      event.size numeral settings eventType rect).sum := by
    induction events with
    | nil => simp
    | cons event events ih =>
        have first := event.le_size numeral settings eventType rect
        rw [List.map_cons, List.sum_cons, List.length_cons]
        omega
  rw [pointerTextSize]
  omega

/-- The names in a pointer event have no characters to escape. -/
theorem size_toJson (sent : PEvent) :
    sent.toJson.size numeral =
      163 + (Json.quote sent.eventType).utf8ByteSize +
        (Json.quote sent.pointerType).utf8ByteSize +
        (if sent.isPrimary then 4 else 5) +
        ([sent.pointerId, sent.timestamp, sent.button, sent.buttons,
          sent.tiltX, sent.tiltY, sent.twist].map
            fun value => (integerJson value).size numeral).sum +
        ([sent.x, sent.y, .finite sent.pressure, sent.width, sent.height].map
          fun value : JsNumber => value.toJson.size numeral).sum := by
  have names : (["event_type", "pointer_id", "timestamp", "is_primary",
      "pointer_type", "button", "buttons", "x", "y", "pressure", "tilt_x",
      "tilt_y", "width", "height", "twist"].map fun name =>
        (Json.quote name).utf8ByteSize) =
      [12, 12, 11, 12, 14, 8, 9, 3, 3, 10, 8, 8, 7, 8, 7] := by
    decide
  simp only [List.map_cons, List.map_nil, List.cons.injEq, and_true] at names
  rw [PEvent.toJson, Json.size_object]
  simp only [Json.membersSize, List.map_cons, List.map_nil, List.sum_cons,
    List.sum_nil, List.length_cons, List.length_nil, Json.size_string,
    Json.size_bool, names]
  omega

theorem size_pEvent (eventType : PointerEventType) (rect : DomRect)
    (event : DomPointerEvent) :
    (PEvent.new settings (listenerEventType eventType) event
      rect).toJson.size numeral =
        event.size numeral settings eventType rect := by
  have quotedType : (Json.quote (listenerEventType eventType)).utf8ByteSize =
      eventType.tag.utf8ByteSize + 2 := by
    cases eventType <;> decide
  have quotedPointer : (Json.quote (domPointerType
      event.pointerType)).utf8ByteSize =
        event.pointerType.tag.utf8ByteSize + 2 := by
    cases event.pointerType <;> decide
  have sameButton : PEvent.buttonBit event.button =
      ((domButton event.button).bits.toNat : Int) := by
    obtain ⟨above, below⟩ := event.buttonDefined
    generalize event.button = button at above below
    interval_cases button <;> rfl
  rw [size_toJson]
  simp only [PEvent.new, quotedType, quotedPointer, sameButton,
    DomPointerEvent.size, computeNormalizedCoord]
  omega

/-- The text has the size computed from the events. -/
theorem size_message {eventType : PointerEventType}
    {events : List DomPointerEvent} {rect : DomRect} {json : Json ℚ}
    (sends : PointerHandler.message settings (listenerEventType eventType)
      events rect = some json) :
    json.size numeral =
      pointerTextSize numeral settings eventType rect events := by
  unfold PointerHandler.message at sends
  split at sends
  · rename_i several
    cases sends
    have name : (Json.quote "batched_pointer_events").utf8ByteSize = 24 := by
      decide
    rw [Json.size_tagged, Json.size_array, name, List.map_map,
      List.length_map, pointerTextSize, if_pos several]
    simp only [Function.comp_def, size_pEvent]
    omega
  · rename_i single
    have name : (Json.quote "PointerEvent").utf8ByteSize = 14 := by
      decide
    cases events with
    | nil => cases sends
    | cons event events =>
        cases events with
        | nil =>
            cases sends
            rw [Json.size_tagged, name, size_pEvent, pointerTextSize,
              if_neg single]
            simp only [List.map_cons, List.map_nil, List.sum_cons,
              List.sum_nil]
            omega
        | cons second events => simp at single

/-! ### A session with a client that sends pointer input -/

/-- The handler forwards this type, and no pen has locked out touches. -/
def PointerHandler.Accepts (handler : PointerHandler)
    (pointerType : PointerType) (now : Nat) : Prop :=
  handler.pointerTypes.contains (domPointerType pointerType) = true ∧
    ¬ (settings.enablePalmRejection = true ∧ settings.enableStylus = true ∧
      pointerType = .touch ∧ handler.shouldRejectTouch now = true)

/-- What the handler does with an event it accepts, and that it ignores any
other. -/
theorem PointerHandler.onEvent_snd (handler : PointerHandler)
    (dispatch : PointerDispatch) (eventType : String) (now : Nat) :
    (handler.Accepts settings dispatch.event.pointerType now →
      (handler.onEvent settings dispatch eventType now).2 =
        message settings eventType (sourceEvents eventType dispatch)
          dispatch.targetRect) ∧
    (¬ handler.Accepts settings dispatch.event.pointerType now →
      (handler.onEvent settings dispatch eventType now).2 = none) := by
  have isTouch : domPointerType dispatch.event.pointerType = "touch" ↔
      dispatch.event.pointerType = .touch := by
    cases dispatch.event.pointerType <;> decide
  unfold Accepts onEvent
  simp only [isTouch]
  constructor
  · rintro ⟨forwarded, free⟩
    rw [if_pos forwarded, if_neg]
    rintro ⟨active, same, locked⟩
    rw [Bool.and_eq_true] at active
    exact free ⟨active.1, active.2, same, locked⟩
  · intro refused
    split
    · rename_i forwarded
      rw [if_pos]
      by_contra free
      refine refused ⟨forwarded, fun locked => free ?_⟩
      exact ⟨by simp [locked.1, locked.2.1], locked.2.2.1, locked.2.2.2⟩
    · rfl

/-- The frame the WebSocket library makes of a text: an error when the text is
larger than `max_message_size`. -/
def deliver (text : String) : Frame :=
  if maxTextFrameSize < text.utf8ByteSize then .error else .text text

structure PointerSession where
  handler : PointerHandler
  sent : List String
  tasks : SocketTasks ℚ

inductive PointerSessionStep where
  | input (eventType : PointerEventType) (dispatch : PointerDispatch)
      (now : Nat)
  | receive
  | forward
  | handle

namespace PointerSession

variable (parse : String → Option (MessageInbound ℚ))

def new (handler : PointerHandler) : PointerSession where
  handler := handler
  sent := []
  tasks := SocketTasks.new

/-- A step of the tasks on the server.  The reader is never ended from
outside, by a shutdown or a time-out. -/
def serverStep (session : PointerSession) (taskStep : TaskStep) :
    Option PointerSession :=
  (session.tasks.step parse taskStep).map fun tasks =>
    { session with tasks := tasks }

def step (session : PointerSession) :
    PointerSessionStep → Option PointerSession
  | .input eventType dispatch now =>
      let (handler, message) := session.handler.onEvent settings dispatch
        (listenerEventType eventType) now
      match message with
      | some json =>
          let text := json.stringify numeral
          some {
            handler := handler
            sent := session.sent ++ [text]
            tasks := { session.tasks with
              incoming := session.tasks.incoming ++ [⟨deliver text, false⟩] } }
      | none => some { session with handler := handler }
  | .receive => session.serverStep parse .receive
  | .forward => session.serverStep parse .forward
  | .handle => session.serverStep parse .handle

/-- No text sent is too large, and the server's reader task goes on. -/
def Unharmed (session : PointerSession) : Prop :=
  (∀ text ∈ session.sent, text.utf8ByteSize ≤ maxTextFrameSize) ∧
    session.tasks.reader.isEnded = false

/-- The events that an accepted event stands for fit into one text. -/
def InputFits (session : PointerSession) : PointerSessionStep → Prop
  | .input eventType dispatch now =>
      session.handler.Accepts settings dispatch.event.pointerType now →
        pointerTextSize numeral settings eventType dispatch.targetRect
            (PointerHandler.sourceEvents (listenerEventType eventType)
              dispatch) ≤
          maxTextFrameSize
  | .receive | .forward | .handle => True

/-- The server reads what was sent. -/
def ReadsSent (session : PointerSession) : Prop :=
  ∀ arrival ∈ session.tasks.incoming,
    ∃ text ∈ session.sent, arrival.content = deliver text

/-- What a step of the session is. -/
inductive Move (session next : PointerSession) :
    PointerSessionStep → Prop
  | sent (eventType : PointerEventType) (dispatch : PointerDispatch)
      (now : Nat) (json : Json ℚ)
      (accepted : session.handler.Accepts settings
        dispatch.event.pointerType now)
      (isMessage : PointerHandler.message settings
        (listenerEventType eventType)
        (PointerHandler.sourceEvents (listenerEventType eventType) dispatch)
        dispatch.targetRect = some json)
      (grows : next.sent = session.sent ++ [json.stringify numeral])
      (arrives : next.tasks = { session.tasks with
        incoming := session.tasks.incoming ++
          [⟨deliver (json.stringify numeral), false⟩] }) :
      Move session next (.input eventType dispatch now)
  | silent (eventType : PointerEventType) (dispatch : PointerDispatch)
      (now : Nat)
      (nothing : session.handler.Accepts settings
          dispatch.event.pointerType now →
        PointerHandler.sourceEvents (listenerEventType eventType)
          dispatch = [])
      (sameSent : next.sent = session.sent)
      (sameTasks : next.tasks = session.tasks) :
      Move session next (.input eventType dispatch now)
  | server (label : PointerSessionStep) (taskStep : TaskStep)
      (isServer : session.InputFits numeral settings label)
      (own : taskStep ≠ .endReader)
      (taken : session.tasks.step parse taskStep = some next.tasks)
      (sameSent : next.sent = session.sent) :
      Move session next label

variable {numeral settings parse} {session next : PointerSession}

/-- The tasks take frames and never put any back. -/
theorem incoming_of_step {tasks next : SocketTasks ℚ} {taskStep : TaskStep}
    (taken : tasks.step parse taskStep = some next) :
    ∀ arrival ∈ next.incoming, arrival ∈ tasks.incoming := by
  cases SocketTasks.move_of_step taken with
  | ends | carries | skips =>
      exact fun _ member => List.mem_cons_of_mem _ member
  | forwards | handles | stops => exact fun _ member => member

/-- Only a frame that ends it, or the outside, ends the reader. -/
theorem isEnded_of_step {tasks next : SocketTasks ℚ} {taskStep : TaskStep}
    (live : tasks.IsLive) (own : taskStep ≠ .endReader)
    (taken : tasks.step parse taskStep = some next) :
    next.reader.isEnded = false := by
  obtain ⟨reads, goesOn⟩ := live
  cases SocketTasks.move_of_step taken with
  | ends isEnd => exact absurd isEnd (goesOn _ List.mem_cons_self)
  | carries | skips | forwards => rfl
  | handles => exact reads
  | stops => exact absurd rfl own

theorem move_of_step {label : PointerSessionStep}
    (taken : session.step numeral settings parse label = some next) :
    session.Move numeral settings parse next label := by
  have ofServer : ∀ taskStep, taskStep ≠ .endReader →
      session.InputFits numeral settings label →
      session.serverStep parse taskStep = some next →
        session.Move numeral settings parse next label := by
    intro taskStep own isServer steps
    obtain ⟨tasks, stepped, rfl⟩ := Option.map_eq_some_iff.mp steps
    exact .server label taskStep isServer own stepped rfl
  cases label with
  | input eventType dispatch now =>
      obtain ⟨whenAccepted, whenRefused⟩ := session.handler.onEvent_snd
        settings dispatch (listenerEventType eventType) now
      simp only [step] at taken
      split at taken
      · rename_i json sends
        by_cases accepted : session.handler.Accepts settings
            dispatch.event.pointerType now
        · cases taken
          exact .sent eventType dispatch now json accepted
            ((whenAccepted accepted).symm.trans sends) rfl rfl
        · rw [whenRefused accepted] at sends
          cases sends
      · rename_i sends
        cases taken
        refine .silent eventType dispatch now ?_ rfl rfl
        intro accepted
        have isSome := message_isSome settings (listenerEventType eventType)
          (PointerHandler.sourceEvents (listenerEventType eventType) dispatch)
          dispatch.targetRect
        rw [← whenAccepted accepted, sends] at isSome
        by_contra several
        cases isSome.mpr several
  | receive => exact ofServer .receive (by simp) trivial taken
  | forward => exact ofServer .forward (by simp) trivial taken
  | handle => exact ofServer .handle (by simp) trivial taken

/-- Whatever has arrived was sent. -/
theorem readsSent_of_move {label : PointerSessionStep}
    (reads : session.ReadsSent)
    (move : session.Move numeral settings parse next label) :
    next.ReadsSent := by
  intro arrival member
  cases move with
  | sent eventType dispatch now json accepted isMessage grows arrives =>
      rw [arrives] at member
      rw [grows]
      rcases List.mem_append.mp member with before | new
      · obtain ⟨text, isSent, same⟩ := reads arrival before
        exact ⟨text, List.mem_append_left _ isSent, same⟩
      · rw [List.mem_singleton.mp new]
        exact ⟨_, by simp, rfl⟩
  | silent eventType dispatch now nothing sameSent sameTasks =>
      rw [sameTasks] at member
      rw [sameSent]
      exact reads arrival member
  | server _ taskStep isServer own taken sameSent =>
      rw [sameSent]
      exact reads arrival (incoming_of_step taken arrival member)

/-- A reader that reads only what fits goes on. -/
theorem Unharmed.isLive (unharmed : session.Unharmed)
    (reads : session.ReadsSent) : session.tasks.IsLive := by
  refine ⟨unharmed.2, ?_⟩
  intro arrival member
  obtain ⟨text, isSent, same⟩ := reads arrival member
  have fits := unharmed.1 text isSent
  rw [same, deliver, if_neg (by omega)]
  exact id

/-- A step keeps the session unharmed exactly if the input fits. -/
theorem unharmed_iff_inputFits {label : PointerSessionStep}
    (reads : session.ReadsSent) (unharmed : session.Unharmed)
    (move : session.Move numeral settings parse next label) :
    next.Unharmed ↔ session.InputFits numeral settings label := by
  cases move with
  | sent eventType dispatch now json accepted isMessage grows arrives =>
      have size : (json.stringify numeral).utf8ByteSize =
          pointerTextSize numeral settings eventType dispatch.targetRect
            (PointerHandler.sourceEvents (listenerEventType eventType)
              dispatch) :=
        size_message numeral settings isMessage
      constructor
      · intro after _
        rw [← size]
        exact after.1 _ (by simp [grows])
      · intro fits
        constructor
        · intro text isSent
          rw [grows] at isSent
          rcases List.mem_append.mp isSent with before | new
          · exact unharmed.1 text before
          · rw [List.mem_singleton.mp new, size]
            exact fits accepted
        · rw [arrives]
          exact unharmed.2
  | silent eventType dispatch now nothing sameSent sameTasks =>
      apply iff_of_true
      · exact ⟨by rw [sameSent]; exact unharmed.1,
          by rw [sameTasks]; exact unharmed.2⟩
      · intro accepted
        rw [nothing accepted]
        simp [pointerTextSize, maxTextFrameSize]
  | server _ taskStep isServer own taken sameSent =>
      refine iff_of_true ⟨by rw [sameSent]; exact unharmed.1, ?_⟩ isServer
      exact isEnded_of_step (unharmed.isLive reads) own taken

theorem reachable_readsSent {handler : PointerHandler}
    (reached : Transition.Reachable (step numeral settings parse)
      (new handler) session) : session.ReadsSent := by
  apply reached.invariant
  · intro arrival member
    cases member
  · intro before label after reads taken
    exact readsSent_of_move reads (move_of_step taken)

/-- Pointer input does not harm the session as long as every batch of events
fits into a text. -/
theorem unharmed_along_iff (handler : PointerHandler)
    (execution : Transition.Execution (step numeral settings parse)
      (new handler)) :
    execution.Along Unharmed ↔
      execution.StepsMeet (InputFits numeral settings) := by
  apply execution.along_iff_stepsMeet
  · constructor
    · intro text isSent
      cases isSent
    · rfl
  · intro before label after reached unharmed taken
    exact unharmed_iff_inputFits (reachable_readsSent reached) unharmed
      (move_of_step taken)

/-- A text that is too large ends the reader task of a new session. -/
theorem exists_run_ended {handler : PointerHandler}
    {eventType : PointerEventType} {dispatch : PointerDispatch} {now : Nat}
    {json : Json ℚ}
    (sends : (handler.onEvent settings dispatch
      (listenerEventType eventType) now).2 = some json)
    (large : maxTextFrameSize < (json.stringify numeral).utf8ByteSize) :
    ∃ session, Transition.run (step numeral settings parse) (new handler)
        [.input eventType dispatch now, .receive] = some session ∧
      session.sent = [json.stringify numeral] ∧
        session.tasks.reader = .ended := by
  have isError : deliver (json.stringify numeral) = .error := if_pos large
  have ends : Frame.error.EndsReading := trivial
  cases handled : handler.onEvent settings dispatch
      (listenerEventType eventType) now with
  | mk moved message =>
      rw [handled] at sends
      cases sends
      refine ⟨⟨moved, [json.stringify numeral], ⟨.ended, [], [], []⟩⟩, ?_,
        rfl, rfl⟩
      simp [step, new, handled, serverStep, SocketTasks.step,
        SocketTasks.new, isError, ends]

/-- The settings of a client without a pressure curve. -/
def plainSettings : InputSettings := ⟨0, .linear, true, false, fun _ => 500⟩

/-- Four hundred events of a pen, coalesced while the page was busy. -/
def stalledStroke : PointerDispatch where
  event := sampleStroke
  coalesced := some (List.replicate 400 sampleStroke)
  targetRect := ⟨10, 10, 400, 300⟩

/-- One pen stroke after a stall ends the reader task. -/
theorem not_unharmed_after_stall :
    ∃ session, Transition.run
        (step (fun _ => "0.5") plainSettings fun _ => none)
        (new ⟨["pen"], 0⟩) [.input .move stalledStroke 0, .receive] =
          some session ∧
      (∃ text ∈ session.sent, maxTextFrameSize < text.utf8ByteSize) ∧
        session.tasks.reader = .ended := by
  have accepted : (⟨["pen"], 0⟩ : PointerHandler).Accepts plainSettings
      stalledStroke.event.pointerType 0 :=
    ⟨rfl, fun locked => by cases locked.1⟩
  have source : PointerHandler.sourceEvents (listenerEventType .move)
      stalledStroke = List.replicate 400 sampleStroke :=
    if_pos rfl
  have isSome := (message_isSome plainSettings (listenerEventType .move)
    (List.replicate 400 sampleStroke) stalledStroke.targetRect).mpr
      (by rw [Ne, List.replicate_eq_nil_iff]; decide)
  obtain ⟨json, isMessage⟩ := Option.isSome_iff_exists.mp isSome
  have sends : ((⟨["pen"], 0⟩ : PointerHandler).onEvent plainSettings
      stalledStroke (listenerEventType .move) 0).2 = some json := by
    rw [(PointerHandler.onEvent_snd plainSettings ⟨["pen"], 0⟩ stalledStroke
      (listenerEventType .move) 0).1 accepted, source, isMessage]
  have large : maxTextFrameSize <
      (json.stringify fun _ => "0.5").utf8ByteSize := by
    have size := size_message (fun _ => "0.5") plainSettings isMessage
    rw [Json.size] at size
    rw [size]
    have grows := le_pointerTextSize (fun _ => "0.5") plainSettings .move
      stalledStroke.targetRect (List.replicate 400 sampleStroke)
    rw [List.length_replicate] at grows
    exact lt_of_lt_of_le (by decide) grows
  obtain ⟨session, runs, sent, ended⟩ := exists_run_ended sends large
  exact ⟨session, runs, ⟨_, by rw [sent]; exact List.mem_singleton_self _,
    large⟩, ended⟩

end PointerSession

end Rylus
