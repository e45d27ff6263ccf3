import Rylus.ServeStaleLogin
import Rylus.SocketTasks

/-!
# WebSockets across a rotation

A WebSocket on `/ws` is authorised once, by `is_authed` at its upgrade, and
its tasks never ask again.  The states here put any number of sockets beside
the requests of `ServeState`, and remember for every socket which rotations
cleared the session that authorised it.
-/

namespace Rylus

/-- Where a `GET /ws` stands: before `is_authed`, inside it, before the
handshake, or upgraded and served by its tasks. -/
inductive SocketStage (Token Number : Type*) where
  | arriving
  | authenticating (token : Token)
  | admitted (authorisedBy : Option Token)
  | upgraded (authorisedBy : Option Token) (tasks : SocketTasks Number)
  | refused

/-- The session whose validity admitted the socket; `none` also when no
access code was configured. -/
def SocketStage.authorisedBy {Token Number : Type*} :
    SocketStage Token Number → Option Token
  | .admitted token | .upgraded token _ => token
  | .arriving | .authenticating _ | .refused => none

structure SocketsState (Req Sock IpAddr Token Hash Number : Type*) where
  serve : ServeState Req IpAddr Token Hash
  sockets : Sock → SocketStage Token Number
  clearedBy : Sock → List Req

/-- A step of the requests, of one socket, or the arrival of a frame. -/
inductive SocketsStep (Req Sock Token Salt : Type*) where
  | serve (label : ServeStep Req Token Salt)
  | connect (sock : Sock) (cookie : Option Token)
  | lookUp (sock : Sock)
  | handshake (sock : Sock) (accepted : Bool)
  | arrive (sock : Sock) (frame : Frame)
  | task (sock : Sock) (label : TaskStep)

/-- The request has been answered. -/
def SettingsStage.isDone {Token : Type*} : SettingsStage Token → Bool
  | .done => true
  | _ => false

namespace SocketsState

variable {Req Sock IpAddr Token Salt Hash Number : Type*}

def start (accessCodeHash : Option Hash) (secureCookies : Bool)
    (configFile : Option Config) (now : Nat) :
    SocketsState Req Sock IpAddr Token Hash Number where
  serve := ServeState.start accessCodeHash secureCookies configFile now
  sockets := fun _ => .arriving
  clearedBy := fun _ => []

/-- A rotation that has been answered cleared the session that authorised
the socket. -/
def revoked (state : SocketsState Req Sock IpAddr Token Hash Number)
    (sock : Sock) : Bool :=
  (state.clearedBy sock).any fun req => (state.serve.settings req).isDone

/-- Clearing the store clears the sessions of these sockets. -/
def markCleared (state : SocketsState Req Sock IpAddr Token Hash Number) :
    ServeStep Req Token Salt → Sock → List Req
  | .clearSessions req, sock =>
      match (state.sockets sock).authorisedBy with
      | some token =>
          if (state.serve.context.sessionStore.tokens token).isSome then
            state.clearedBy sock ++ [req]
          else
            state.clearedBy sock
      | none => state.clearedBy sock
  | _, sock => state.clearedBy sock

def setSocket [DecidableEq Sock]
    (state : SocketsState Req Sock IpAddr Token Hash Number) (sock : Sock)
    (stage : SocketStage Token Number) :
    SocketsState Req Sock IpAddr Token Hash Number :=
  { state with sockets := Function.update state.sockets sock stage }

end SocketsState

section Steps

variable {Req Sock IpAddr Token Salt Hash Number : Type*}
variable [DecidableEq Req] [DecidableEq Sock] [DecidableEq IpAddr]
variable [DecidableEq Token]

open SocketsState

/-- One atomic step of the server with its sockets. -/
def socketsStep (env : ServeEnv Req IpAddr Salt Hash)
    (parse : String → Option (MessageInbound Number))
    (state : SocketsState Req Sock IpAddr Token Hash Number) :
    SocketsStep Req Sock Token Salt →
      Option (SocketsState Req Sock IpAddr Token Hash Number)
  | .serve label =>
      (serveStep env state.serve label).map fun serve =>
        { state with serve := serve, clearedBy := state.markCleared label }
  | .connect sock cookie =>
      match state.sockets sock with
      | .arriving =>
          match state.serve.context.startIsAuthed cookie with
          | .admitted => some (state.setSocket sock (.admitted none))
          | .refused => some (state.setSocket sock .refused)
          | .lookUp token =>
              some (state.setSocket sock (.authenticating token))
      | _ => none
  | .lookUp sock =>
      match state.sockets sock with
      | .authenticating token =>
          let (valid, store) :=
            state.serve.context.sessionStore.isValid token state.serve.now
          some ({ state with
            serve := state.serve.setContext { state.serve.context with
              sessionStore := store } }.setSocket sock
                (if valid then .admitted (some token) else .refused))
      | _ => none
  | .handshake sock accepted =>
      -- the Origin and handshake checks, and the upgrade itself
      match state.sockets sock with
      | .admitted token =>
          some (state.setSocket sock
            (if accepted then .upgraded token .new else .refused))
      | _ => none
  | .arrive sock frame =>
      match state.sockets sock with
      | .upgraded token tasks =>
          -- nothing arrives on a connection that has ended or that nobody
          -- reads any more
          if tasks.IsLive then
            some (state.setSocket sock (.upgraded token { tasks with
              incoming := tasks.incoming ++ [⟨frame, state.revoked sock⟩] }))
          else
            none
      | _ => none
  | .task sock label =>
      match state.sockets sock with
      | .upgraded token tasks =>
          (tasks.step parse label).map fun tasks =>
            state.setSocket sock (.upgraded token tasks)
      | _ => none

end Steps

namespace SocketsState

variable {Req Sock IpAddr Token Salt Hash Number : Type*}

/-- No handler call comes from a control message that arrived after the
session of its socket had been rotated away. -/
def ControlIsRevoked (state : SocketsState Req Sock IpAddr Token Hash Number) :
    Prop :=
  ∀ sock token tasks, state.sockets sock = .upgraded token tasks →
    ∀ call ∈ tasks.handled, call.revoked = true → ¬ call.content.IsControl

/-- No frame that arrives on a socket whose session has been rotated away
carries a control message. -/
def NoRevokedInput (parse : String → Option (MessageInbound Number))
    (state : SocketsState Req Sock IpAddr Token Hash Number) :
    SocketsStep Req Sock Token Salt → Prop
  | .arrive sock frame => state.revoked sock = true →
      ∀ message, frame.message? parse = some message → message.Harmless
  | _ => True

end SocketsState

/-- All steps but the arrival of a frame. -/
def SocketsStep.IsOwn {Req Sock Token Salt : Type*} :
    SocketsStep Req Sock Token Salt → Prop
  | .arrive _ _ => False
  | _ => True

namespace SocketTasks

variable {Number : Type*} {parse : String → Option (MessageInbound Number)}

/-- Nothing on its way to the handlers is a control message of a revoked
session. -/
structure Obedient (parse : String → Option (MessageInbound Number))
    (tasks : SocketTasks Number) : Prop where
  incoming : ∀ arrival ∈ tasks.incoming, arrival.revoked = true →
    ∀ message, arrival.content.message? parse = some message →
      message.Harmless
  inHand : ∀ arrival ∈ tasks.inHand, arrival.revoked = true →
    arrival.content.Harmless
  inbound : ∀ arrival ∈ tasks.inbound, arrival.revoked = true →
    arrival.content.Harmless
  handled : ∀ call ∈ tasks.handled, call.revoked = true →
    ¬ call.content.IsControl

theorem obedient_new : (new : SocketTasks Number).Obedient parse :=
  ⟨by simp [new], by simp [new, inHand], by simp [new], by simp [new]⟩

theorem Obedient.step {tasks next : SocketTasks Number} {label : TaskStep}
    (holds : tasks.Obedient parse)
    (taken : tasks.step parse label = some next) : next.Obedient parse := by
  obtain ⟨incomingOk, inHandOk, inboundOk, handledOk⟩ := holds
  cases move_of_step taken with
  | ends isEnd | skips goesOn =>
      exact ⟨fun other member => incomingOk other (by simp [member]),
        by simp [SocketTasks.inHand], inboundOk, handledOk⟩
  | carries goesOn carried =>
      refine ⟨fun other member => incomingOk other (by simp [member]), ?_,
        inboundOk, handledOk⟩
      intro other member revoked
      cases List.mem_singleton.mp member
      exact incomingOk _ (by simp) revoked _ carried
  | forwards =>
      refine ⟨incomingOk, by simp [SocketTasks.inHand], ?_, handledOk⟩
      intro other member
      rcases List.mem_append.mp member with old | new
      · exact inboundOk other old
      · exact inHandOk other new
  | handles =>
      refine ⟨incomingOk, inHandOk,
        fun other member => inboundOk other (by simp [member]), ?_⟩
      intro call member revoked
      rcases List.mem_append.mp member with old | new
      · exact handledOk call old revoked
      · obtain ⟨called, isCalled, rfl⟩ := List.mem_map.mp new
        exact inboundOk _ (by simp) revoked called isCalled
  | stops =>
      exact ⟨incomingOk, by simp [SocketTasks.inHand], inboundOk, handledOk⟩

end SocketTasks

/-! ### The tasks never ask again -/

section Revocation

variable {Req Sock IpAddr Token Salt Hash Number : Type*}
variable {parse : String → Option (MessageInbound Number)}

open SocketsState

/-- No socket has a control message of a revoked session on its way. -/
def SocketsState.Obedient (parse : String → Option (MessageInbound Number))
    (state : SocketsState Req Sock IpAddr Token Hash Number) : Prop :=
  ∀ sock token tasks, state.sockets sock = .upgraded token tasks →
    tasks.Obedient parse

theorem obedient_setSocket [DecidableEq Sock]
    {state : SocketsState Req Sock IpAddr Token Hash Number}
    (holds : state.Obedient parse) {sock : Sock}
    {stage : SocketStage Token Number}
    (new : ∀ token tasks, stage = .upgraded token tasks →
      tasks.Obedient parse) :
    (state.setSocket sock stage).Obedient parse := by
  intro other token tasks isUpgraded
  by_cases same : other = sock
  · subst same
    exact new token tasks (by simpa [setSocket] using isUpgraded)
  · exact holds other token tasks (by simpa [setSocket, same] using isUpgraded)

variable [DecidableEq Req] [DecidableEq Sock] [DecidableEq IpAddr]
variable [DecidableEq Token] {env : ServeEnv Req IpAddr Salt Hash}
variable {before after : SocketsState Req Sock IpAddr Token Hash Number}

theorem obedient_of_socketsStep {label : SocketsStep Req Sock Token Salt}
    (holds : before.Obedient parse)
    (harmless : before.NoRevokedInput parse label)
    (taken : socketsStep env parse before label = some after) :
    after.Obedient parse := by
  cases label with
  | serve label =>
      obtain ⟨serve, -, rfl⟩ := Option.map_eq_some_iff.mp taken
      exact holds
  | connect sock cookie =>
      simp only [socketsStep] at taken
      split at taken
      · split at taken <;> cases taken <;>
          exact obedient_setSocket holds (by simp)
      · cases taken
  | lookUp sock =>
      simp only [socketsStep] at taken
      split at taken
      · cases taken
        have kept : SocketsState.Obedient parse { before with
            serve := before.serve.setContext _ } := holds
        refine obedient_setSocket kept ?_
        intro token tasks isUpgraded
        split at isUpgraded <;> cases isUpgraded
      · cases taken
  | handshake sock accepted =>
      simp only [socketsStep] at taken
      split at taken
      · cases taken
        refine obedient_setSocket holds ?_
        intro token tasks isUpgraded
        split at isUpgraded <;> cases isUpgraded
        exact SocketTasks.obedient_new
      · cases taken
  | arrive sock frame =>
      simp only [socketsStep] at taken
      split at taken
      · rename_i token tasks stage
        split at taken
        · cases taken
          refine obedient_setSocket holds ?_
          rintro _ _ ⟨⟩
          obtain ⟨incoming, inHand, inbound, handled⟩ := holds sock _ _ stage
          refine ⟨?_, inHand, inbound, handled⟩
          intro arrival member revoked
          rcases List.mem_append.mp member with old | new
          · exact incoming arrival old revoked
          · cases List.mem_singleton.mp new
            exact harmless revoked
        · cases taken
      · cases taken
  | task sock label =>
      simp only [socketsStep] at taken
      split at taken
      · rename_i token tasks stage
        obtain ⟨next, moved, rfl⟩ := Option.map_eq_some_iff.mp taken
        refine obedient_setSocket holds ?_
        rintro _ _ ⟨⟩
        exact (holds sock _ _ stage).step moved
      · cases taken

/-- Steps of the tasks of one socket, run in the whole server. -/
theorem run_task (state : SocketsState Req Sock IpAddr Token Hash Number)
    (sock : Sock) (token : Option Token) (tasks : SocketTasks Number)
    (steps : List TaskStep) :
    Transition.run (socketsStep env parse)
        (state.setSocket sock (.upgraded token tasks))
        (steps.map (.task sock : TaskStep → SocketsStep Req Sock Token Salt)) =
      (Transition.run (SocketTasks.step parse) tasks steps).map
        fun final => state.setSocket sock (.upgraded token final) := by
  apply Transition.run_component (socketsStep env parse)
    (SocketTasks.step parse)
    (fun final => state.setSocket sock (.upgraded token final))
  intro part label
  simp [socketsStep, setSocket]

/-- A control message that arrives under a revoked session can reach its
handler without any further help from outside. -/
theorem exists_run_handles_revoked {sock : Sock} {frame : Frame}
    (taken : socketsStep env parse before
      (.arrive sock frame : SocketsStep Req Sock Token Salt) = some after)
    (revoked : before.revoked sock = true)
    {message : MessageInbound Number}
    (carries : frame.message? parse = some message)
    (controls : ¬ message.Harmless) :
    ∃ more state,
      (∀ label ∈ more, (label : SocketsStep Req Sock Token Salt).IsOwn) ∧
        Transition.run (socketsStep env parse) after more = some state ∧
          ¬ state.ControlIsRevoked := by
  simp only [socketsStep] at taken
  split at taken
  · rename_i token tasks stage
    split at taken
    · rename_i live
      cases taken
      obtain ⟨steps, final, delivered, handled⟩ :=
        SocketTasks.exists_run_handled parse { tasks with
            incoming := tasks.incoming ++ [⟨frame, before.revoked sock⟩] }
          live.1 rfl live.2 carries
      refine ⟨steps.map (.task sock),
        before.setSocket sock (.upgraded token final), ?_, ?_, ?_⟩
      · intro label member
        obtain ⟨step, -, rfl⟩ := List.mem_map.mp member
        exact trivial
      · rw [run_task, delivered]
        rfl
      · intro obeys
        refine controls fun call isCalled => ?_
        exact obeys sock token final (by simp [setSocket]) _
          (handled call isCalled) revoked
    · cases taken
  · cases taken

/-- A run keeps the server from handling control messages of a rotated-away
session, however it goes on by itself, exactly if no such message arrives. -/
theorem controlIsRevoked_iff_noRevokedInput (accessCodeHash : Option Hash)
    (secureCookies : Bool) (configFile : Option Config) (now : Nat)
    (execution : Transition.Execution
      (socketsStep env parse : _ → SocketsStep Req Sock Token Salt → _)
      (start accessCodeHash secureCookies configFile now :
        SocketsState Req Sock IpAddr Token Hash Number)) :
    execution.AlongContinuations SocketsStep.IsOwn ControlIsRevoked ↔
      execution.StepsMeet (NoRevokedInput parse) := by
  refine execution.alongContinuations_iff_stepsMeet
    (SocketsState.Obedient parse) ?_ ?_ ?_ ?_ ?_
  · intro sock token tasks isUpgraded
    cases isUpgraded
  · intro state holds sock token tasks isUpgraded
    exact (holds sock token tasks isUpgraded).handled
  · intro before label after holds harmless taken
    exact obedient_of_socketsStep holds harmless taken
  · intro state label isOwn
    cases label with
    | arrive sock frame => exact isOwn.elim
    | _ => exact trivial
  · intro before label after _ taken unguarded
    cases label with
    | arrive sock frame =>
        simp only [NoRevokedInput, not_forall] at unguarded
        obtain ⟨revoked, message, carries, controls⟩ := unguarded
        exact exists_run_handles_revoked taken revoked carries controls
    | _ => exact absurd trivial unguarded

end Revocation

/-! ### Input after a rotation -/

/-- Every text frame is a wheel event. -/
def parseWheel (_ : String) : Option (MessageInbound Nat) :=
  some (.wheelEvent ⟨0, 120, 0⟩)

/-- Request 0 logs in and its session opens the socket; request 1 rotates the
code from `old` to `new`; then the wheel turns. -/
def wheelAfterRotation : List (SocketsStep (Fin 2) Unit Nat Nat) :=
  [.serve (.cloneHash 0), .serve (.checkLockout 0),
    .serve (.readCode 0 (some (some "old"))), .serve (.verifyCode 0),
    .serve (.createSession 0 100),
    .connect () (some 100), .lookUp (), .handshake () true,
    .serve (.startSettings 1 (some 100)), .serve (.lookUpSession 1),
    .serve (.readUpdate 1 (some
      { bindAddress := none, webPort := none,
        accessCode := some (some "new"), tryVaapi := none,
        tryNvenc := none, waylandSupport := none })),
    .serve (.readConfig 1), .serve (.replaceHash 1 7),
    .serve (.clearSessions 1), .serve (.writeConfig 1 .written),
    .arrive () (.text "wheel"),
    .task () .receive, .task () .forward, .task () .handle]

theorem wheelAfterRotation_is_handled :
    ∃ state, Transition.run (socketsStep plainEnv parseWheel)
        (SocketsState.start (some (3, "old")) true none 0)
          wheelAfterRotation = some state ∧
      ¬ state.ControlIsRevoked := by
  have observed : (Transition.run (socketsStep plainEnv parseWheel)
      (SocketsState.start (some (3, "old")) true none 0)
        wheelAfterRotation).any (fun state =>
          match state.sockets () with
          | .upgraded _ tasks => decide (tasks.handled =
              [⟨.processWheelEvent ⟨0, 120, 0⟩, true⟩])
          | .arriving | .authenticating _ | .admitted _ | .refused => false) =
            true := by
    decide
  obtain ⟨state, reached, facts⟩ := (Option.any_eq_true _ _).mp observed
  refine ⟨state, reached, fun obeys => ?_⟩
  split at facts
  · rename_i token tasks stage
    have handled := of_decide_eq_true facts
    exact obeys () token tasks stage
      ⟨.processWheelEvent ⟨0, 120, 0⟩, true⟩ (by simp [handled]) rfl trivial
  all_goals cases facts

end Rylus
