import Rylus.BrowserEvents
import Rylus.LabelledExecution

/-!
# Round-trip times from heartbeats

The page measures a round trip from the time it last sent a `Heartbeat` to
the arrival of a `HeartbeatAck`, whichever heartbeat that one answers.
Connections deliver in order and lose what is in flight when they close.  The
time each message in flight carries is the one at which its heartbeat was sent;
no step looks at it, nor at the list of round trips.
-/

namespace Rylus

/-- The telemetry variables of the page; times are in milliseconds. -/
structure RttTelemetry where
  lastHeartbeatSentAt : Option ℚ
  currentRttMs : Option ℚ
  rttSamples : List ℚ

structure Heartbeat where
  sentAt : ℚ

structure HeartbeatAck where
  serverTsMs : Nat
  sentAt : ℚ

inductive ReadyState where
  | connecting
  | open
  | closed
  deriving DecidableEq

/-- A page with its active WebSocket, which is the first one or a later one,
the time its heartbeat timer is due, the messages in flight, and the sending
and receiving times of the round trips so far. -/
structure HeartbeatPage where
  now : ℚ
  telemetry : RttTelemetry
  readyState : ReadyState
  isFirst : Bool
  heartbeatTimer : Option ℚ
  toServer : List Heartbeat
  toClient : List HeartbeatAck
  roundTrips : List (ℚ × ℚ)

/-- Time passes, the socket opens or closes, the page makes a new one, the
timer fires, the server answers a heartbeat, an answer arrives. -/
inductive HeartbeatStep where
  | elapse (millis : ℚ)
  | opened
  | closed
  | reconnect
  | tick
  | serve (serverTsMs : Nat)
  | receive

/-- `HEARTBEAT_INTERVAL`. -/
def heartbeatInterval : ℚ := 5000

namespace HeartbeatPage

def start (now : ℚ) : HeartbeatPage where
  now := now
  telemetry := ⟨none, none, []⟩
  readyState := .connecting
  isFirst := true
  heartbeatTimer := none
  toServer := []
  toClient := []
  roundTrips := []

/-- `send_heartbeat`; `wsSend` drops what an open socket does not take. -/
def sendHeartbeat (page : HeartbeatPage) : HeartbeatPage :=
  { page with
    telemetry :=
      { page.telemetry with lastHeartbeatSentAt := some page.now }
    toServer :=
      if page.readyState = .open then page.toServer ++ [⟨page.now⟩]
      else page.toServer }

/-- `start_heartbeat`. -/
def startHeartbeat (page : HeartbeatPage) : HeartbeatPage :=
  { page.sendHeartbeat with
    heartbeatTimer := some (page.now + heartbeatInterval) }

/-- `on_heartbeat_ack`, and the `rtt_ms` of the `ClientRtt` it sends. -/
def onHeartbeatAck (page : HeartbeatPage) : HeartbeatPage × Option Int :=
  match page.telemetry.lastHeartbeatSentAt with
  | none => (page, none)
  | some sentAt =>
      let rtt := page.now - sentAt
      let samples := page.telemetry.rttSamples ++ [rtt]
      ({ page with
        telemetry :=
          { lastHeartbeatSentAt := none
            currentRttMs := some rtt
            rttSamples :=
              if 8 < samples.length then samples.tail else samples } },
        if page.readyState = .open then some (mathRound rtt) else none)

def step (page : HeartbeatPage) : HeartbeatStep → Option HeartbeatPage
  | .elapse millis =>
      if 0 ≤ millis then some { page with now := page.now + millis } else none
  | .opened =>
      match page.readyState with
      | .connecting => some { page with readyState := .open }.startHeartbeat
      | .open | .closed => none
  | .closed =>
      match page.readyState with
      | .connecting | .open =>
          some { page with
            readyState := .closed
            -- only the first socket's handler stops the timer
            heartbeatTimer := if page.isFirst then none
              else page.heartbeatTimer
            toServer := []
            toClient := [] }
      | .closed => none
  | .reconnect =>
      match page.readyState with
      | .closed => some { page with readyState := .connecting, isFirst := false }
      | .connecting | .open => none
  | .tick =>
      match page.heartbeatTimer with
      | some due =>
          if due ≤ page.now then
            some { page.sendHeartbeat with
              heartbeatTimer := some (page.now + heartbeatInterval) }
          else none
      | none => none
  | .serve serverTsMs =>
      match page.toServer with
      | heartbeat :: rest =>
          some { page with
            toServer := rest
            toClient :=
              page.toClient ++ [⟨serverTsMs, heartbeat.sentAt⟩] }
      | [] => none
  | .receive =>
      match page.toClient with
      | ack :: rest =>
          some { page.onHeartbeatAck.1 with
            toClient := rest
            roundTrips := page.roundTrips ++ [(ack.sentAt, page.now)] }
      | [] => none

/-! ### What is reported -/

/-- Every round-trip time that is sent is that of some heartbeat, from its
sending to the arrival of its acknowledgement, rounded. -/
def ReportsReal (page : HeartbeatPage) : HeartbeatStep → Prop
  | .receive => ∀ rtt next, page.onHeartbeatAck.2 = some rtt →
      page.step .receive = some next →
        ∃ trip ∈ next.roundTrips, rtt = mathRound (trip.2 - trip.1)
  | _ => True

/-- Every round-trip time that is sent is that of the heartbeat whose
acknowledgement has just arrived. -/
def ReportsOwn (page : HeartbeatPage) : HeartbeatStep → Prop
  | .receive => ∀ rtt ack rest, page.onHeartbeatAck.2 = some rtt →
      page.toClient = ack :: rest → rtt = mathRound (page.now - ack.sentAt)
  | _ => True

/-- An acknowledgement that arrives while one is awaited is that of the last
heartbeat sent. -/
def AnswersLast (page : HeartbeatPage) : HeartbeatStep → Prop
  | .receive => ∀ ack rest sentAt, page.toClient = ack :: rest →
      page.telemetry.lastHeartbeatSentAt = some sentAt → ack.sentAt = sentAt
  | _ => True

/-- When the heartbeats in flight were sent. -/
def inFlight (page : HeartbeatPage) : List ℚ :=
  page.toServer.map (·.sentAt) ++ page.toClient.map (·.sentAt)

/-- Only an open socket has heartbeats in flight, each sent an interval
before the last one and before the timer is due. -/
structure Spaced (page : HeartbeatPage) : Prop where
  quiet : page.readyState ≠ .open → page.inFlight = []
  last : ∀ sentAt ∈ page.inFlight, ∀ last,
    page.telemetry.lastHeartbeatSentAt = some last →
      sentAt = last ∨ sentAt + heartbeatInterval ≤ last
  due : ∀ sentAt ∈ page.inFlight, ∀ due, page.heartbeatTimer = some due →
    sentAt + heartbeatInterval ≤ due

variable {page next : HeartbeatPage}

theorem spaced_of_inFlight_nil (empty : page.inFlight = []) : page.Spaced := by
  constructor <;> simp [empty]

/-- Heartbeats may leave, and the last one may have been acknowledged. -/
theorem Spaced.shrink (spaced : page.Spaced)
    (readyState : next.readyState = page.readyState)
    (fewer : ∀ sentAt ∈ next.inFlight, sentAt ∈ page.inFlight)
    (last : ∀ sentAt, next.telemetry.lastHeartbeatSentAt = some sentAt →
      page.telemetry.lastHeartbeatSentAt = some sentAt)
    (timer : next.heartbeatTimer = page.heartbeatTimer) : next.Spaced := by
  constructor
  · intro notOpen
    rw [readyState] at notOpen
    rw [List.eq_nil_iff_forall_not_mem]
    intro sentAt member
    have left := fewer sentAt member
    rw [spaced.quiet notOpen] at left
    cases left
  · exact fun sentAt member time isLast =>
      spaced.last sentAt (fewer sentAt member) time (last time isLast)
  · rw [timer]
    exact fun sentAt member => spaced.due sentAt (fewer sentAt member)

/-- A heartbeat is sent when all others were sent an interval before. -/
theorem Spaced.send (spaced : page.Spaced)
    (past : ∀ sentAt ∈ page.inFlight,
      sentAt + heartbeatInterval ≤ page.now) :
    page.startHeartbeat.Spaced := by
  have flight : ∀ sentAt ∈ page.startHeartbeat.inFlight,
      sentAt = page.now ∨ sentAt + heartbeatInterval ≤ page.now := by
    intro sentAt member
    simp only [startHeartbeat, sendHeartbeat, inFlight] at member
    split_ifs at member
    · simp only [List.map_append, List.append_assoc, List.mem_append,
        List.map_singleton, List.mem_singleton] at member
      rcases member with sent | isNow | answered
      · exact .inr (past sentAt (List.mem_append_left _ sent))
      · exact .inl isNow
      · exact .inr (past sentAt (List.mem_append_right _ answered))
    · exact .inr (past sentAt member)
  constructor
  · intro notOpen
    have closed : page.readyState ≠ .open := notOpen
    simpa [startHeartbeat, sendHeartbeat, inFlight, closed] using
      spaced.quiet closed
  · rintro sentAt member last ⟨⟩
    exact flight sentAt member
  · rintro sentAt member due ⟨⟩
    rcases flight sentAt member with rfl | earlier
    · exact le_rfl
    · have positive : (0 : ℚ) ≤ heartbeatInterval := by
        norm_num [heartbeatInterval]
      linarith

theorem Spaced.kept {label : HeartbeatStep} (spaced : page.Spaced)
    (taken : page.step label = some next) : next.Spaced := by
  cases label with
  | elapse millis =>
      simp only [step] at taken
      split_ifs at taken
      cases taken
      exact spaced.shrink rfl (fun _ => id) (fun _ => id) rfl
  | opened =>
      cases ready : page.readyState with
      | connecting =>
          have quiet : page.inFlight = [] := spaced.quiet (by simp [ready])
          simp only [step, ready, Option.some.injEq] at taken
          subst taken
          refine Spaced.send (spaced_of_inFlight_nil ?_) ?_
          · exact quiet
          intro sentAt member
          change sentAt ∈ page.inFlight at member
          rw [quiet] at member
          cases member
      | «open» => simp [step, ready] at taken
      | closed => simp [step, ready] at taken
  | closed =>
      have emptied : next.inFlight = [] := by
        simp only [step] at taken
        split at taken <;> cases taken <;> rfl
      exact spaced_of_inFlight_nil emptied
  | reconnect =>
      cases ready : page.readyState with
      | connecting => simp [step, ready] at taken
      | «open» => simp [step, ready] at taken
      | closed =>
          have quiet : page.inFlight = [] := spaced.quiet (by simp [ready])
          simp only [step, ready, Option.some.injEq] at taken
          subst taken
          exact spaced_of_inFlight_nil quiet
  | tick =>
      cases timer : page.heartbeatTimer with
      | none => simp [step, timer] at taken
      | some due =>
          simp only [step, timer, Option.ite_none_right_eq_some,
            Option.some.injEq] at taken
          obtain ⟨isDue, rfl⟩ := taken
          apply Spaced.send spaced
          intro sentAt member
          exact (spaced.due sentAt member due timer).trans isDue
  | serve serverTsMs =>
      cases sent : page.toServer with
      | nil => simp [step, sent] at taken
      | cons heartbeat rest =>
          simp only [step, sent, Option.some.injEq] at taken
          subst taken
          refine spaced.shrink rfl ?_ (fun _ => id) rfl
          intro sentAt member
          simp only [inFlight, sent, List.map_append, List.map_cons,
            List.map_nil, List.mem_append, List.mem_cons] at member ⊢
          tauto
  | receive =>
      cases answers : page.toClient with
      | nil => simp [step, answers] at taken
      | cons ack rest =>
          simp only [step, answers, Option.some.injEq] at taken
          subst taken
          have ready : page.onHeartbeatAck.1.readyState = page.readyState := by
            rw [onHeartbeatAck]
            split <;> rfl
          have timer : page.onHeartbeatAck.1.heartbeatTimer =
              page.heartbeatTimer := by
            rw [onHeartbeatAck]
            split <;> rfl
          have toServer : page.onHeartbeatAck.1.toServer = page.toServer := by
            rw [onHeartbeatAck]
            split <;> rfl
          refine spaced.shrink ready ?_ ?_ timer
          · intro sentAt member
            simp only [inFlight, toServer, answers, List.map_cons,
              List.mem_append, List.mem_cons] at member ⊢
            tauto
          · intro sentAt awaited
            dsimp only [onHeartbeatAck] at awaited
            split at awaited
            · exact awaited
            · cases awaited

/-- What is reported when an acknowledgement arrives. -/
theorem onHeartbeatAck_eq_some {rtt : Int}
    (reported : page.onHeartbeatAck.2 = some rtt) :
    ∃ sentAt, page.telemetry.lastHeartbeatSentAt = some sentAt ∧
      rtt = mathRound (page.now - sentAt) := by
  dsimp only [onHeartbeatAck] at reported
  split at reported
  · cases reported
  next sentAt awaited =>
      simp only [Option.ite_none_right_eq_some, Option.some.injEq] at reported
      exact ⟨sentAt, awaited, reported.2.symm⟩

theorem onHeartbeatAck_of_open {sentAt : ℚ} (ready : page.readyState = .open)
    (awaited : page.telemetry.lastHeartbeatSentAt = some sentAt) :
    page.onHeartbeatAck.2 = some (mathRound (page.now - sentAt)) := by
  simp [onHeartbeatAck, awaited, ready]

/-- Times an interval apart do not round to the same integer. -/
theorem mathRound_ne_of_spaced {now earlier later : ℚ}
    (apart : earlier + heartbeatInterval ≤ later) :
    mathRound (now - later) ≠ mathRound (now - earlier) := by
  intro same
  have near := abs_lt.mp (Int.abs_sub_lt_one_of_floor_eq_floor same)
  norm_num [heartbeatInterval] at apart
  linarith [near.1]

/-- When an acknowledgement arrives, the time reported is its own heartbeat's
exactly if that heartbeat is the last one sent. -/
theorem Spaced.reportsOwn_iff {label : HeartbeatStep}
    (spaced : page.Spaced) :
    page.ReportsOwn label ↔ page.AnswersLast label := by
  cases label with
  | receive =>
      constructor
      · intro own ack rest sentAt answers awaited
        have member : ack.sentAt ∈ page.inFlight := by
          simp [inFlight, answers]
        have ready : page.readyState = .open := by
          by_contra notOpen
          simp [spaced.quiet notOpen] at member
        have rounded :=
          own _ ack rest (onHeartbeatAck_of_open ready awaited) answers
        rcases spaced.last _ member sentAt awaited with same | apart
        · exact same
        · exact absurd rounded (mathRound_ne_of_spaced apart)
      · intro answersLast rtt ack rest reported answers
        obtain ⟨sentAt, awaited, rfl⟩ := onHeartbeatAck_eq_some reported
        rw [answersLast ack rest sentAt answers awaited]
  | _ => exact Iff.rfl

/-- A time that is the own heartbeat's is that of a round trip. -/
theorem ReportsOwn.reportsReal {label : HeartbeatStep}
    (own : page.ReportsOwn label) : page.ReportsReal label := by
  cases label with
  | receive =>
      intro rtt next reported taken
      cases answers : page.toClient with
      | nil => simp [step, answers] at taken
      | cons ack rest =>
          simp only [step, answers, Option.some.injEq] at taken
          subst taken
          exact ⟨(ack.sentAt, page.now), by simp,
            own rtt ack rest reported answers⟩
  | _ => trivial

/-- In runs in which each acknowledgement that is awaited when it arrives is
that of the last heartbeat sent, all times reported are real; it takes such a
run for each to be the time of the heartbeat acknowledged. -/
theorem reportsReal_along {now : ℚ}
    (execution : Transition.Execution step (start now)) :
    (execution.StepsMeet AnswersLast → execution.StepsMeet ReportsReal) ∧
      (execution.StepsMeet ReportsOwn ↔
        execution.StepsMeet AnswersLast) := by
  have exactly : execution.StepsMeet ReportsOwn ↔
      execution.StepsMeet AnswersLast :=
    execution.stepsMeet_iff_of_invariant Spaced (spaced_of_inFlight_nil rfl)
      (fun _ _ _ spaced _ => spaced.reportsOwn_iff)
      (fun _ _ _ spaced _ taken => spaced.kept taken)
  constructor
  · intro meets taken label rest page split runs
    have own := exactly.mpr meets taken label rest page split runs
    exact own.reportsReal
  · exact exactly

/-- The first acknowledgement takes longer than an interval. -/
def slowAnswer : Transition.Execution step (start 0) where
  labels := [.opened, .elapse 5000, .tick, .serve 0, .elapse 100, .receive]
  final :=
    { now := 5100
      telemetry := ⟨none, some 100, [100]⟩
      readyState := .open
      isFirst := true
      heartbeatTimer := some 10000
      toServer := [⟨5000⟩]
      toClient := []
      roundTrips := [(0, 5100)] }
  runs := by
    norm_num [step, start, startHeartbeat, sendHeartbeat, onHeartbeatAck,
      heartbeatInterval]

/-- It is reported as the answer to the second heartbeat, after 100 ms. -/
theorem slowAnswer_is_not_real :
    ¬ ∀ (now : ℚ) (execution : Transition.Execution step (start now)),
      execution.StepsMeet ReportsReal := by
  intro holds
  have runs : Transition.run step (start 0)
      [.opened, .elapse 5000, .tick, .serve 0, .elapse 100] = some
        { now := 5100
          telemetry := ⟨some 5000, none, []⟩
          readyState := .open
          isFirst := true
          heartbeatTimer := some 10000
          toServer := [⟨5000⟩]
          toClient := [⟨0, 0⟩]
          roundTrips := [] } := by
    norm_num [step, start, startHeartbeat, sendHeartbeat, heartbeatInterval]
  obtain ⟨trip, member, rounded⟩ := holds 0 slowAnswer _ .receive [] _ rfl
    runs 100 _ (by decide +kernel) rfl
  obtain rfl := List.mem_singleton.mp member
  exact absurd rounded (by decide +kernel)

end HeartbeatPage

end Rylus
