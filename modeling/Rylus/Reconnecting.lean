import Mathlib.Tactic.IntervalCases
import Rylus.HeartbeatRtt

/-!
# Reconnecting

`init` opens a WebSocket and, whenever it is lost, tries to get a new one: a
banner counts down to the next attempt, ten attempts are made with growing
delays, and then the page gives up until the user asks again.  Timeouts,
intervals and banners stay with the browser until they fire or are cleared.

A connection that fails fires `error` and then `close`, one that ends `close`
only.  Every object that the page creates takes the next free number.
-/

namespace Rylus

/-- What an interval repeats: a heartbeat, or the countdown of a banner. -/
inductive PageInterval where
  | heartbeat
  | countdown (banner : Nat)

inductive ReconnectBanner where
  | waiting (remaining attempt : Nat)
  | reconnecting (attempt : Nat)
  | failed

/-- Messages of the page; `input` is one of a pointer, wheel or keyboard
event. -/
inductive PageMessage where
  | heartbeat
  | hello (protocolVersion : Nat)
  | getCapturableList
  | pauseVideo
  | resumeVideo
  | config
  | requestKeyframe
  | clientRtt
  | bufferHealth
  | input
  deriving DecidableEq

/-- What handlers of input, of the settings and of received messages send. -/
def PageMessage.isOfHandler : PageMessage → Bool
  | .heartbeat | .hello _ => false
  | .getCapturableList | .pauseVideo | .resumeVideo | .config
  | .requestKeyframe | .clientRtt | .bufferHealth | .input => true

/-- The variables of `init`, and what the browser keeps: sockets, timeouts
with their delays, intervals, the banners in the document. -/
structure ReconnectPage where
  reconnectAttempt : Nat
  reconnectTimer : Option Nat
  reconnectCountdownTimer : Option Nat
  reconnectBanner : Option Nat
  isReconnecting : Bool
  heartbeatTimer : Option Nat
  activeWebSocket : Nat
  watchesVisibility : Bool
  sockets : List ReadyState
  timeouts : List (Nat × Nat)
  intervals : List (Nat × PageInterval)
  banners : List (Nat × ReconnectBanner)
  fresh : Nat
  sent : List (Nat × PageMessage)

/-- A socket opens, fails, or ends; a timer fires; a button of a banner is
pressed; the page is hidden or shown; another handler sends a message.
`videoEnabled` and `listed` are what the settings say then: whether video is on
and any capturable is in the list. -/
inductive ReconnectEvent where
  | opened (socket : Nat) (videoEnabled listed : Bool)
  | failed (socket : Nat)
  | closed (socket : Nat)
  | timeout (timer : Nat)
  | interval (timer : Nat)
  | retryNow (banner : Nat)
  | tryAgain (banner : Nat)
  | dismiss (banner : Nat)
  | visibility (hidden videoEnabled : Bool)
  | send (message : PageMessage)

def reconnectMaxAttempts : Nat := 10

def reconnectBaseDelay : Nat := 1000

def reconnectMaxDelay : Nat := 30000

def calcReconnectDelay (attempt : Nat) : Nat :=
  min (reconnectBaseDelay * 2 ^ (attempt - 1)) reconnectMaxDelay

/-- Clear a timer, or remove a banner, if there is one. -/
def clearEntry {Entry : Type*} (named : Option Nat)
    (entries : List (Nat × Entry)) : List (Nat × Entry) :=
  match named with
  | none => entries
  | some id => entries.filter fun entry => entry.1 ≠ id

namespace ReconnectPage

def start : ReconnectPage where
  reconnectAttempt := 0
  reconnectTimer := none
  reconnectCountdownTimer := none
  reconnectBanner := none
  isReconnecting := false
  heartbeatTimer := none
  activeWebSocket := 0
  watchesVisibility := false
  sockets := [.connecting]
  timeouts := []
  intervals := []
  banners := []
  fresh := 0
  sent := []

def wsSend (page : ReconnectPage) (message : PageMessage) : ReconnectPage :=
  if page.sockets[page.activeWebSocket]? = some .open then
    { page with sent := page.sent ++ [(page.activeWebSocket, message)] }
  else
    page

def stopHeartbeat (page : ReconnectPage) : ReconnectPage :=
  { page with
    intervals := clearEntry page.heartbeatTimer page.intervals
    heartbeatTimer := none }

def startHeartbeat (page : ReconnectPage) : ReconnectPage :=
  let page := page.stopHeartbeat.wsSend .heartbeat
  { page with
    heartbeatTimer := some page.fresh
    intervals := page.intervals ++ [(page.fresh, .heartbeat)]
    fresh := page.fresh + 1 }

def removeReconnectBanner (page : ReconnectPage) : ReconnectPage :=
  { page with
    banners := clearEntry page.reconnectBanner page.banners
    reconnectBanner := none
    intervals := clearEntry page.reconnectCountdownTimer page.intervals
    reconnectCountdownTimer := none
    timeouts := clearEntry page.reconnectTimer page.timeouts
    reconnectTimer := none }

def showReconnectBanner (page : ReconnectPage) (delayMs attempt : Nat) :
    ReconnectPage :=
  let page := page.removeReconnectBanner
  { page with
    banners := page.banners ++
      [(page.fresh, .waiting ((delayMs + 999) / 1000) attempt)]
    reconnectBanner := some page.fresh
    intervals := page.intervals ++ [(page.fresh + 1, .countdown page.fresh)]
    reconnectCountdownTimer := some (page.fresh + 1)
    fresh := page.fresh + 2 }

/-- The interval of `show_reconnect_banner`. -/
def countDown (page : ReconnectPage) (banner : Nat) : ReconnectPage :=
  { page with
    banners := page.banners.map fun
      | (id, .waiting remaining attempt) =>
          if id = banner then (id, .waiting (max (remaining - 1) 1) attempt)
          else (id, .waiting remaining attempt)
      | entry => entry }

def showFailedBanner (page : ReconnectPage) : ReconnectPage :=
  let page := page.removeReconnectBanner
  { page with
    banners := page.banners ++ [(page.fresh, .failed)]
    reconnectBanner := some page.fresh
    fresh := page.fresh + 1 }

def scheduleReconnect (page : ReconnectPage) : ReconnectPage :=
  let page := { page with reconnectAttempt := page.reconnectAttempt + 1 }
  if page.reconnectAttempt > reconnectMaxAttempts then
    showFailedBanner { page with isReconnecting := false }
  else
    let delay := calcReconnectDelay page.reconnectAttempt
    let page := page.showReconnectBanner delay page.reconnectAttempt
    { page with
      timeouts := page.timeouts ++ [(page.fresh, delay)]
      reconnectTimer := some page.fresh
      fresh := page.fresh + 1 }

def attemptReconnect (page : ReconnectPage) : ReconnectPage :=
  let page := page.removeReconnectBanner
  { page with
    banners := page.banners ++
      [(page.fresh, .reconnecting page.reconnectAttempt)]
    reconnectBanner := some page.fresh
    sockets := page.sockets ++ [.connecting]
    activeWebSocket := page.sockets.length
    fresh := page.fresh + 1 }

/-- Begin to reconnect, with no attempt made. -/
def beginReconnect (page : ReconnectPage) : ReconnectPage :=
  scheduleReconnect { page with isReconnecting := true, reconnectAttempt := 0 }

/-- `onerror` and `onclose` of the first socket. -/
def handleDisconnect (page : ReconnectPage) : ReconnectPage :=
  let page := page.stopHeartbeat
  if page.isReconnecting then page else page.beginReconnect

/-- `onclose` of a later socket. -/
def onClose (page : ReconnectPage) (socket : Nat) : ReconnectPage :=
  if socket ≠ page.activeWebSocket then page
  else if page.isReconnecting then page.scheduleReconnect
  else page.beginReconnect

/-- What a socket that has opened is sent after the first heartbeat. -/
def handshake (videoEnabled listed : Bool) : List PageMessage :=
  [.hello 3, .getCapturableList] ++
    (if videoEnabled then [] else [.pauseVideo]) ++
      (if listed then [.config] else [])

def sendAll (page : ReconnectPage) (messages : List PageMessage) :
    ReconnectPage :=
  messages.foldl wsSend page

/-- `onopen` of the first socket. -/
def onFirstOpen (page : ReconnectPage) (videoEnabled listed : Bool) :
    ReconnectPage :=
  let page := page.startHeartbeat.sendAll (handshake videoEnabled listed)
  { page with watchesVisibility := true }

/-- `onopen` of a later socket. -/
def onOpen (page : ReconnectPage) (socket : Nat)
    (videoEnabled listed : Bool) : ReconnectPage :=
  let page := { page with
    activeWebSocket := socket
    reconnectAttempt := 0
    isReconnecting := false }
  let page := page.removeReconnectBanner.startHeartbeat
  let page := page.sendAll
    (handshake videoEnabled listed ++ [.requestKeyframe])
  { page with watchesVisibility := true }

/-- `document.onvisibilitychange`. -/
def onVisibilityChange (page : ReconnectPage) (hidden videoEnabled : Bool) :
    ReconnectPage :=
  if hidden then page.wsSend .pauseVideo
  else if videoEnabled then page.sendAll [.resumeVideo, .requestKeyframe]
  else page

def setSocket (page : ReconnectPage) (socket : Nat) (state : ReadyState) :
    ReconnectPage :=
  { page with sockets := page.sockets.set socket state }

def step (page : ReconnectPage) : ReconnectEvent → Option ReconnectPage
  | .opened socket videoEnabled listed =>
      if page.sockets[socket]? = some .connecting then
        let page := page.setSocket socket .open
        some (if socket = 0 then page.onFirstOpen videoEnabled listed
          else page.onOpen socket videoEnabled listed)
      else
        none
  | .failed socket =>
      if page.sockets[socket]? = some .connecting ∨
          page.sockets[socket]? = some .open then
        let page := page.setSocket socket .closed
        some (if socket = 0 then page.handleDisconnect.handleDisconnect
          else page.onClose socket)
      else
        none
  | .closed socket =>
      if page.sockets[socket]? = some .open then
        let page := page.setSocket socket .closed
        some (if socket = 0 then page.handleDisconnect
          else page.onClose socket)
      else
        none
  | .timeout timer =>
      if timer ∈ page.timeouts.map Prod.fst then
        some (attemptReconnect { page with
          timeouts := clearEntry (some timer) page.timeouts
          reconnectTimer := none })
      else
        none
  | .interval timer =>
      match page.intervals.lookup timer with
      | none => none
      | some .heartbeat => some (page.wsSend .heartbeat)
      | some (.countdown banner) => some (page.countDown banner)
  | .retryNow banner =>
      match page.banners.lookup banner with
      | some (.waiting _ _) =>
          some page.removeReconnectBanner.attemptReconnect
      | _ => none
  | .tryAgain banner =>
      match page.banners.lookup banner with
      | some .failed => some page.removeReconnectBanner.beginReconnect
      | _ => none
  | .dismiss banner =>
      match page.banners.lookup banner with
      | some .failed => some page.removeReconnectBanner
      | _ => none
  | .visibility hidden videoEnabled =>
      if page.watchesVisibility then
        some (page.onVisibilityChange hidden videoEnabled)
      else
        none
  | .send message =>
      if message.isOfHandler then some (page.wsSend message) else none

/-- The heartbeat among the intervals. -/
def heartbeats (page : ReconnectPage) : List (Nat × PageInterval) :=
  page.heartbeatTimer.toList.map fun timer => (timer, .heartbeat)

/-- Every timer and banner that the browser keeps is the one that a variable
of the page names. -/
structure Owned (page : ReconnectPage) : Prop where
  timeouts : page.timeouts.map Prod.fst = page.reconnectTimer.toList
  banners : page.banners.map Prod.fst = page.reconnectBanner.toList
  counting : ∃ counting, page.intervals = page.heartbeats ++ counting ∧
    counting.map Prod.fst = page.reconnectCountdownTimer.toList
  apart : ∀ timer, page.reconnectCountdownTimer = some timer →
    page.heartbeatTimer ≠ some timer
  fresh : ∀ timer, page.heartbeatTimer = some timer → timer < page.fresh

/-- Nothing is left but the heartbeat. -/
structure Quiet (page : ReconnectPage) : Prop where
  reconnectTimer : page.reconnectTimer = none
  timeouts : page.timeouts = []
  reconnectBanner : page.reconnectBanner = none
  banners : page.banners = []
  reconnectCountdownTimer : page.reconnectCountdownTimer = none
  intervals : page.intervals = page.heartbeats
  fresh : ∀ timer, page.heartbeatTimer = some timer → timer < page.fresh

/-- All sockets but the active one, the newest, are closed. -/
def ActiveIs (page : ReconnectPage) (state : ReadyState) : Prop :=
  page.sockets = List.replicate page.activeWebSocket .closed ++ [state]

def Connected (page : ReconnectPage) : Prop :=
  page.sockets[page.activeWebSocket]? = some .open

/-- Attempts that the page still makes on its own, if none succeeds. -/
def attemptsLeft (page : ReconnectPage) : Nat :=
  if page.isReconnecting then
    if page.timeouts = [] then reconnectMaxAttempts - page.reconnectAttempt
    else reconnectMaxAttempts + 1 - page.reconnectAttempt
  else if page.sockets[page.activeWebSocket]? = some .closed then
    0
  else
    reconnectMaxAttempts

/-- What the page is doing. -/
inductive Supervised (page : ReconnectPage) : Prop
  | linked (state : ReadyState) (up : state ≠ .closed)
      (active : page.ActiveIs state)
      (attempt : page.reconnectAttempt = 0)
      (isReconnecting : page.isReconnecting = false) (quiet : page.Quiet)
  | retrying (first : 1 ≤ page.reconnectAttempt)
      (last : page.reconnectAttempt ≤ reconnectMaxAttempts)
      (later : page.activeWebSocket ≠ 0) (active : page.ActiveIs .connecting)
      (isReconnecting : page.isReconnecting = true)
      (timeouts : page.timeouts = [])
      (intervals : page.intervals = page.heartbeats)
      (banner : Nat)
      (banners : page.banners =
        [(banner, .reconnecting page.reconnectAttempt)])
  | waiting (first : 1 ≤ page.reconnectAttempt)
      (last : page.reconnectAttempt ≤ reconnectMaxAttempts)
      (active : page.ActiveIs .closed)
      (isReconnecting : page.isReconnecting = true)
      (timer : Nat)
      (timeouts : page.timeouts =
        [(timer, calcReconnectDelay page.reconnectAttempt)])
      (banner remaining : Nat) (some : 1 ≤ remaining)
      (few : remaining ≤ 30)
      (banners : page.banners =
        [(banner, .waiting remaining page.reconnectAttempt)])
      (countdown : Nat)
      (intervals : page.intervals =
        page.heartbeats ++ [(countdown, .countdown banner)])
  | failed (attempt : page.reconnectAttempt = reconnectMaxAttempts + 1)
      (active : page.ActiveIs .closed)
      (isReconnecting : page.isReconnecting = false)
      (timeouts : page.timeouts = [])
      (intervals : page.intervals = page.heartbeats)
      (banner : Nat) (banners : page.banners = [(banner, .failed)])
  | dismissed (attempt : page.reconnectAttempt = reconnectMaxAttempts + 1)
      (active : page.ActiveIs .closed)
      (isReconnecting : page.isReconnecting = false) (quiet : page.Quiet)

end ReconnectPage

@[simp]
theorem clearEntry_none {Entry : Type*} (entries : List (Nat × Entry)) :
    clearEntry none entries = entries :=
  rfl

theorem clearEntry_append {Entry : Type*} (named : Option Nat)
    (first second : List (Nat × Entry)) :
    clearEntry named (first ++ second) =
      clearEntry named first ++ clearEntry named second := by
  cases named with
  | none => rfl
  | some id => exact List.filter_append ..

/-- Clearing all that is there. -/
theorem clearEntry_named {Entry : Type*} {named : Option Nat}
    {entries : List (Nat × Entry)}
    (owned : entries.map Prod.fst = named.toList) :
    clearEntry named entries = [] := by
  cases named with
  | none => exact List.map_eq_nil_iff.mp owned
  | some id =>
      obtain ⟨entry, rfl, same⟩ := List.map_eq_singleton_iff.mp owned
      simp [clearEntry, same]

/-- Clearing what is not there. -/
theorem clearEntry_absent {Entry : Type*} {named : Option Nat}
    {entries : List (Nat × Entry)}
    (absent : ∀ id, named = some id → id ∉ entries.map Prod.fst) :
    clearEntry named entries = entries := by
  cases named with
  | none => rfl
  | some id =>
      refine List.filter_eq_self.mpr fun entry member => ?_
      have apart : entry.1 ≠ id := fun same =>
        absent id rfl (same ▸ List.mem_map_of_mem member)
      simpa using apart

theorem calcReconnectDelay_bounds (attempt : Nat) :
    1000 ≤ calcReconnectDelay attempt ∧
      calcReconnectDelay attempt ≤ 30000 := by
  have positive : 1 ≤ 2 ^ (attempt - 1) := Nat.one_le_two_pow
  unfold calcReconnectDelay reconnectBaseDelay reconnectMaxDelay
  omega

namespace ReconnectPage

variable {page next : ReconnectPage}

theorem mem_heartbeats {timer : Nat}
    (member : timer ∈ page.heartbeats.map Prod.fst) :
    page.heartbeatTimer = some timer := by
  simpa [heartbeats, eq_comm] using member

theorem Quiet.owned (quiet : page.Quiet) : page.Owned where
  timeouts := by rw [quiet.timeouts, quiet.reconnectTimer]; rfl
  banners := by rw [quiet.banners, quiet.reconnectBanner]; rfl
  counting := by
    refine ⟨[], ?_, ?_⟩
    · rw [quiet.intervals, List.append_nil]
    · rw [quiet.reconnectCountdownTimer]
      rfl
  apart timer isTimer := by
    rw [quiet.reconnectCountdownTimer] at isTimer
    cases isTimer
  fresh := quiet.fresh

/-- Removing the banner clears all timers that belong to it. -/
theorem Owned.quiet_removeReconnectBanner (owned : page.Owned) :
    page.removeReconnectBanner.Quiet where
  reconnectTimer := rfl
  timeouts := clearEntry_named owned.timeouts
  reconnectBanner := rfl
  banners := clearEntry_named owned.banners
  reconnectCountdownTimer := rfl
  intervals := by
    obtain ⟨counting, intervals, timers⟩ := owned.counting
    change clearEntry page.reconnectCountdownTimer page.intervals =
      page.heartbeats
    have absent : ∀ timer, page.reconnectCountdownTimer = some timer →
        timer ∉ page.heartbeats.map Prod.fst := fun timer isTimer member =>
      owned.apart timer isTimer (mem_heartbeats member)
    rw [intervals, clearEntry_append, clearEntry_absent absent,
      clearEntry_named timers, List.append_nil]
  fresh := owned.fresh

theorem wsSend_eq (page : ReconnectPage) (message : PageMessage) :
    ∃ sent, page.wsSend message = { page with sent := sent } := by
  unfold wsSend
  split
  · exact ⟨_, rfl⟩
  · exact ⟨page.sent, rfl⟩

theorem sendAll_eq (messages : List PageMessage) (page : ReconnectPage) :
    ∃ sent, page.sendAll messages = { page with sent := sent } := by
  induction messages generalizing page with
  | nil => exact ⟨page.sent, rfl⟩
  | cons message rest ih =>
      obtain ⟨sent, sends⟩ := page.wsSend_eq message
      obtain ⟨more, sendsRest⟩ := ih (page.wsSend message)
      refine ⟨more, ?_⟩
      rw [sends] at sendsRest
      change (page.wsSend message).sendAll rest = _
      rw [sends]
      exact sendsRest

@[simp]
theorem sendAll_sockets (messages : List PageMessage)
    (page : ReconnectPage) :
    (page.sendAll messages).sockets = page.sockets := by
  obtain ⟨sent, sends⟩ := sendAll_eq messages page
  rw [sends]

@[simp]
theorem sendAll_activeWebSocket (messages : List PageMessage)
    (page : ReconnectPage) :
    (page.sendAll messages).activeWebSocket = page.activeWebSocket := by
  obtain ⟨sent, sends⟩ := sendAll_eq messages page
  rw [sends]

@[simp]
theorem startHeartbeat_sockets (page : ReconnectPage) :
    page.startHeartbeat.sockets = page.sockets := by
  obtain ⟨sent, sends⟩ := page.stopHeartbeat.wsSend_eq .heartbeat
  unfold startHeartbeat
  rw [sends]
  rfl

@[simp]
theorem startHeartbeat_activeWebSocket (page : ReconnectPage) :
    page.startHeartbeat.activeWebSocket = page.activeWebSocket := by
  obtain ⟨sent, sends⟩ := page.stopHeartbeat.wsSend_eq .heartbeat
  unfold startHeartbeat
  rw [sends]
  rfl

theorem Owned.stopHeartbeat (owned : page.Owned) :
    page.stopHeartbeat.Owned where
  timeouts := owned.timeouts
  banners := owned.banners
  counting := by
    obtain ⟨counting, intervals, timers⟩ := owned.counting
    refine ⟨counting, ?_, timers⟩
    change clearEntry page.heartbeatTimer page.intervals = [] ++ counting
    have beats : page.heartbeats.map Prod.fst =
        page.heartbeatTimer.toList := by
      simp [heartbeats, Function.comp_def]
    have absent : ∀ timer, page.heartbeatTimer = some timer →
        timer ∉ counting.map Prod.fst := by
      intro timer isTimer member
      rw [timers] at member
      exact owned.apart timer (by simpa using member) isTimer
    rw [intervals, clearEntry_append, clearEntry_named beats,
      clearEntry_absent absent]
  apart _ _ isTimer := by cases isTimer
  fresh _ isTimer := by cases isTimer

theorem Quiet.stopHeartbeat (quiet : page.Quiet) :
    page.stopHeartbeat.Quiet where
  reconnectTimer := quiet.reconnectTimer
  timeouts := quiet.timeouts
  reconnectBanner := quiet.reconnectBanner
  banners := quiet.banners
  reconnectCountdownTimer := quiet.reconnectCountdownTimer
  intervals := by
    change clearEntry page.heartbeatTimer page.intervals = []
    rw [quiet.intervals]
    exact clearEntry_named (by simp [heartbeats, Function.comp_def])
  fresh _ isTimer := by cases isTimer

theorem Quiet.startHeartbeat (quiet : page.Quiet) :
    page.startHeartbeat.Quiet := by
  have stopped := quiet.stopHeartbeat
  obtain ⟨sent, sends⟩ := page.stopHeartbeat.wsSend_eq .heartbeat
  unfold ReconnectPage.startHeartbeat
  rw [sends]
  refine ⟨stopped.reconnectTimer, stopped.timeouts, stopped.reconnectBanner,
    stopped.banners, stopped.reconnectCountdownTimer, ?_, ?_⟩
  · have none : page.stopHeartbeat.intervals = [] := stopped.intervals
    simp only [none]
    rfl
  · intro timer isTimer
    cases isTimer
    exact Nat.lt_succ_self _

/-- The active socket is the only one that is not closed. -/
theorem ActiveIs.eq_active {state : ReadyState} (active : page.ActiveIs state)
    {socket : Nat} {found : ReadyState}
    (isFound : page.sockets[socket]? = some found) (up : found ≠ .closed) :
    socket = page.activeWebSocket ∧ found = state := by
  rw [active] at isFound
  rcases Nat.lt_trichotomy socket page.activeWebSocket with
    before | same | after
  · rw [List.getElem?_append_left (by simpa using before),
      List.getElem?_replicate, if_pos before] at isFound
    cases isFound
    exact absurd rfl up
  · subst same
    simp at isFound
    exact ⟨rfl, isFound.symm⟩
  · have beyond : ((List.replicate page.activeWebSocket ReadyState.closed ++
        [state]).length ≤ socket) := by
      simp only [List.length_append, List.length_replicate,
        List.length_singleton]
      omega
    rw [List.getElem?_eq_none beyond] at isFound
    cases isFound

theorem ActiveIs.setSocket {state : ReadyState} (active : page.ActiveIs state)
    (next : ReadyState) :
    (page.setSocket page.activeWebSocket next).ActiveIs next := by
  change page.sockets.set page.activeWebSocket next =
    List.replicate page.activeWebSocket .closed ++ [next]
  rw [active, List.set_append_right _ _ (by simp)]
  simp

theorem ActiveIs.length {state : ReadyState} (active : page.ActiveIs state) :
    page.sockets.length = page.activeWebSocket + 1 := by
  rw [active]
  simp

/-- `schedule_reconnect`, with the active socket closed: the page waits for
the next attempt, or gives up. -/
theorem supervised_scheduleReconnect (owned : page.Owned)
    (active : page.ActiveIs .closed)
    (few : page.reconnectAttempt ≤ reconnectMaxAttempts)
    (isReconnecting : page.isReconnecting = true) :
    page.scheduleReconnect.Owned ∧ page.scheduleReconnect.Supervised := by
  unfold scheduleReconnect
  dsimp only
  split
  · rename_i past
    have quiet := owned.quiet_removeReconnectBanner
    have ended : page.reconnectAttempt + 1 = reconnectMaxAttempts + 1 := by
      omega
    have banners : page.removeReconnectBanner.banners = [] := quiet.banners
    have shown : (showFailedBanner { page with
        reconnectAttempt := page.reconnectAttempt + 1
        isReconnecting := false }).banners = [(page.fresh, .failed)] := by
      change page.removeReconnectBanner.banners ++ [(page.fresh, .failed)] = _
      rw [banners]
      rfl
    refine ⟨⟨?_, ?_, ⟨[], ?_, rfl⟩, ?_, ?_⟩, ?_⟩
    · exact congrArg _ quiet.timeouts
    · rw [shown]
      rfl
    · rw [List.append_nil]
      exact quiet.intervals
    · intro timer isTimer
      cases isTimer
    · intro timer isTimer
      exact (owned.fresh timer isTimer).trans (Nat.lt_succ_self _)
    · exact .failed ended active rfl quiet.timeouts quiet.intervals
        page.fresh shown
  · rename_i more
    have quiet := owned.quiet_removeReconnectBanner
    have timeouts : page.removeReconnectBanner.timeouts = [] := quiet.timeouts
    have banners : page.removeReconnectBanner.banners = [] := quiet.banners
    have intervals : page.removeReconnectBanner.intervals =
        page.heartbeats := quiet.intervals
    obtain ⟨least, most⟩ := calcReconnectDelay_bounds
      (page.reconnectAttempt + 1)
    generalize delay : calcReconnectDelay (page.reconnectAttempt + 1) = ms at *
    refine ⟨⟨?_, ?_, ⟨[(page.fresh + 1, .countdown page.fresh)], ?_, rfl⟩,
      ?_, ?_⟩, ?_⟩
    · change (page.removeReconnectBanner.timeouts ++
        [(page.fresh + 2, ms)]).map Prod.fst = [page.fresh + 2]
      rw [timeouts]
      rfl
    · change (page.removeReconnectBanner.banners ++
        [(page.fresh, ReconnectBanner.waiting ((ms + 999) / 1000)
          (page.reconnectAttempt + 1))]).map Prod.fst = [page.fresh]
      rw [banners]
      rfl
    · change page.removeReconnectBanner.intervals ++ _ = _
      rw [intervals]
      rfl
    · intro timer isTimer isBeat
      cases isTimer
      have old : page.fresh + 1 < page.fresh := owned.fresh _ isBeat
      omega
    · intro timer isTimer
      have old := owned.fresh timer isTimer
      change timer < page.fresh + 3
      omega
    · refine .waiting (Nat.le_add_left 1 _) (Nat.not_lt.mp more) active
        isReconnecting (page.fresh + 2) ?_ page.fresh ((ms + 999) / 1000)
        ?_ ?_ ?_ (page.fresh + 1) ?_
      · change page.removeReconnectBanner.timeouts ++ [(page.fresh + 2, ms)] =
          [(page.fresh + 2, calcReconnectDelay (page.reconnectAttempt + 1))]
        rw [timeouts, delay]
        rfl
      · omega
      · omega
      · change page.removeReconnectBanner.banners ++ _ = _
        rw [banners]
        rfl
      · change page.removeReconnectBanner.intervals ++ _ = _
        rw [intervals]
        rfl

theorem supervised_beginReconnect (owned : page.Owned)
    (active : page.ActiveIs .closed) :
    page.beginReconnect.Owned ∧ page.beginReconnect.Supervised := by
  refine supervised_scheduleReconnect ?_ active (Nat.zero_le _) rfl
  exact ⟨owned.timeouts, owned.banners, owned.counting, owned.apart,
    owned.fresh⟩

/-- `attempt_reconnect`, with the active socket closed. -/
theorem supervised_attemptReconnect (owned : page.Owned)
    (active : page.ActiveIs .closed) (first : 1 ≤ page.reconnectAttempt)
    (last : page.reconnectAttempt ≤ reconnectMaxAttempts)
    (isReconnecting : page.isReconnecting = true) :
    page.attemptReconnect.Owned ∧ page.attemptReconnect.Supervised := by
  have quiet := owned.quiet_removeReconnectBanner
  have shown : page.attemptReconnect.banners =
      [(page.fresh, .reconnecting page.reconnectAttempt)] := by
    change page.removeReconnectBanner.banners ++ _ = _
    rw [quiet.banners]
    rfl
  refine ⟨⟨?_, ?_, ⟨[], ?_, rfl⟩, ?_, ?_⟩, ?_⟩
  · exact congrArg _ quiet.timeouts
  · rw [shown]
    rfl
  · rw [List.append_nil]
    exact quiet.intervals
  · intro timer isTimer
    cases isTimer
  · intro timer isTimer
    exact (owned.fresh timer isTimer).trans (Nat.lt_succ_self _)
  · refine .retrying first last ?_ ?_ isReconnecting quiet.timeouts
      quiet.intervals page.fresh shown
    · change page.sockets.length ≠ 0
      rw [active.length]
      exact Nat.succ_ne_zero _
    · change page.sockets ++ [.connecting] =
        List.replicate page.sockets.length .closed ++ [.connecting]
      rw [active.length, List.replicate_succ', ← active]

/-- Pages that differ in what they have sent, and in whether they watch for
being hidden. -/
theorem kept_of_sent (kept : page.Owned ∧ page.Supervised)
    (sent : List (Nat × PageMessage)) (watches : Bool) :
    { page with sent := sent, watchesVisibility := watches }.Owned ∧
      { page with sent := sent, watchesVisibility := watches }.Supervised := by
  obtain ⟨owned, supervised⟩ := kept
  refine ⟨⟨owned.timeouts, owned.banners, owned.counting, owned.apart,
    owned.fresh⟩, ?_⟩
  cases supervised with
  | linked state up active attempt isReconnecting quiet =>
      exact .linked state up active attempt isReconnecting
        ⟨quiet.reconnectTimer, quiet.timeouts, quiet.reconnectBanner,
          quiet.banners, quiet.reconnectCountdownTimer, quiet.intervals,
          quiet.fresh⟩
  | retrying first last later active isReconnecting timeouts intervals banner
      banners =>
      exact .retrying first last later active isReconnecting timeouts
        intervals banner banners
  | waiting first last active isReconnecting timer timeouts banner remaining
      positive few banners countdown intervals =>
      exact .waiting first last active isReconnecting timer timeouts banner
        remaining positive few banners countdown intervals
  | failed attempt active isReconnecting timeouts intervals banner banners =>
      exact .failed attempt active isReconnecting timeouts intervals banner
        banners
  | dismissed attempt active isReconnecting quiet =>
      exact .dismissed attempt active isReconnecting
        ⟨quiet.reconnectTimer, quiet.timeouts, quiet.reconnectBanner,
          quiet.banners, quiet.reconnectCountdownTimer, quiet.intervals,
          quiet.fresh⟩

theorem kept_wsSend (kept : page.Owned ∧ page.Supervised)
    (message : PageMessage) :
    (page.wsSend message).Owned ∧ (page.wsSend message).Supervised := by
  obtain ⟨sent, sends⟩ := page.wsSend_eq message
  rw [sends]
  exact kept_of_sent kept sent page.watchesVisibility

theorem kept_sendAll (kept : page.Owned ∧ page.Supervised)
    (messages : List PageMessage) :
    (page.sendAll messages).Owned ∧ (page.sendAll messages).Supervised := by
  obtain ⟨sent, sends⟩ := sendAll_eq messages page
  rw [sends]
  exact kept_of_sent kept sent page.watchesVisibility

theorem stopHeartbeat_of_none (stopped : page.heartbeatTimer = none) :
    page.stopHeartbeat = page := by
  unfold stopHeartbeat
  rw [stopped, clearEntry_none, ← stopped]

/-- The handler of the first socket, while the page does not reconnect; it
does nothing a second time. -/
theorem handleDisconnect_begins (isReconnecting : page.isReconnecting = false) :
    page.handleDisconnect = page.stopHeartbeat.beginReconnect ∧
      page.handleDisconnect.handleDisconnect =
        page.stopHeartbeat.beginReconnect := by
  have begins : page.handleDisconnect = page.stopHeartbeat.beginReconnect := by
    unfold handleDisconnect
    rw [if_neg]
    rw [show page.stopHeartbeat.isReconnecting = false from isReconnecting]
    decide
  have again : page.stopHeartbeat.beginReconnect.handleDisconnect =
      page.stopHeartbeat.beginReconnect := by
    have reconnects : page.stopHeartbeat.beginReconnect.isReconnecting =
        true := rfl
    have stopped : page.stopHeartbeat.beginReconnect.heartbeatTimer =
        none := rfl
    generalize page.stopHeartbeat.beginReconnect = later at *
    unfold handleDisconnect
    rw [stopHeartbeat_of_none stopped]
    exact if_pos reconnects
  rw [begins]
  exact ⟨rfl, again⟩

theorem onClose_active (page : ReconnectPage) :
    page.onClose page.activeWebSocket =
      if page.isReconnecting then page.scheduleReconnect
      else page.beginReconnect :=
  if_neg (not_not.mpr rfl)

/-- A page that is about to schedule an attempt, and has as many left as
another one. -/
structure Loses (page lost : ReconnectPage) : Prop where
  owned : lost.Owned
  active : lost.ActiveIs .closed
  few : lost.reconnectAttempt ≤ reconnectMaxAttempts
  isReconnecting : lost.isReconnecting = true
  sockets : lost.sockets = page.sockets.set page.activeWebSocket .closed
  sent : lost.sent = page.sent
  left : page.attemptsLeft = reconnectMaxAttempts - lost.reconnectAttempt

theorem ActiveIs.get_active {state : ReadyState}
    (active : page.ActiveIs state) :
    page.sockets[page.activeWebSocket]? = some state := by
  rw [active]
  simp

/-- A linked page that loses its socket begins to reconnect. -/
theorem Loses.of_linked {state : ReadyState} {lost : ReconnectPage}
    (up : state ≠ .closed) (active : page.ActiveIs state)
    (isReconnecting : page.isReconnecting = false) (owned : lost.Owned)
    (lostActive : lost.ActiveIs .closed)
    (sockets : lost.sockets = page.sockets.set page.activeWebSocket .closed)
    (sent : lost.sent = page.sent) :
    page.Loses { lost with isReconnecting := true, reconnectAttempt := 0 } :=
  { owned := ⟨owned.timeouts, owned.banners, owned.counting, owned.apart,
      owned.fresh⟩
    active := lostActive
    few := Nat.zero_le _
    isReconnecting := rfl
    sockets := sockets
    sent := sent
    left := by
      unfold attemptsLeft
      rw [isReconnecting, active.get_active, if_neg (by decide),
        if_neg (fun same => up (Option.some.inj same))]
      rfl }

/-- A socket that is lost was the active one, and another attempt is
scheduled. -/
theorem kept_lost (kept : page.Owned ∧ page.Supervised)
    {socket : Nat} {found : ReadyState}
    (isFound : page.sockets[socket]? = some found) (up : found ≠ .closed) :
    ∃ lost, page.Loses lost ∧
      if socket = 0 then
        (page.setSocket socket .closed).handleDisconnect =
            lost.scheduleReconnect ∧
          (page.setSocket socket .closed).handleDisconnect.handleDisconnect =
            lost.scheduleReconnect
      else
        (page.setSocket socket .closed).onClose socket =
          lost.scheduleReconnect := by
  obtain ⟨owned, supervised⟩ := kept
  have lostOwned : (page.setSocket socket .closed).Owned :=
    ⟨owned.timeouts, owned.banners, owned.counting, owned.apart, owned.fresh⟩
  -- a page whose active socket is closed has none to lose
  have none_up : ¬ page.ActiveIs .closed := fun active =>
    up (active.eq_active isFound up).2
  cases supervised with
  | linked state stateUp active attempt isReconnecting quiet =>
      obtain ⟨rfl, -⟩ := active.eq_active isFound up
      have lost := active.setSocket .closed
      split
      · exact ⟨_, .of_linked stateUp active isReconnecting
          lostOwned.stopHeartbeat lost rfl rfl,
          handleDisconnect_begins isReconnecting⟩
      · refine ⟨_, .of_linked stateUp active isReconnecting lostOwned lost
          rfl rfl, (onClose_active _).trans (if_neg ?_)⟩
        rw [show (page.setSocket page.activeWebSocket
          .closed).isReconnecting = false from isReconnecting]
        decide
  | retrying first last later active isReconnecting timeouts intervals banner
      banners =>
      obtain ⟨rfl, -⟩ := active.eq_active isFound up
      simp only [if_neg later]
      refine ⟨_, ⟨lostOwned, active.setSocket .closed, last, isReconnecting,
        rfl, rfl, ?_⟩, (onClose_active _).trans (if_pos isReconnecting)⟩
      unfold attemptsLeft
      rw [if_pos isReconnecting, if_pos timeouts]
      rfl
  | waiting _ _ active => exact absurd active none_up
  | failed _ active => exact absurd active none_up
  | dismissed _ active => exact absurd active none_up

/-- However a socket is lost. -/
theorem step_lost (kept : page.Owned ∧ page.Supervised) {socket : Nat}
    (taken : page.step (.failed socket) = some next ∨
      page.step (.closed socket) = some next) :
    ∃ lost, page.Loses lost ∧ next = lost.scheduleReconnect := by
  rcases taken with taken | taken
  · simp only [step] at taken
    split at taken
    · rename_i isFound
      obtain ⟨found, up, isFound⟩ : ∃ found : ReadyState, found ≠ .closed ∧
          page.sockets[socket]? = some found := by
        rcases isFound with connecting | isOpen
        · exact ⟨.connecting, by decide, connecting⟩
        · exact ⟨.open, by decide, isOpen⟩
      obtain ⟨lost, loses, schedules⟩ := kept_lost kept isFound up
      cases taken
      refine ⟨lost, loses, ?_⟩
      by_cases first : socket = 0
      · rw [if_pos first] at schedules ⊢
        exact schedules.2
      · rw [if_neg first] at schedules ⊢
        exact schedules
    · cases taken
  · simp only [step] at taken
    split at taken
    · rename_i isFound
      obtain ⟨lost, loses, schedules⟩ := kept_lost kept isFound (by decide)
      cases taken
      refine ⟨lost, loses, ?_⟩
      by_cases first : socket = 0
      · rw [if_pos first] at schedules ⊢
        exact schedules.1
      · rw [if_neg first] at schedules ⊢
        exact schedules
    · cases taken

theorem kept_opened (kept : page.Owned ∧ page.Supervised) {socket : Nat}
    (isFound : page.sockets[socket]? = some .connecting)
    (videoEnabled listed : Bool) :
    if socket = 0 then
      ((page.setSocket socket .open).onFirstOpen videoEnabled
          listed).Owned ∧
        ((page.setSocket socket .open).onFirstOpen videoEnabled
          listed).Supervised
    else
      ((page.setSocket socket .open).onOpen socket videoEnabled
          listed).Owned ∧
        ((page.setSocket socket .open).onOpen socket videoEnabled
          listed).Supervised := by
  obtain ⟨owned, supervised⟩ := kept
  have up : ReadyState.connecting ≠ .closed := by decide
  have none_up : ¬ page.ActiveIs .closed := fun active =>
    up (active.eq_active isFound up).2
  -- once a socket is open the page is linked, whatever the banner was
  have linked : ∀ {quietPage : ReconnectPage}
      (messages : List PageMessage), quietPage.Quiet →
      quietPage.ActiveIs .open → quietPage.reconnectAttempt = 0 →
      quietPage.isReconnecting = false →
      { quietPage.startHeartbeat.sendAll messages with
          watchesVisibility := true }.Owned ∧
        { quietPage.startHeartbeat.sendAll messages with
          watchesVisibility := true }.Supervised := by
    intro quietPage messages quiet active attempt isReconnecting
    obtain ⟨sent, sends⟩ := sendAll_eq messages quietPage.startHeartbeat
    have started := quiet.startHeartbeat
    obtain ⟨beat, beats⟩ := quietPage.stopHeartbeat.wsSend_eq .heartbeat
    have kept : quietPage.startHeartbeat.Owned ∧
        quietPage.startHeartbeat.Supervised := by
      refine ⟨started.owned, .linked .open (by decide) ?_ ?_ ?_ started⟩
      all_goals
        unfold ReconnectPage.startHeartbeat
        rw [beats]
      · exact active
      · exact attempt
      · exact isReconnecting
    rw [sends]
    exact kept_of_sent kept sent true
  cases supervised with
  | linked state stateUp active attempt isReconnecting quiet =>
      obtain ⟨rfl, -⟩ := active.eq_active isFound up
      have opened := active.setSocket .open
      split
      · exact linked _ ⟨quiet.reconnectTimer, quiet.timeouts,
          quiet.reconnectBanner, quiet.banners,
          quiet.reconnectCountdownTimer, quiet.intervals, quiet.fresh⟩
          opened attempt isReconnecting
      · refine linked _ ?_ opened rfl rfl
        exact Owned.quiet_removeReconnectBanner ⟨owned.timeouts,
          owned.banners, owned.counting, owned.apart, owned.fresh⟩
  | retrying first last later active isReconnecting timeouts intervals banner
      banners =>
      obtain ⟨rfl, -⟩ := active.eq_active isFound up
      have opened := active.setSocket .open
      rw [if_neg later]
      refine linked _ ?_ opened rfl rfl
      exact Owned.quiet_removeReconnectBanner ⟨owned.timeouts,
        owned.banners, owned.counting, owned.apart, owned.fresh⟩
  | waiting _ _ active => exact absurd active none_up
  | failed _ active => exact absurd active none_up
  | dismissed _ active => exact absurd active none_up

/-- Only the banner of a page that waits has a button to retry now. -/
theorem Supervised.waiting_of_lookup (supervised : page.Supervised)
    {banner remaining attempt : Nat}
    (shown : page.banners.lookup banner =
      some (.waiting remaining attempt)) :
    1 ≤ page.reconnectAttempt ∧
      page.reconnectAttempt ≤ reconnectMaxAttempts ∧
      page.ActiveIs .closed ∧ page.isReconnecting = true := by
  cases supervised with
  | linked _ _ _ _ _ quiet => simp [quiet.banners] at shown
  | retrying _ _ _ _ _ _ _ _ banners =>
      rw [banners, List.lookup_cons] at shown
      split at shown <;> simp at shown
  | waiting first last active isReconnecting =>
      exact ⟨first, last, active, isReconnecting⟩
  | failed _ _ _ _ _ _ banners =>
      rw [banners, List.lookup_cons] at shown
      split at shown <;> simp at shown
  | dismissed _ _ _ quiet => simp [quiet.banners] at shown

theorem Supervised.failed_of_lookup (supervised : page.Supervised)
    {banner : Nat} (shown : page.banners.lookup banner = some .failed) :
    page.reconnectAttempt = reconnectMaxAttempts + 1 ∧
      page.ActiveIs .closed ∧ page.isReconnecting = false := by
  cases supervised with
  | linked _ _ _ _ _ quiet => simp [quiet.banners] at shown
  | retrying _ _ _ _ _ _ _ _ banners =>
      rw [banners, List.lookup_cons] at shown
      split at shown <;> simp at shown
  | waiting _ _ _ _ _ _ _ _ _ _ banners =>
      rw [banners, List.lookup_cons] at shown
      split at shown <;> simp at shown
  | failed attempt active isReconnecting =>
      exact ⟨attempt, active, isReconnecting⟩
  | dismissed _ _ _ quiet => simp [quiet.banners] at shown

/-- Only a page that waits has a timeout. -/
theorem Supervised.waiting_of_timeout (supervised : page.Supervised)
    {timer : Nat} (member : timer ∈ page.timeouts.map Prod.fst) :
    1 ≤ page.reconnectAttempt ∧
      page.reconnectAttempt ≤ reconnectMaxAttempts ∧
      page.ActiveIs .closed ∧ page.isReconnecting = true := by
  cases supervised with
  | linked _ _ _ _ _ quiet => simp [quiet.timeouts] at member
  | retrying _ _ _ _ _ timeouts => simp [timeouts] at member
  | waiting first last active isReconnecting =>
      exact ⟨first, last, active, isReconnecting⟩
  | failed _ _ _ timeouts => simp [timeouts] at member
  | dismissed _ _ _ quiet => simp [quiet.timeouts] at member

theorem countDown_ids (page : ReconnectPage) (banner : Nat) :
    (page.countDown banner).banners.map Prod.fst =
      page.banners.map Prod.fst := by
  unfold countDown
  rw [List.map_map]
  refine List.map_congr_left fun entry _ => ?_
  obtain ⟨id, shown⟩ := entry
  cases shown with
  | waiting remaining attempt =>
      change (if id = banner then _ else _ : Nat × ReconnectBanner).1 = id
      split <;> rfl
  | reconnecting attempt => rfl
  | failed => rfl

theorem kept_countDown (kept : page.Owned ∧ page.Supervised) (banner : Nat) :
    (page.countDown banner).Owned ∧ (page.countDown banner).Supervised := by
  obtain ⟨owned, supervised⟩ := kept
  refine ⟨⟨owned.timeouts, ?_, owned.counting, owned.apart, owned.fresh⟩, ?_⟩
  · rw [countDown_ids]
    exact owned.banners
  · cases supervised with
    | linked state up active attempt isReconnecting quiet =>
        refine .linked state up active attempt isReconnecting
          ⟨quiet.reconnectTimer, quiet.timeouts, quiet.reconnectBanner, ?_,
            quiet.reconnectCountdownTimer, quiet.intervals, quiet.fresh⟩
        simp [countDown, quiet.banners]
    | retrying first last later active isReconnecting timeouts intervals
        shown banners =>
        refine .retrying first last later active isReconnecting timeouts
          intervals shown ?_
        simp [countDown, banners]
    | waiting first last active isReconnecting timer timeouts shown remaining
        positive few banners countdown intervals =>
        by_cases same : shown = banner
        · refine .waiting first last active isReconnecting timer timeouts
            shown (max (remaining - 1) 1) (Nat.le_max_right _ _) (by omega)
            ?_ countdown intervals
          simp [countDown, banners, same]
        · refine .waiting first last active isReconnecting timer timeouts
            shown remaining positive few ?_ countdown intervals
          simp [countDown, banners, same]
    | failed attempt active isReconnecting timeouts intervals shown banners =>
        refine .failed attempt active isReconnecting timeouts intervals shown
          ?_
        simp [countDown, banners]
    | dismissed attempt active isReconnecting quiet =>
        refine .dismissed attempt active isReconnecting
          ⟨quiet.reconnectTimer, quiet.timeouts, quiet.reconnectBanner, ?_,
            quiet.reconnectCountdownTimer, quiet.intervals, quiet.fresh⟩
        simp [countDown, quiet.banners]

/-- A timeout that fires is the one that the page waits for. -/
theorem owned_fired (kept : page.Owned ∧ page.Supervised) {timer : Nat}
    (member : timer ∈ page.timeouts.map Prod.fst) :
    { page with
      timeouts := clearEntry (some timer) page.timeouts
      reconnectTimer := none }.Owned := by
  have isTimer : page.reconnectTimer = some timer := by
    have owned := kept.1.timeouts
    rw [owned] at member
    simpa [eq_comm] using member
  have cleared : clearEntry (some timer) page.timeouts = [] := by
    rw [← isTimer]
    exact clearEntry_named kept.1.timeouts
  refine ⟨?_, kept.1.banners, kept.1.counting, kept.1.apart, kept.1.fresh⟩
  rw [cleared]
  rfl

/-- What a step does to a page whose timers and banners are its own: a socket
opens or is lost, a timer fires, a button is pressed, or something else is
sent. -/
inductive Move (page : ReconnectPage) :
    ReconnectEvent → ReconnectPage → Prop
  | opened (socket : Nat) (videoEnabled listed : Bool)
      (isConnecting : page.sockets[socket]? = some .connecting) :
      Move page (.opened socket videoEnabled listed)
        (if socket = 0 then
          (page.setSocket socket .open).onFirstOpen videoEnabled listed
        else
          (page.setSocket socket .open).onOpen socket videoEnabled listed)
  | loses {event : ReconnectEvent} (lost : ReconnectPage)
      (loses : page.Loses lost) : Move page event lost.scheduleReconnect
  | timeout (timer : Nat) (member : timer ∈ page.timeouts.map Prod.fst) :
      Move page (.timeout timer) (attemptReconnect { page with
        timeouts := clearEntry (some timer) page.timeouts
        reconnectTimer := none })
  | countDown (timer banner : Nat) :
      Move page (.interval timer) (page.countDown banner)
  | retryNow (banner remaining attempt : Nat)
      (shown : page.banners.lookup banner =
        some (.waiting remaining attempt)) :
      Move page (.retryNow banner) page.removeReconnectBanner.attemptReconnect
  | tryAgain (banner : Nat)
      (shown : page.banners.lookup banner = some .failed) :
      Move page (.tryAgain banner) page.removeReconnectBanner.beginReconnect
  | dismiss (banner : Nat)
      (shown : page.banners.lookup banner = some .failed) :
      Move page (.dismiss banner) page.removeReconnectBanner
  | sends {event : ReconnectEvent} (messages : List PageMessage)
      (noHello : .hello 3 ∉ messages) : Move page event (page.sendAll messages)

theorem move_of_step {event : ReconnectEvent}
    (kept : page.Owned ∧ page.Supervised)
    (taken : page.step event = some next) : page.Move event next := by
  cases event with
  | opened socket videoEnabled listed =>
      obtain ⟨isConnecting, opens⟩ := Option.ite_none_right_eq_some.mp taken
      cases opens
      exact .opened socket videoEnabled listed isConnecting
  | failed socket =>
      obtain ⟨lost, loses, rfl⟩ := step_lost kept (.inl taken)
      exact .loses lost loses
  | closed socket =>
      obtain ⟨lost, loses, rfl⟩ := step_lost kept (.inr taken)
      exact .loses lost loses
  | timeout timer =>
      obtain ⟨member, fires⟩ := Option.ite_none_right_eq_some.mp taken
      cases fires
      exact .timeout timer member
  | interval timer =>
      simp only [step] at taken
      split at taken <;> cases taken
      · exact .sends [.heartbeat] (by decide)
      · exact .countDown timer _
  | retryNow banner =>
      simp only [step] at taken
      split at taken <;> cases taken
      rename_i shown
      exact .retryNow banner _ _ shown
  | tryAgain banner =>
      simp only [step] at taken
      split at taken <;> cases taken
      rename_i shown
      exact .tryAgain banner shown
  | dismiss banner =>
      simp only [step] at taken
      split at taken <;> cases taken
      rename_i shown
      exact .dismiss banner shown
  | visibility hidden videoEnabled =>
      obtain ⟨-, notices⟩ := Option.ite_none_right_eq_some.mp taken
      cases notices
      unfold onVisibilityChange
      split
      · exact .sends [.pauseVideo] (by decide)
      · split
        · exact .sends [.resumeVideo, .requestKeyframe] (by decide)
        · exact .sends [] List.not_mem_nil
  | send message =>
      obtain ⟨ofHandler, sends⟩ := Option.ite_none_right_eq_some.mp taken
      cases sends
      refine .sends [message] fun isHello => ?_
      rw [← List.mem_singleton.mp isHello] at ofHandler
      cases ofHandler

theorem kept_step {event : ReconnectEvent}
    (kept : page.Owned ∧ page.Supervised)
    (taken : page.step event = some next) :
    next.Owned ∧ next.Supervised := by
  have quiet := kept.1.quiet_removeReconnectBanner
  cases move_of_step kept taken with
  | opened socket videoEnabled listed isConnecting =>
      have opens := kept_opened kept isConnecting videoEnabled listed
      split at opens
      · rename_i first
        rw [if_pos first]
        exact opens
      · rename_i later
        rw [if_neg later]
        exact opens
  | loses lost loses =>
      exact supervised_scheduleReconnect loses.owned loses.active loses.few
        loses.isReconnecting
  | timeout timer member =>
      obtain ⟨first, last, active, isReconnecting⟩ :=
        kept.2.waiting_of_timeout member
      exact supervised_attemptReconnect (owned_fired kept member) active
        first last isReconnecting
  | countDown timer banner => exact kept_countDown kept banner
  | retryNow banner _ _ shown =>
      obtain ⟨first, last, active, isReconnecting⟩ :=
        kept.2.waiting_of_lookup shown
      exact supervised_attemptReconnect quiet.owned active first last
        isReconnecting
  | tryAgain banner shown =>
      exact supervised_beginReconnect quiet.owned
        (kept.2.failed_of_lookup shown).2.1
  | dismiss banner shown =>
      obtain ⟨attempt, active, isReconnecting⟩ :=
        kept.2.failed_of_lookup shown
      exact ⟨quiet.owned, .dismissed attempt active isReconnecting quiet⟩
  | sends messages => exact kept_sendAll kept messages

theorem kept_start : start.Owned ∧ start.Supervised := by
  have quiet : start.Quiet :=
    ⟨rfl, rfl, rfl, rfl, rfl, rfl, fun _ isTimer => by cases isTimer⟩
  exact ⟨quiet.owned, .linked .connecting (by decide) rfl rfl rfl quiet⟩

/-- However sockets open and fail, timers fire and buttons are pressed: no
timer and no banner is left behind, no socket but the newest is up, and the
page is either linked, or trying, or waiting for one of ten attempts, or it
has given up and says so until the user dismisses that. -/
theorem supervised_along (execution : Transition.Execution step start) :
    execution.Along fun page => page.Owned ∧ page.Supervised := by
  refine execution.along_of_kept _ kept_start ?_
  intro before event after kept taken
  exact kept_step kept taken

end ReconnectPage

end Rylus
