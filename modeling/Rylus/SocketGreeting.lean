import Rylus.Reconnecting

/-!
# Greeting the server

On every socket the page sends a heartbeat, `Hello` and what the server needs
to know, before anything else.
-/

namespace Rylus

namespace ReconnectPage

variable {page next : ReconnectPage}

/-- What a socket has been sent. -/
def messagesTo (page : ReconnectPage) (socket : Nat) : List PageMessage :=
  (page.sent.filter fun message => message.1 = socket).map Prod.snd

/-- The first messages on a socket; a later socket asks for a keyframe. -/
def greeting (socket : Nat) (videoEnabled listed : Bool) :
    List PageMessage :=
  .heartbeat :: handshake videoEnabled listed ++
    if socket = 0 then [] else [.requestKeyframe]

/-- The socket was greeted, once. -/
def Greeted (page : ReconnectPage) (socket : Nat) : Prop :=
  ∃ videoEnabled listed rest,
    page.messagesTo socket = greeting socket videoEnabled listed ++ rest ∧
      .hello 3 ∉ rest

/-- Open sockets have been greeted, and nothing is sent before. -/
structure Greets (page : ReconnectPage) : Prop where
  whenOpen : ∀ socket, page.sockets[socket]? = some .open →
    page.Greeted socket
  before : ∀ socket, page.sockets[socket]? ≠ some .open →
    page.sockets[socket]? ≠ some .closed → page.messagesTo socket = []
  after : ∀ socket, page.sockets[socket]? = some .closed →
    page.messagesTo socket = [] ∨ page.Greeted socket

theorem messagesTo_wsSend_other {message : PageMessage} {socket : Nat}
    (other : socket ≠ page.activeWebSocket) :
    (page.wsSend message).messagesTo socket = page.messagesTo socket := by
  unfold wsSend
  split
  · simp [messagesTo, List.filter_append, Ne.symm other]
  · rfl

theorem messagesTo_wsSend_active {message : PageMessage}
    (connected : page.Connected) :
    (page.wsSend message).messagesTo page.activeWebSocket =
      page.messagesTo page.activeWebSocket ++ [message] := by
  have isOpen : page.sockets[page.activeWebSocket]? = some .open := connected
  unfold wsSend
  rw [if_pos isOpen]
  simp [messagesTo, List.filter_append]

theorem messagesTo_sendAll_other {socket : Nat} (messages : List PageMessage)
    (other : socket ≠ page.activeWebSocket) :
    (page.sendAll messages).messagesTo socket = page.messagesTo socket := by
  induction messages generalizing page with
  | nil => rfl
  | cons message rest ih =>
      obtain ⟨sent, sends⟩ := page.wsSend_eq message
      change ((page.wsSend message).sendAll rest).messagesTo socket = _
      rw [ih, messagesTo_wsSend_other other]
      rw [sends]
      exact other

theorem messagesTo_sendAll_active (messages : List PageMessage)
    (connected : page.Connected) :
    (page.sendAll messages).messagesTo page.activeWebSocket =
      page.messagesTo page.activeWebSocket ++ messages := by
  induction messages generalizing page with
  | nil => simp [sendAll]
  | cons message rest ih =>
      have sentOne : (page.wsSend message).messagesTo page.activeWebSocket =
          page.messagesTo page.activeWebSocket ++ [message] :=
        messagesTo_wsSend_active connected
      obtain ⟨sent, sends⟩ := page.wsSend_eq message
      change ((page.wsSend message).sendAll rest).messagesTo _ = _
      rw [sends] at sentOne ⊢
      have stillOpen : ({ page with sent := sent } :
          ReconnectPage).Connected := connected
      rw [ih stillOpen, sentOne, List.append_assoc]
      rfl

theorem Greeted.more {socket : Nat} {messages : List PageMessage}
    (greeted : page.Greeted socket)
    (sends : next.messagesTo socket = page.messagesTo socket ++ messages)
    (noHello : .hello 3 ∉ messages) : next.Greeted socket := by
  obtain ⟨videoEnabled, listed, rest, begins, once⟩ := greeted
  refine ⟨videoEnabled, listed, rest ++ messages, ?_, ?_⟩
  · rw [sends, begins, List.append_assoc]
  · simp [once, noHello]

theorem greets_sendAll (greets : page.Greets) (messages : List PageMessage)
    (noHello : .hello 3 ∉ messages) : (page.sendAll messages).Greets := by
  by_cases connected : page.Connected
  · -- only the active socket, an open one, is sent anything
    have more : ∀ socket, page.Greeted socket →
        (page.sendAll messages).Greeted socket := by
      intro socket greeted
      by_cases same : socket = page.activeWebSocket
      · subst same
        exact greeted.more (messagesTo_sendAll_active messages connected)
          noHello
      · have sends : (page.sendAll messages).messagesTo socket =
            page.messagesTo socket ++ [] := by
          rw [messagesTo_sendAll_other messages same, List.append_nil]
        exact greeted.more sends (by simp)
    have unsent : ∀ socket, page.sockets[socket]? ≠ some .open →
        (page.sendAll messages).messagesTo socket =
          page.messagesTo socket := by
      intro socket closed
      refine messagesTo_sendAll_other messages fun same => closed ?_
      rw [same]
      exact connected
    refine ⟨?_, ?_, ?_⟩
    · intro socket isOpen
      rw [sendAll_sockets] at isOpen
      exact more socket (greets.whenOpen socket isOpen)
    · intro socket notOpen notClosed
      rw [sendAll_sockets] at notOpen notClosed
      rw [unsent socket notOpen]
      exact greets.before socket notOpen notClosed
    · intro socket isClosed
      rw [sendAll_sockets] at isClosed
      rw [unsent socket (by rw [isClosed]; decide)]
      exact (greets.after socket isClosed).imp id (more socket)
  · have same : page.sendAll messages = page := by
      clear noHello
      induction messages with
      | nil => rfl
      | cons message rest ih =>
          change (page.wsSend message).sendAll rest = page
          rw [show page.wsSend message = page from if_neg connected]
          exact ih
    rw [same]
    exact greets

/-- Greetings depend on the sockets and on what was sent. -/
theorem greets_congr (greets : page.Greets)
    (sockets : next.sockets = page.sockets) (sent : next.sent = page.sent) :
    next.Greets := by
  have same : ∀ socket, next.messagesTo socket = page.messagesTo socket := by
    intro socket
    rw [messagesTo, sent]
    rfl
  refine ⟨?_, ?_, ?_⟩ <;> simp only [sockets, Greeted, same]
  · exact greets.whenOpen
  · exact greets.before
  · exact greets.after

theorem Loses.greets {lost : ReconnectPage} (loses : page.Loses lost)
    (greets : page.Greets) : lost.Greets := by
  have same : ∀ socket, lost.messagesTo socket = page.messagesTo socket := by
    intro socket
    rw [messagesTo, loses.sent]
    rfl
  have others : ∀ socket, socket ≠ page.activeWebSocket →
      lost.sockets[socket]? = page.sockets[socket]? := by
    intro socket other
    rw [loses.sockets, List.getElem?_set_ne (Ne.symm other)]
  have ended : ∀ found, lost.sockets[page.activeWebSocket]? = some found →
      found = .closed := by
    intro found isFound
    rw [loses.sockets, List.getElem?_set_self'] at isFound
    cases isThere : page.sockets[page.activeWebSocket]? with
    | none => simp [isThere] at isFound
    | some state => simpa [isThere, eq_comm] using isFound
  refine ⟨?_, ?_, ?_⟩ <;> simp only [Greeted, same]
  · intro socket isOpen
    by_cases active : socket = page.activeWebSocket
    · subst active
      cases ended _ isOpen
    · rw [others socket active] at isOpen
      exact greets.whenOpen socket isOpen
  · intro socket notOpen notClosed
    by_cases active : socket = page.activeWebSocket
    · subst active
      cases isThere : page.sockets[page.activeWebSocket]? with
      | none =>
          exact greets.before _ (by rw [isThere]; decide)
            (by rw [isThere]; decide)
      | some state =>
          rw [loses.sockets, List.getElem?_set_self', isThere] at notClosed
          exact absurd rfl notClosed
    · rw [others socket active] at notOpen notClosed
      exact greets.before socket notOpen notClosed
  · intro socket isClosed
    by_cases active : socket = page.activeWebSocket
    · subst active
      by_cases isOpen : page.sockets[page.activeWebSocket]? = some .open
      · exact .inr (greets.whenOpen _ isOpen)
      · by_cases wasClosed :
            page.sockets[page.activeWebSocket]? = some .closed
        · exact greets.after _ wasClosed
        · exact .inl (greets.before _ isOpen wasClosed)
    · rw [others socket active] at isClosed
      exact greets.after socket isClosed

theorem scheduleReconnect_sockets (page : ReconnectPage) :
    page.scheduleReconnect.sockets = page.sockets ∧
      page.scheduleReconnect.sent = page.sent := by
  unfold scheduleReconnect
  dsimp only
  split <;> exact ⟨rfl, rfl⟩

/-- A new socket has not been sent anything. -/
theorem greets_attemptReconnect (greets : page.Greets) :
    page.attemptReconnect.Greets := by
  have same : ∀ socket, page.attemptReconnect.messagesTo socket =
      page.messagesTo socket := fun _ => rfl
  have sockets : page.attemptReconnect.sockets =
      page.sockets ++ [.connecting] := rfl
  have found : ∀ (socket : Nat) (state : ReadyState),
      state ≠ .connecting →
      page.attemptReconnect.sockets[socket]? = some state →
        page.sockets[socket]? = some state := by
    intro socket state settled isFound
    rw [sockets, List.getElem?_append] at isFound
    split at isFound
    · exact isFound
    · rw [List.getElem?_singleton] at isFound
      split at isFound
      · cases isFound
        exact absurd rfl settled
      · cases isFound
  refine ⟨?_, ?_, ?_⟩ <;> simp only [Greeted, same]
  · intro socket isOpen
    exact greets.whenOpen socket (found socket _ (by decide) isOpen)
  · intro socket notOpen notClosed
    by_cases old : socket < page.sockets.length
    · rw [sockets, List.getElem?_append_left old] at notOpen notClosed
      exact greets.before socket notOpen notClosed
    · have none := List.getElem?_eq_none (Nat.not_lt.mp old)
      exact greets.before socket (by rw [none]; decide)
        (by rw [none]; decide)
  · intro socket isClosed
    exact greets.after socket (found socket _ (by decide) isClosed)

theorem messagesTo_startHeartbeat_active (connected : page.Connected) :
    page.startHeartbeat.messagesTo page.activeWebSocket =
      page.messagesTo page.activeWebSocket ++ [.heartbeat] :=
  messagesTo_wsSend_active (show page.stopHeartbeat.Connected from connected)

theorem messagesTo_startHeartbeat_other {socket : Nat}
    (other : socket ≠ page.activeWebSocket) :
    page.startHeartbeat.messagesTo socket = page.messagesTo socket :=
  messagesTo_wsSend_other
    (show socket ≠ page.stopHeartbeat.activeWebSocket from other)

/-- The active socket opens and is greeted. -/
theorem greets_opened {opened : ReconnectPage} (greets : page.Greets)
    (wasConnecting : page.sockets[page.activeWebSocket]? = some .connecting)
    (sockets : opened.sockets =
      page.sockets.set page.activeWebSocket .open)
    (active : opened.activeWebSocket = page.activeWebSocket)
    (sent : opened.sent = page.sent) (videoEnabled listed : Bool)
    {messages : List PageMessage}
    (greeting : .heartbeat :: messages =
      greeting page.activeWebSocket videoEnabled listed) :
    (opened.startHeartbeat.sendAll messages).Greets := by
  have same : ∀ socket, opened.messagesTo socket =
      page.messagesTo socket := by
    intro socket
    rw [messagesTo, sent]
    rfl
  have connected : opened.Connected := by
    rw [Connected, active, sockets, List.getElem?_set_self', wasConnecting]
    rfl
  have started : opened.startHeartbeat.Connected := by
    rw [Connected, startHeartbeat_sockets, startHeartbeat_activeWebSocket]
    exact connected
  have begins : (opened.startHeartbeat.sendAll messages).messagesTo
      page.activeWebSocket =
      .heartbeat :: messages := by
    have sends := messagesTo_sendAll_active messages started
    rw [startHeartbeat_activeWebSocket,
      messagesTo_startHeartbeat_active connected, same, active,
      greets.before _ (by rw [wasConnecting]; decide)
        (by rw [wasConnecting]; decide)] at sends
    exact sends
  have others : ∀ socket, socket ≠ page.activeWebSocket →
      (opened.startHeartbeat.sendAll messages).messagesTo socket =
        page.messagesTo socket := by
    intro socket other
    rw [← active] at other
    rw [messagesTo_sendAll_other, messagesTo_startHeartbeat_other other, same]
    rw [startHeartbeat_activeWebSocket]
    exact other
  have states : ∀ socket, socket ≠ page.activeWebSocket →
      (opened.startHeartbeat.sendAll messages).sockets[socket]? =
        page.sockets[socket]? := by
    intro socket other
    rw [sendAll_sockets, startHeartbeat_sockets, sockets,
      List.getElem?_set_ne (Ne.symm other)]
  have greeted : (opened.startHeartbeat.sendAll messages).Greeted
      page.activeWebSocket := by
    refine ⟨videoEnabled, listed, [], ?_, by simp⟩
    rw [begins, greeting, List.append_nil]
  have isOpen : (opened.startHeartbeat.sendAll messages).sockets[
      page.activeWebSocket]? = some .open := by
    rw [sendAll_sockets, startHeartbeat_sockets, ← active]
    exact connected
  refine ⟨?_, ?_, ?_⟩
  · intro socket found
    by_cases same : socket = page.activeWebSocket
    · exact same ▸ greeted
    · rw [states socket same] at found
      rw [Greeted, others socket same]
      exact greets.whenOpen socket found
  · intro socket notOpen notClosed
    by_cases same : socket = page.activeWebSocket
    · rw [same, isOpen] at notOpen
      exact absurd rfl notOpen
    · rw [states socket same] at notOpen notClosed
      rw [others socket same]
      exact greets.before socket notOpen notClosed
  · intro socket found
    by_cases same : socket = page.activeWebSocket
    · exact .inr (same ▸ greeted)
    · rw [states socket same] at found
      rw [Greeted, others socket same]
      exact greets.after socket found

/-- The socket that is connecting is the active one. -/
theorem Supervised.eq_active_of_connecting (supervised : page.Supervised)
    {socket : Nat} (isConnecting : page.sockets[socket]? = some .connecting) :
    socket = page.activeWebSocket := by
  have up : ReadyState.connecting ≠ .closed := by decide
  cases supervised with
  | linked _ _ active => exact (active.eq_active isConnecting up).1
  | retrying _ _ _ active => exact (active.eq_active isConnecting up).1
  | waiting _ _ active => exact (active.eq_active isConnecting up).1
  | failed _ active => exact (active.eq_active isConnecting up).1
  | dismissed _ active => exact (active.eq_active isConnecting up).1

theorem greets_step {event : ReconnectEvent}
    (kept : page.Owned ∧ page.Supervised) (greets : page.Greets)
    (taken : page.step event = some next) : next.Greets := by
  cases move_of_step kept taken with
  | opened socket videoEnabled listed isConnecting =>
      obtain rfl := kept.2.eq_active_of_connecting isConnecting
      split
      · rename_i first
        refine greets_congr (greets_opened greets isConnecting ?_ ?_ ?_
          videoEnabled listed ?_) rfl rfl
        · rfl
        · rfl
        · rfl
        · simp [greeting, first]
      · rename_i later
        refine greets_congr (greets_opened greets isConnecting ?_ ?_ ?_
          videoEnabled listed ?_) rfl rfl
        · rfl
        · rfl
        · rfl
        · simp [greeting, later]
  | loses lost loses =>
      obtain ⟨sockets, sent⟩ := lost.scheduleReconnect_sockets
      exact greets_congr (loses.greets greets) sockets sent
  | timeout => exact greets_attemptReconnect (greets_congr greets rfl rfl)
  | countDown => exact greets_congr greets rfl rfl
  | retryNow => exact greets_attemptReconnect (greets_congr greets rfl rfl)
  | tryAgain =>
      obtain ⟨sockets, sent⟩ := scheduleReconnect_sockets
        { page.removeReconnectBanner with
          isReconnecting := true
          reconnectAttempt := 0 }
      exact greets_congr greets sockets sent
  | dismiss => exact greets_congr greets rfl rfl
  | sends messages noHello => exact greets_sendAll greets messages noHello

theorem greets_start : start.Greets where
  whenOpen socket isOpen := by
    cases socket with
    | zero => cases isOpen
    | succ socket => cases isOpen
  before _ _ _ := rfl
  after _ _ := .inl rfl

/-- Every socket that has been open was sent the greeting first, and `Hello`
in no other place; the others were sent nothing. -/
theorem greets_along (execution : Transition.Execution step start) :
    execution.Along Greets := by
  have along := execution.along_of_kept
    (fun page => (page.Owned ∧ page.Supervised) ∧ page.Greets)
    ⟨kept_start, greets_start⟩ fun before event after kept taken =>
      ⟨kept_step kept.1 taken, greets_step kept.1 kept.2 taken⟩
  intro taken rest page split runs
  exact (along taken rest page split runs).2

end ReconnectPage

end Rylus
