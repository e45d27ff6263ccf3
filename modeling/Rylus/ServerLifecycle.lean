import Mathlib.Tactic.IntervalCases
import Rylus.LabelledExecution

/-!
# Starting and stopping the server

The window starts and stops a server any number of times.  `start` waits for
the web thread to be bound; `stop` leaves a permit for it and joins it, and
then the thread that passes its messages on, which lives as long as anybody
can send one.  The web thread accepts connections until it takes the permit,
and then waits for the clients that it has counted.

Connections may still be upgraded while the web thread returns.  The runtime
takes their tasks with it, but not the threads of their sessions.
-/

namespace Rylus

/-- Where `run_server` is: it accepts a connection, or does its TLS handshake;
it has taken the permit, waits for clients, or has found none left. -/
inductive WebThread where
  | absent
  | binding
  | accepting
  | handshaking
  | stopping
  | draining
  | returning
  | ended
  deriving DecidableEq

/-- A client that is counted: its connection is upgraded, its session runs, the
reader of the session has stopped, the session is over. -/
inductive WebClient where
  | upgrading
  | running
  | closing
  | finishing
  deriving DecidableEq

/-- The thread of the window: inside of `start` or of `stop`, or in neither. -/
inductive MainThread where
  | idle
  | starting
  | joiningWeb
  | joiningUi
  deriving DecidableEq

inductive ServerState where
  | stopped
  | starting
  | running
  deriving DecidableEq

/-- The fields of `RylusApp` and `Rylus`, the permit stored in
`notify_shutdown`, the web thread with what it shares with its clients, and
the sessions that have outlived the runtime. -/
structure ServerLifecycle where
  serverState : ServerState
  main : MainThread
  exited : Bool
  webThread : Bool
  uiThread : Bool
  mdnsPublisher : Bool
  notifyShutdown : Bool
  web : WebThread
  numClients : Nat
  permits : Nat
  clients : List WebClient
  orphans : Nat

/-- Steps of the window: a server is started, with an address that may not
parse; it is stopped; the window is closed.  Steps of `start` and `stop`.
Steps of the web thread.  Steps of clients. -/
inductive LifecycleStep where
  | start (parses : Bool)
  | stop
  | quit
  | started (registers : Bool)
  | startFailed
  | joinWeb
  | joinUi
  | bound (ok : Bool)
  | accept
  | handshaken
  | shutdown
  | addPermits
  | tick
  | drained
  | returned
  | upgrade
  | upgraded (client : Nat) (ok : Bool)
  | peerCloses (client : Nat)
  | released (client : Nat)
  | ends (client : Nat)
  | leaves (client : Nat)
  | orphanEnds

namespace WebThread

/-- Connections are served: also while the thread returns. -/
def serves : WebThread → Bool
  | .accepting | .handshaking | .stopping | .draining | .returning => true
  | .absent | .binding | .ended => false

end WebThread

namespace WebClient

/-- The thread of the session has its sender. -/
def hasSession : WebClient → Bool
  | .running | .closing => true
  | .upgrading | .finishing => false

end WebClient

namespace ServerLifecycle

/-- A window with no server yet. -/
def opened : ServerLifecycle where
  serverState := .stopped
  main := .idle
  exited := false
  webThread := false
  uiThread := false
  mdnsPublisher := false
  notifyShutdown := false
  web := .absent
  numClients := 0
  permits := 0
  clients := []
  orphans := 0

/-- `Rylus::stop`, up to `wait`. -/
def requestStop (state : ServerLifecycle) : ServerLifecycle :=
  { state with
    mdnsPublisher := false
    notifyShutdown := true
    main := .joiningWeb }

def setClient (state : ServerLifecycle) (client : Nat) (phase : WebClient) :
    ServerLifecycle :=
  { state with clients := state.clients.set client phase }

/-- A client is no longer counted. -/
def removeClient (state : ServerLifecycle) (client : Nat) :
    ServerLifecycle :=
  { state with
    clients := state.clients.eraseIdx client
    numClients := state.numClients - 1 }

def step (state : ServerLifecycle) : LifecycleStep → Option ServerLifecycle
  | .start parses =>
      if state.main = .idle ∧ state.exited = false ∧
          state.serverState = .stopped then
        if parses then
          some { state with
            serverState := .starting
            main := .starting
            web := .binding
            numClients := 0
            permits := 0
            clients := [] }
        else
          some state
      else
        none
  | .stop =>
      if state.main = .idle ∧ state.exited = false ∧
          state.serverState = .running then
        some state.requestStop
      else
        none
  | .quit =>
      if state.main = .idle ∧ state.exited = false then
        some { state.requestStop with exited := true }
      else
        none
  | .started registers =>
      if state.main = .starting ∧ state.web.serves then
        some { state with
          serverState := .running
          main := .idle
          webThread := true
          uiThread := true
          mdnsPublisher := registers }
      else
        none
  | .startFailed =>
      if state.main = .starting ∧ state.web = .ended then
        some { state with
          serverState := .stopped
          main := .idle
          web := .absent }
      else
        none
  | .joinWeb =>
      if state.main = .joiningWeb then
        if state.webThread then
          if state.web = .ended then
            some { state with
              main := .joiningUi
              webThread := false
              web := .absent }
          else
            none
        else
          some { state with main := .joiningUi }
      else
        none
  | .joinUi =>
      if state.main = .joiningUi ∧
          (state.uiThread = false ∨
            state.web = .absent ∧ state.orphans = 0) then
        some { state with
          serverState := .stopped
          main := .idle
          uiThread := false }
      else
        none
  | .bound ok =>
      if state.web = .binding then
        some { state with web := if ok then .accepting else .ended }
      else
        none
  | .accept =>
      if state.web = .accepting then
        some { state with web := .handshaking }
      else
        none
  | .handshaken =>
      if state.web = .handshaking then
        some { state with web := .accepting }
      else
        none
  | .shutdown =>
      if state.web = .accepting ∧ state.notifyShutdown then
        some { state with web := .stopping, notifyShutdown := false }
      else
        none
  | .addPermits =>
      if state.web = .stopping then
        some { state with
          web := .draining
          permits := state.permits + state.numClients }
      else
        none
  | .tick =>
      if state.web = .draining ∧ state.numClients ≠ 0 then
        some { state with permits := state.permits + state.numClients }
      else
        none
  | .drained =>
      if state.web = .draining ∧ state.numClients = 0 then
        some { state with web := .returning }
      else
        none
  | .returned =>
      if state.web = .returning then
        some { state with
          web := .ended
          clients := []
          orphans := state.clients.countP WebClient.hasSession }
      else
        none
  | .upgrade =>
      if state.web.serves then
        some { state with
          numClients := state.numClients + 1
          clients := state.clients ++ [.upgrading] }
      else
        none
  | .upgraded client ok =>
      if state.clients[client]? = some .upgrading then
        some (if ok then state.setClient client .running
          else state.removeClient client)
      else
        none
  | .peerCloses client =>
      if state.clients[client]? = some .running then
        some (state.setClient client .closing)
      else
        none
  | .released client =>
      if state.clients[client]? = some .running ∧ 0 < state.permits then
        some (state.setClient client .closing)
      else
        none
  | .ends client =>
      if state.clients[client]? = some .closing then
        some (state.setClient client .finishing)
      else
        none
  | .leaves client =>
      if state.clients[client]? = some .finishing then
        some (state.removeClient client)
      else
        none
  | .orphanEnds =>
      if state.orphans ≠ 0 then
        some { state with orphans := state.orphans - 1 }
      else
        none

/-- Nothing of a server is left. -/
structure Gone (state : ServerLifecycle) : Prop where
  webThread : state.webThread = false
  uiThread : state.uiThread = false
  mdnsPublisher : state.mdnsPublisher = false
  web : state.web = .absent
  clients : state.clients = []
  orphans : state.orphans = 0

/-- What the window's thread can rely on. -/
inductive Orderly (state : ServerLifecycle) : Prop
  | stopped (main : state.main = .idle)
      (serverState : state.serverState = .stopped) (gone : state.Gone)
      (permit : state.exited = false → state.notifyShutdown = false)
  | starting (main : state.main = .starting)
      (exited : state.exited = false)
      (webThread : state.webThread = false)
      (uiThread : state.uiThread = false)
      (mdnsPublisher : state.mdnsPublisher = false)
      (permit : state.notifyShutdown = false)
      (web : state.web = .binding ∨ state.web = .accepting ∨
        state.web = .handshaking ∨ state.web = .ended)
      (orphans : state.orphans = 0)
  | running (main : state.main = .idle)
      (serverState : state.serverState = .running)
      (exited : state.exited = false)
      (webThread : state.webThread = true)
      (uiThread : state.uiThread = true)
      (permit : state.notifyShutdown = false)
      (web : state.web = .accepting ∨ state.web = .handshaking)
      (orphans : state.orphans = 0)
  | stopping (main : state.main = .joiningWeb)
      (webThread : state.webThread = true)
      (uiThread : state.uiThread = true)
      (mdnsPublisher : state.mdnsPublisher = false)
      (web : (state.web = .accepting ∨ state.web = .handshaking) ∧
          state.notifyShutdown = true ∧ state.orphans = 0 ∨
        (state.web = .stopping ∨ state.web = .draining ∨
          state.web = .returning) ∧
          state.notifyShutdown = false ∧ state.orphans = 0 ∨
        state.web = .ended ∧ state.notifyShutdown = false)
  | joined (main : state.main = .joiningUi)
      (webThread : state.webThread = false)
      (uiThread : state.uiThread = true)
      (mdnsPublisher : state.mdnsPublisher = false)
      (permit : state.notifyShutdown = false)
      (web : state.web = .absent)
  | leaving (main : state.main = .joiningWeb ∨ state.main = .joiningUi)
      (exited : state.exited = true) (gone : state.Gone)
      (permit : state.notifyShutdown = true)

/-- The clients counted are there, and only while connections are served. -/
structure Counted (state : ServerLifecycle) : Prop where
  serving : state.web.serves = true → state.numClients = state.clients.length
  others : state.web.serves = false → state.clients = []
  fresh : state.web = .binding → state.numClients = 0

variable {state next : ServerLifecycle} {label : LifecycleStep}

/-- What a step does, and when it is taken. -/
inductive Move (state : ServerLifecycle) :
    LifecycleStep → ServerLifecycle → Prop
  | start (idle : state.main = .idle) (stays : state.exited = false)
      (isStopped : state.serverState = .stopped) :
      Move state (.start true) { state with
        serverState := .starting
        main := .starting
        web := .binding
        numClients := 0
        permits := 0
        clients := [] }
  | badAddress : Move state (.start false) state
  | stop (idle : state.main = .idle) (stays : state.exited = false)
      (isRunning : state.serverState = .running) :
      Move state .stop state.requestStop
  | quit (idle : state.main = .idle) (stays : state.exited = false) :
      Move state .quit { state.requestStop with exited := true }
  | started (registers : Bool) (isStarting : state.main = .starting)
      (serves : state.web.serves = true) :
      Move state (.started registers) { state with
        serverState := .running
        main := .idle
        webThread := true
        uiThread := true
        mdnsPublisher := registers }
  | startFailed (isStarting : state.main = .starting)
      (isEnded : state.web = .ended) :
      Move state .startFailed { state with
        serverState := .stopped
        main := .idle
        web := .absent }
  | joinWeb (joining : state.main = .joiningWeb)
      (webThread : state.webThread = true) (isEnded : state.web = .ended) :
      Move state .joinWeb { state with
        main := .joiningUi
        webThread := false
        web := .absent }
  | joinNone (joining : state.main = .joiningWeb)
      (webThread : state.webThread = false) :
      Move state .joinWeb { state with main := .joiningUi }
  | joinUi (joining : state.main = .joiningUi)
      (noSenders : state.uiThread = false ∨
        state.web = .absent ∧ state.orphans = 0) :
      Move state .joinUi { state with
        serverState := .stopped
        main := .idle
        uiThread := false }
  | bound (ok : Bool) (isBinding : state.web = .binding) :
      Move state (.bound ok) { state with
        web := if ok then .accepting else .ended }
  | accept (accepting : state.web = .accepting) :
      Move state .accept { state with web := .handshaking }
  | handshaken (handshaking : state.web = .handshaking) :
      Move state .handshaken { state with web := .accepting }
  | shutdown (accepting : state.web = .accepting)
      (notified : state.notifyShutdown = true) :
      Move state .shutdown { state with
        web := .stopping
        notifyShutdown := false }
  | addPermits (isStopping : state.web = .stopping) :
      Move state .addPermits { state with
        web := .draining
        permits := state.permits + state.numClients }
  | tick (draining : state.web = .draining) :
      Move state .tick { state with
        permits := state.permits + state.numClients }
  | drained (draining : state.web = .draining)
      (none : state.numClients = 0) :
      Move state .drained { state with web := .returning }
  | returned (isReturning : state.web = .returning) :
      Move state .returned { state with
        web := .ended
        clients := []
        orphans := state.clients.countP WebClient.hasSession }
  | upgrade (serves : state.web.serves = true) :
      Move state .upgrade { state with
        numClients := state.numClients + 1
        clients := state.clients ++ [.upgrading] }
  | clientMoves {label : LifecycleStep} (client : Nat) (after : WebClient)
      (isThere : state.clients[client]? ≠ none) :
      Move state label (state.setClient client after)
  | clientLeaves {label : LifecycleStep} (client : Nat)
      (isThere : state.clients[client]? ≠ none) :
      Move state label (state.removeClient client)
  | orphanEnds (left : state.orphans ≠ 0) :
      Move state .orphanEnds { state with orphans := state.orphans - 1 }

/-- Every step is one of these moves. -/
theorem move_of_step (taken : state.step label = some next) :
    state.Move label next := by
  have guarded {enabled : Prop} [Decidable enabled]
      {after : ServerLifecycle}
      (taken : (if enabled then some after else none) = some next) :
      enabled ∧ after = next :=
    (Option.ite_none_right_eq_some.mp taken).imp_right Option.some.inj
  have present {client : Nat} {phase : WebClient}
      (isThere : state.clients[client]? = some phase) :
      state.clients[client]? ≠ none := by
    rw [isThere]
    exact Option.some_ne_none phase
  cases label with
  | start parses =>
      obtain ⟨⟨idle, stays, isStopped⟩, taken⟩ :=
        Option.ite_none_right_eq_some.mp taken
      cases parses with
      | true =>
          cases taken
          exact .start idle stays isStopped
      | false =>
          cases taken
          exact .badAddress
  | stop =>
      obtain ⟨⟨idle, stays, isRunning⟩, rfl⟩ := guarded taken
      exact .stop idle stays isRunning
  | quit =>
      obtain ⟨⟨idle, stays⟩, rfl⟩ := guarded taken
      exact .quit idle stays
  | started registers =>
      obtain ⟨⟨isStarting, serves⟩, rfl⟩ := guarded taken
      exact .started registers isStarting serves
  | startFailed =>
      obtain ⟨⟨isStarting, isEnded⟩, rfl⟩ := guarded taken
      exact .startFailed isStarting isEnded
  | joinWeb =>
      obtain ⟨joining, taken⟩ := Option.ite_none_right_eq_some.mp taken
      cases webThread : state.webThread with
      | true =>
          rw [if_pos webThread] at taken
          obtain ⟨isEnded, rfl⟩ := guarded taken
          exact .joinWeb joining webThread isEnded
      | false =>
          rw [if_neg (by simp [webThread])] at taken
          cases taken
          exact .joinNone joining webThread
  | joinUi =>
      obtain ⟨⟨joining, noSenders⟩, rfl⟩ := guarded taken
      exact .joinUi joining noSenders
  | bound ok =>
      obtain ⟨isBinding, rfl⟩ := guarded taken
      exact .bound ok isBinding
  | accept =>
      obtain ⟨accepting, rfl⟩ := guarded taken
      exact .accept accepting
  | handshaken =>
      obtain ⟨handshaking, rfl⟩ := guarded taken
      exact .handshaken handshaking
  | shutdown =>
      obtain ⟨⟨accepting, notified⟩, rfl⟩ := guarded taken
      exact .shutdown accepting notified
  | addPermits =>
      obtain ⟨isStopping, rfl⟩ := guarded taken
      exact .addPermits isStopping
  | tick =>
      obtain ⟨⟨draining, _⟩, rfl⟩ := guarded taken
      exact .tick draining
  | drained =>
      obtain ⟨⟨draining, none⟩, rfl⟩ := guarded taken
      exact .drained draining none
  | returned =>
      obtain ⟨isReturning, rfl⟩ := guarded taken
      exact .returned isReturning
  | upgrade =>
      obtain ⟨serves, rfl⟩ := guarded taken
      exact .upgrade serves
  | upgraded client ok =>
      obtain ⟨isThere, rfl⟩ := guarded taken
      cases ok with
      | true => exact .clientMoves client _ (present isThere)
      | false => exact .clientLeaves client (present isThere)
  | peerCloses client =>
      obtain ⟨isThere, rfl⟩ := guarded taken
      exact .clientMoves client _ (present isThere)
  | released client =>
      obtain ⟨⟨isThere, _⟩, rfl⟩ := guarded taken
      exact .clientMoves client _ (present isThere)
  | ends client =>
      obtain ⟨isThere, rfl⟩ := guarded taken
      exact .clientMoves client _ (present isThere)
  | leaves client =>
      obtain ⟨isThere, rfl⟩ := guarded taken
      exact .clientLeaves client (present isThere)
  | orphanEnds =>
      obtain ⟨left, rfl⟩ := guarded taken
      exact .orphanEnds left

/-- What `Orderly` looks at, but for the clients. -/
structure Alike (state next : ServerLifecycle) : Prop where
  serverState : next.serverState = state.serverState
  main : next.main = state.main
  exited : next.exited = state.exited
  webThread : next.webThread = state.webThread
  uiThread : next.uiThread = state.uiThread
  mdnsPublisher : next.mdnsPublisher = state.mdnsPublisher
  permit : next.notifyShutdown = state.notifyShutdown
  web : next.web = state.web
  orphans : next.orphans = state.orphans

theorem Gone.of_alike (gone : state.Gone) (alike : state.Alike next)
    (clients : state.clients = [] → next.clients = []) : next.Gone where
  webThread := alike.webThread.trans gone.webThread
  uiThread := alike.uiThread.trans gone.uiThread
  mdnsPublisher := alike.mdnsPublisher.trans gone.mdnsPublisher
  web := alike.web.trans gone.web
  clients := clients gone.clients
  orphans := alike.orphans.trans gone.orphans

theorem Orderly.of_alike (orderly : state.Orderly) (alike : state.Alike next)
    (clients : state.clients = [] → next.clients = []) : next.Orderly := by
  obtain ⟨serverStates, mains, exits, webThreads, uiThreads, publishers,
    permits, webs, orphaned⟩ := alike
  cases orderly with
  | stopped main serverState gone permit =>
      refine .stopped (mains.trans main) (serverStates.trans serverState)
        (gone.of_alike ⟨serverStates, mains, exits, webThreads, uiThreads,
          publishers, permits, webs, orphaned⟩ clients) ?_
      rw [permits, exits]
      exact permit
  | starting main exited webThread uiThread mdnsPublisher permit web orphans =>
      refine .starting (mains.trans main) (exits.trans exited)
        (webThreads.trans webThread) (uiThreads.trans uiThread)
        (publishers.trans mdnsPublisher) (permits.trans permit) ?_
        (orphaned.trans orphans)
      rw [webs]
      exact web
  | running main serverState exited webThread uiThread permit web orphans =>
      refine .running (mains.trans main) (serverStates.trans serverState)
        (exits.trans exited) (webThreads.trans webThread)
        (uiThreads.trans uiThread) (permits.trans permit) ?_
        (orphaned.trans orphans)
      rw [webs]
      exact web
  | stopping main webThread uiThread mdnsPublisher web =>
      refine .stopping (mains.trans main) (webThreads.trans webThread)
        (uiThreads.trans uiThread) (publishers.trans mdnsPublisher) ?_
      rw [webs, permits, orphaned]
      exact web
  | joined main webThread uiThread mdnsPublisher permit web =>
      exact .joined (mains.trans main) (webThreads.trans webThread)
        (uiThreads.trans uiThread) (publishers.trans mdnsPublisher)
        (permits.trans permit) (webs.trans web)
  | leaving main exited gone permit =>
      refine .leaving ?_ (exits.trans exited)
        (gone.of_alike ⟨serverStates, mains, exits, webThreads, uiThreads,
          publishers, permits, webs, orphaned⟩ clients)
        (permits.trans permit)
      rw [mains]
      exact main

theorem alike_client (client : Nat) (after : WebClient) :
    state.Alike (state.removeClient client) ∧
      state.Alike (state.setClient client after) :=
  ⟨⟨rfl, rfl, rfl, rfl, rfl, rfl, rfl, rfl, rfl⟩,
    ⟨rfl, rfl, rfl, rfl, rfl, rfl, rfl, rfl, rfl⟩⟩

theorem Orderly.of_client (orderly : state.Orderly) {client : Nat}
    (isThere : state.clients[client]? ≠ none) (alike : state.Alike next) :
    next.Orderly := by
  refine orderly.of_alike alike fun none => ?_
  rw [none] at isThere
  exact absurd rfl isThere

/-- Connections are served where there is a client. -/
theorem Counted.serves_of_client (counted : state.Counted) {client : Nat}
    (isThere : state.clients[client]? ≠ none) :
    state.web.serves = true ∧ state.web ≠ .binding := by
  have serves : state.web.serves = true := by
    cases isServing : state.web.serves with
    | true => rfl
    | false =>
        rw [counted.others isServing] at isThere
        exact absurd rfl isThere
  refine ⟨serves, ?_⟩
  intro isBinding
  simp [isBinding, WebThread.serves] at serves

theorem Counted.setClient (counted : state.Counted) {client : Nat}
    (isThere : state.clients[client]? ≠ none) (after : WebClient) :
    (state.setClient client after).Counted := by
  obtain ⟨serves, served⟩ := counted.serves_of_client isThere
  refine ⟨fun _ => ?_, fun idle => ?_, fun isBinding =>
    absurd isBinding served⟩
  · change state.numClients = (state.clients.set client after).length
    rw [List.length_set, counted.serving serves]
  · exact absurd (serves.symm.trans idle) (by decide)

theorem Counted.removeClient (counted : state.Counted) {client : Nat}
    (isThere : state.clients[client]? ≠ none) :
    (state.removeClient client).Counted := by
  obtain ⟨serves, served⟩ := counted.serves_of_client isThere
  have bound : client < state.clients.length := by
    by_contra beyond
    exact isThere (List.getElem?_eq_none (Nat.le_of_not_lt beyond))
  refine ⟨fun _ => ?_, fun idle => ?_, fun isBinding =>
    absurd isBinding served⟩
  · change state.numClients - 1 = (state.clients.eraseIdx client).length
    rw [List.length_eraseIdx_of_lt bound, counted.serving serves]
  · exact absurd (serves.symm.trans idle) (by decide)

/-- A thread that is idle while no server runs has left nothing behind. -/
theorem Orderly.gone_of_stopped (orderly : state.Orderly)
    (main : state.main = .idle) (serverState : state.serverState ≠ .running) :
    state.Gone ∧
      (state.exited = false → state.notifyShutdown = false) := by
  cases orderly with
  | stopped _ _ gone permit => exact ⟨gone, permit⟩
  | running _ isRunning => exact absurd isRunning serverState
  | starting isMain => simp [main] at isMain
  | stopping isMain => simp [main] at isMain
  | joined isMain => simp [main] at isMain
  | leaving isMain => simp [main] at isMain

theorem Orderly.requestStop (orderly : state.Orderly)
    (main : state.main = .idle) (serverState : state.serverState = .running) :
    state.requestStop.Orderly := by
  cases orderly with
  | running _ _ _ webThread uiThread _ web orphans =>
      exact .stopping rfl webThread uiThread rfl (.inl ⟨web, rfl, orphans⟩)
  | stopped _ isStopped => simp [serverState] at isStopped
  | starting isMain => simp [main] at isMain
  | stopping isMain => simp [main] at isMain
  | joined isMain => simp [main] at isMain
  | leaving isMain => simp [main] at isMain

theorem Orderly.quit (orderly : state.Orderly) (idle : state.main = .idle)
    (stays : state.exited = false) :
    { state.requestStop with exited := true }.Orderly := by
  by_cases isRunning : state.serverState = .running
  · cases orderly.requestStop idle isRunning with
    | stopping main webThread uiThread mdnsPublisher web =>
        exact .stopping main webThread uiThread mdnsPublisher web
    | stopped main => cases main
    | starting main => cases main
    | running main => cases main
    | joined main => cases main
    | leaving main exited gone =>
        have exits : state.exited = true := exited
        rw [stays] at exits
        cases exits
  · obtain ⟨gone, -⟩ := orderly.gone_of_stopped idle isRunning
    exact .leaving (.inl rfl) rfl ⟨gone.webThread, gone.uiThread, rfl,
      gone.web, gone.clients, gone.orphans⟩ rfl

theorem Orderly.started (orderly : state.Orderly)
    (isStarting : state.main = .starting)
    (serves : state.web.serves = true) (registers : Bool) :
    { state with
      serverState := .running
      main := .idle
      webThread := true
      uiThread := true
      mdnsPublisher := registers }.Orderly := by
  cases orderly with
  | starting _ exited _ _ _ permit web orphans =>
      refine .running rfl rfl exited rfl rfl permit ?_ orphans
      rcases web with isBinding | accepts | shakes | isEnded
      · simp [isBinding, WebThread.serves] at serves
      · exact .inl accepts
      · exact .inr shakes
      · simp [isEnded, WebThread.serves] at serves
  | stopped isMain => simp [isStarting] at isMain
  | running isMain => simp [isStarting] at isMain
  | stopping isMain => simp [isStarting] at isMain
  | joined isMain => simp [isStarting] at isMain
  | leaving isMain => simp [isStarting] at isMain

theorem Orderly.startFailed (orderly : state.Orderly)
    (isStarting : state.main = .starting) (noClients : state.clients = []) :
    { state with
      serverState := .stopped
      main := .idle
      web := .absent }.Orderly := by
  cases orderly with
  | starting _ exited webThread uiThread mdnsPublisher permit _ orphans =>
      exact .stopped rfl rfl ⟨webThread, uiThread, mdnsPublisher, rfl,
        noClients, orphans⟩ fun _ => permit
  | stopped isMain => simp [isStarting] at isMain
  | running isMain => simp [isStarting] at isMain
  | stopping isMain => simp [isStarting] at isMain
  | joined isMain => simp [isStarting] at isMain
  | leaving isMain => simp [isStarting] at isMain

theorem Orderly.joinWeb (orderly : state.Orderly)
    (joining : state.main = .joiningWeb) (webThread : state.webThread = true)
    (isEnded : state.web = .ended) :
    { state with
      main := .joiningUi
      webThread := false
      web := .absent }.Orderly := by
  cases orderly with
  | stopping _ _ uiThread mdnsPublisher web =>
      refine .joined rfl rfl uiThread mdnsPublisher ?_ rfl
      rcases web with ⟨accepts | shakes, -⟩ | ⟨stops | drains | returns, -⟩ |
        ⟨-, permit⟩
      · simp [isEnded] at accepts
      · simp [isEnded] at shakes
      · simp [isEnded] at stops
      · simp [isEnded] at drains
      · simp [isEnded] at returns
      · exact permit
  | leaving _ _ gone => simp [gone.webThread] at webThread
  | stopped isMain => simp [joining] at isMain
  | starting isMain => simp [joining] at isMain
  | running isMain => simp [joining] at isMain
  | joined isMain => simp [joining] at isMain

theorem Orderly.joinNone (orderly : state.Orderly)
    (joining : state.main = .joiningWeb)
    (webThread : state.webThread = false) :
    { state with main := .joiningUi }.Orderly := by
  cases orderly with
  | leaving _ exited gone permit =>
      exact .leaving (.inr rfl) exited ⟨gone.webThread, gone.uiThread,
        gone.mdnsPublisher, gone.web, gone.clients, gone.orphans⟩ permit
  | stopping _ isThere => simp [webThread] at isThere
  | stopped isMain => simp [joining] at isMain
  | starting isMain => simp [joining] at isMain
  | running isMain => simp [joining] at isMain
  | joined isMain => simp [joining] at isMain

theorem Orderly.joinUi (orderly : state.Orderly) (counted : state.Counted)
    (joining : state.main = .joiningUi)
    (noSenders : state.uiThread = false ∨
      state.web = .absent ∧ state.orphans = 0) :
    { state with
      serverState := .stopped
      main := .idle
      uiThread := false }.Orderly := by
  cases orderly with
  | joined _ webThread uiThread mdnsPublisher permit web =>
      have orphans : state.orphans = 0 := by
        rcases noSenders with none | ⟨-, orphans⟩
        · simp [uiThread] at none
        · exact orphans
      have noClients : state.clients = [] :=
        counted.others (by rw [web]; rfl)
      exact .stopped rfl rfl ⟨webThread, rfl, mdnsPublisher, web, noClients,
        orphans⟩ fun _ => permit
  | leaving _ exited gone permit =>
      exact .stopped rfl rfl ⟨gone.webThread, rfl, gone.mdnsPublisher,
        gone.web, gone.clients, gone.orphans⟩ fun stays => by
          rw [exited] at stays
          cases stays
  | stopped isMain => simp [joining] at isMain
  | starting isMain => simp [joining] at isMain
  | running isMain => simp [joining] at isMain
  | stopping isMain => simp [joining] at isMain

/-- The modes in which there is a web thread that has not ended. -/
theorem Orderly.serving (orderly : state.Orderly)
    (serves : state.web.serves = true) :
    (state.main = .starting ∨ state.main = .idle) ∧
        (state.web = .accepting ∨ state.web = .handshaking) ∧
        state.notifyShutdown = false ∧ state.orphans = 0 ∨
      state.main = .joiningWeb ∧ state.webThread = true ∧
        state.uiThread = true ∧ state.mdnsPublisher = false ∧
        state.orphans = 0 ∧
        ((state.web = .accepting ∨ state.web = .handshaking) ∧
            state.notifyShutdown = true ∨
          (state.web = .stopping ∨ state.web = .draining ∨
            state.web = .returning) ∧ state.notifyShutdown = false) := by
  cases orderly with
  | stopped _ _ gone => simp [gone.web, WebThread.serves] at serves
  | starting main _ _ _ _ permit web orphans =>
      refine .inl ⟨.inl main, ?_, permit, orphans⟩
      rcases web with isBinding | accepts | shakes | isEnded
      · simp [isBinding, WebThread.serves] at serves
      · exact .inl accepts
      · exact .inr shakes
      · simp [isEnded, WebThread.serves] at serves
  | running main _ _ _ _ permit web orphans =>
      exact .inl ⟨.inr main, web, permit, orphans⟩
  | stopping main webThread uiThread mdnsPublisher web =>
      rcases web with ⟨up, permit, orphans⟩ | ⟨down, permit, orphans⟩ |
        ⟨isEnded, -⟩
      · exact .inr ⟨main, webThread, uiThread, mdnsPublisher, orphans,
          .inl ⟨up, permit⟩⟩
      · exact .inr ⟨main, webThread, uiThread, mdnsPublisher, orphans,
          .inr ⟨down, permit⟩⟩
      · simp [isEnded, WebThread.serves] at serves
  | joined _ _ _ _ _ web => simp [web, WebThread.serves] at serves
  | leaving _ _ gone => simp [gone.web, WebThread.serves] at serves

/-- The web thread goes on accepting. -/
theorem Orderly.accepts (orderly : state.Orderly) {web : WebThread}
    (before : state.web = .accepting ∨ state.web = .handshaking)
    (after : web = .accepting ∨ web = .handshaking) :
    { state with web := web }.Orderly := by
  cases orderly with
  | stopped _ _ gone => simp [gone.web] at before
  | starting main exited webThread uiThread mdnsPublisher permit _ orphans =>
      exact .starting main exited webThread uiThread mdnsPublisher permit
        (.inr (after.imp id .inl)) orphans
  | running main serverState exited webThread uiThread permit _ orphans =>
      exact .running main serverState exited webThread uiThread permit after
        orphans
  | stopping main webThread uiThread mdnsPublisher web =>
      refine .stopping main webThread uiThread mdnsPublisher (.inl ?_)
      rcases web with ⟨-, permit, orphans⟩ | ⟨down, -⟩ | ⟨isEnded, -⟩
      · exact ⟨after, permit, orphans⟩
      · rcases before with up | up <;> simp [up] at down
      · rcases before with up | up <;> simp [up] at isEnded
  | joined _ _ _ _ _ web => simp [web] at before
  | leaving _ _ gone => simp [gone.web] at before

theorem Orderly.bound (orderly : state.Orderly)
    (isBinding : state.web = .binding) (ok : Bool) :
    { state with web := if ok then .accepting else .ended }.Orderly := by
  cases orderly with
  | starting main exited webThread uiThread mdnsPublisher permit _ orphans =>
      refine .starting main exited webThread uiThread mdnsPublisher permit ?_
        orphans
      cases ok
      · exact .inr (.inr (.inr rfl))
      · exact .inr (.inl rfl)
  | stopped _ _ gone => simp [gone.web] at isBinding
  | running _ _ _ _ _ _ web => simp [isBinding] at web
  | stopping _ _ _ _ web => simp [isBinding] at web
  | joined _ _ _ _ _ web => simp [web] at isBinding
  | leaving _ _ gone => simp [gone.web] at isBinding

/-- The permit is taken when the server is being stopped. -/
theorem Orderly.shutdown (orderly : state.Orderly)
    (accepting : state.web = .accepting)
    (notified : state.notifyShutdown = true) :
    { state with web := .stopping, notifyShutdown := false }.Orderly := by
  rcases orderly.serving (by rw [accepting]; rfl) with ⟨-, -, permit, -⟩ |
    ⟨main, webThread, uiThread, mdnsPublisher, orphans, -⟩
  · simp [permit] at notified
  · exact .stopping main webThread uiThread mdnsPublisher
      (.inr (.inl ⟨.inl rfl, rfl, orphans⟩))

/-- A server that no longer accepts is being stopped. -/
theorem Orderly.stopping_of_down (orderly : state.Orderly)
    (down : state.web = .stopping ∨ state.web = .draining ∨
      state.web = .returning) :
    state.main = .joiningWeb ∧ state.webThread = true ∧
      state.uiThread = true ∧ state.mdnsPublisher = false ∧
      state.orphans = 0 ∧ state.notifyShutdown = false := by
  have serves : state.web.serves = true := by
    rcases down with isWeb | isWeb | isWeb <;> rw [isWeb] <;> rfl
  rcases orderly.serving serves with ⟨-, up, -⟩ |
    ⟨main, webThread, uiThread, mdnsPublisher, orphans, up | below⟩
  · rcases up with isUp | isUp <;> simp [isUp] at down
  · rcases up.1 with isUp | isUp <;> simp [isUp] at down
  · exact ⟨main, webThread, uiThread, mdnsPublisher, orphans, below.2⟩

theorem Orderly.upgrade (orderly : state.Orderly)
    (serves : state.web.serves = true) :
    { state with
      numClients := state.numClients + 1
      clients := state.clients ++ [WebClient.upgrading] }.Orderly := by
  have absent : state.web ≠ .absent := by
    intro none
    simp [none, WebThread.serves] at serves
  cases orderly with
  | stopped _ _ gone => exact absurd gone.web absent
  | starting main exited webThread uiThread mdnsPublisher permit web
      orphans =>
      exact .starting main exited webThread uiThread mdnsPublisher permit web
        orphans
  | running main serverState exited webThread uiThread permit web orphans =>
      exact .running main serverState exited webThread uiThread permit web
        orphans
  | stopping main webThread uiThread mdnsPublisher web =>
      exact .stopping main webThread uiThread mdnsPublisher web
  | joined _ _ _ _ _ web => exact absurd web absent
  | leaving _ _ gone => exact absurd gone.web absent

theorem Orderly.orphanEnds (orderly : state.Orderly)
    (left : state.orphans ≠ 0) :
    { state with orphans := state.orphans - 1 }.Orderly := by
  cases orderly with
  | stopped _ _ gone => exact absurd gone.orphans left
  | starting _ _ _ _ _ _ _ orphans => exact absurd orphans left
  | running _ _ _ _ _ _ _ orphans => exact absurd orphans left
  | stopping main webThread uiThread mdnsPublisher web =>
      refine .stopping main webThread uiThread mdnsPublisher ?_
      rcases web with ⟨-, -, orphans⟩ | ⟨-, -, orphans⟩ | isEnded
      · exact absurd orphans left
      · exact absurd orphans left
      · exact .inr (.inr isEnded)
  | joined main webThread uiThread mdnsPublisher permit web =>
      exact .joined main webThread uiThread mdnsPublisher permit web
  | leaving _ _ gone => exact absurd gone.orphans left

theorem orderly_step (orderly : state.Orderly) (counted : state.Counted)
    (taken : state.step label = some next) : next.Orderly := by
  cases move_of_step taken with
  | start idle stays isStopped =>
      obtain ⟨gone, permit⟩ :=
        orderly.gone_of_stopped idle (by rw [isStopped]; decide)
      exact .starting rfl stays gone.webThread gone.uiThread
        gone.mdnsPublisher (permit stays) (.inl rfl) gone.orphans
  | badAddress => exact orderly
  | stop idle _ isRunning => exact orderly.requestStop idle isRunning
  | quit idle stays => exact orderly.quit idle stays
  | started registers isStarting serves =>
      exact orderly.started isStarting serves registers
  | startFailed isStarting isEnded =>
      exact orderly.startFailed isStarting
        (counted.others (by rw [isEnded]; rfl))
  | joinWeb joining webThread isEnded =>
      exact orderly.joinWeb joining webThread isEnded
  | joinNone joining webThread => exact orderly.joinNone joining webThread
  | joinUi joining noSenders =>
      exact orderly.joinUi counted joining noSenders
  | bound ok isBinding => exact orderly.bound isBinding ok
  | accept accepting => exact orderly.accepts (.inl accepting) (.inr rfl)
  | handshaken handshaking =>
      exact orderly.accepts (.inr handshaking) (.inl rfl)
  | shutdown accepting notified => exact orderly.shutdown accepting notified
  | addPermits isStopping =>
      obtain ⟨main, webThread, uiThread, mdnsPublisher, orphans, permit⟩ :=
        orderly.stopping_of_down (.inl isStopping)
      exact .stopping main webThread uiThread mdnsPublisher
        (.inr (.inl ⟨.inr (.inl rfl), permit, orphans⟩))
  | tick =>
      exact orderly.of_alike
        ⟨rfl, rfl, rfl, rfl, rfl, rfl, rfl, rfl, rfl⟩ id
  | drained draining =>
      obtain ⟨main, webThread, uiThread, mdnsPublisher, orphans, permit⟩ :=
        orderly.stopping_of_down (.inr (.inl draining))
      exact .stopping main webThread uiThread mdnsPublisher
        (.inr (.inl ⟨.inr (.inr rfl), permit, orphans⟩))
  | returned isReturning =>
      obtain ⟨main, webThread, uiThread, mdnsPublisher, -, permit⟩ :=
        orderly.stopping_of_down (.inr (.inr isReturning))
      exact .stopping main webThread uiThread mdnsPublisher
        (.inr (.inr ⟨rfl, permit⟩))
  | upgrade serves => exact orderly.upgrade serves
  | clientMoves client after isThere =>
      exact orderly.of_client isThere (alike_client client after).2
  | clientLeaves client isThere =>
      exact orderly.of_client isThere (alike_client client .upgrading).1
  | orphanEnds left => exact orderly.orphanEnds left

/-- The web thread moves, and its clients stay as they are. -/
theorem Counted.of_same (counted : state.Counted)
    (numClients : next.numClients = state.numClients)
    (clients : next.clients = state.clients)
    (serves : next.web.serves = state.web.serves)
    (fresh : next.web = .binding → state.web = .binding) :
    next.Counted where
  serving isServing := by
    rw [numClients, clients]
    exact counted.serving (serves ▸ isServing)
  others isIdle := by
    rw [clients]
    exact counted.others (serves ▸ isIdle)
  fresh isBinding := numClients.trans (counted.fresh (fresh isBinding))

/-- A web thread that has no clients, and is not about to have any. -/
theorem Counted.of_none (clients : state.clients = [])
    (web : state.web = .absent ∨ state.web = .ended) : state.Counted where
  serving serves := by
    rcases web with absent | isEnded
    · simp [absent, WebThread.serves] at serves
    · simp [isEnded, WebThread.serves] at serves
  others _ := clients
  fresh isBinding := by simp [isBinding] at web

theorem counted_step (counted : state.Counted)
    (taken : state.step label = some next) : next.Counted := by
  cases move_of_step taken with
  | start =>
      exact ⟨fun serves => by simp [WebThread.serves] at serves,
        fun _ => rfl, fun _ => rfl⟩
  | badAddress => exact counted
  | stop | quit | started | joinNone | joinUi | tick | orphanEnds =>
      exact counted.of_same rfl rfl rfl id
  | startFailed _ isEnded =>
      exact .of_none (counted.others (by rw [isEnded]; rfl)) (.inl rfl)
  | joinWeb _ _ isEnded =>
      exact .of_none (counted.others (by rw [isEnded]; rfl)) (.inl rfl)
  | bound ok isBinding =>
      have none := counted.others (by rw [isBinding]; rfl)
      cases ok
      · exact .of_none none (.inr rfl)
      · refine ⟨fun _ => ?_, fun _ => none, fun again => by cases again⟩
        change state.numClients = state.clients.length
        rw [counted.fresh isBinding, none]
        rfl
  | accept isWeb | handshaken isWeb | shutdown isWeb | addPermits isWeb
  | drained isWeb =>
      exact counted.of_same rfl rfl (by rw [isWeb]; rfl) nofun
  | returned => exact .of_none rfl (.inr rfl)
  | upgrade serves =>
      refine ⟨fun _ => ?_, fun idle => ?_, fun isBinding => ?_⟩
      · change state.numClients + 1 = (state.clients ++ [_]).length
        rw [List.length_append, counted.serving serves]
        rfl
      · exact absurd (serves.symm.trans idle) (by decide)
      · have binding : state.web = .binding := isBinding
        simp [binding, WebThread.serves] at serves
  | clientMoves client after isThere => exact counted.setClient isThere after
  | clientLeaves client isThere => exact counted.removeClient isThere

theorem orderly_opened : opened.Orderly ∧ opened.Counted :=
  ⟨.stopped rfl rfl ⟨rfl, rfl, rfl, rfl, rfl, rfl⟩ fun _ => rfl,
    .of_none rfl (.inl rfl)⟩

theorem orderly_of_reachable
    (reached : Transition.Reachable step opened state) :
    state.Orderly ∧ state.Counted := by
  obtain ⟨labels, runs⟩ := reached
  have along := Transition.Execution.along_of_kept ⟨labels, state, runs⟩
    (fun state => state.Orderly ∧ state.Counted) orderly_opened
    fun before label after kept taken =>
      ⟨orderly_step kept.1 kept.2 taken, counted_step kept.2 taken⟩
  exact along labels [] state (by simp) runs

/-- In any order of starts, stops, connections and sessions: the clients
counted are those there; a server that runs has not been told to stop, and
is in its accept loop, accepting or in one TLS handshake; once `stop` has
returned no thread of the server, no session and no announcement of it is
left, and no permit that would stop the next one. -/
theorem orderly_along (execution : Transition.Execution step opened) :
    execution.Along fun state => state.Orderly ∧ state.Counted := by
  refine execution.along_of_kept _ orderly_opened ?_
  intro before label after kept taken
  exact ⟨orderly_step kept.1 kept.2 taken, counted_step kept.2 taken⟩

end ServerLifecycle

end Rylus
