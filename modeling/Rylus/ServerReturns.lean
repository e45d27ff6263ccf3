import Rylus.ServerLifecycle

/-!
# Starting and stopping come to an end

`start` can always return by steps of the server's own threads, and so can
`stop`, unless the web thread is held up by a peer: by a TLS handshake that is
going on, or by a client whose reader has not stopped.  Once those peers let
go, `stop` can return too.  A client that missed the permits of a shutdown
gets one at the next tick of the timer.
-/

namespace Rylus

namespace WebThread

/-- What a thread has before it. -/
def ahead : WebThread → Nat
  | .binding => 8
  | .handshaking => 7
  | .accepting => 6
  | .stopping => 5
  | .draining => 4
  | .returning => 3
  | .ended => 2
  | .absent => 1

end WebThread

namespace WebClient

def ahead : WebClient → Nat
  | .upgrading => 4
  | .running => 3
  | .closing => 2
  | .finishing => 1

/-- Its reader has not stopped. -/
def isHeld : WebClient → Bool
  | .upgrading | .running => true
  | .closing | .finishing => false

end WebClient

namespace MainThread

def ahead : MainThread → Nat
  | .starting => 3
  | .joiningWeb => 2
  | .joiningUi => 1
  | .idle => 0

end MainThread

namespace ServerLifecycle

variable {state next : ServerLifecycle} {label : LifecycleStep}

/-- Steps that neither the window nor a peer has a part in. -/
def Own : LifecycleStep → Prop
  | .start _ | .stop | .quit | .accept | .upgrade | .peerCloses _
  | .handshaken | .upgraded _ _ | .released _ => False
  | .started _ | .startFailed | .joinWeb | .joinUi | .bound _ | .shutdown
  | .addPermits | .tick | .drained | .returned | .ends _ | .leaves _
  | .orphanEnds => True

/-- Steps that a peer can hold up: a TLS handshake or an upgrade is over, a
reader takes its permit, which it does not while it cannot pass on what it
read. -/
def LetGo : LifecycleStep → Prop
  | .handshaken | .upgraded _ _ | .released _ => True
  | .start _ | .stop | .quit | .accept | .upgrade | .peerCloses _
  | .started _ | .startFailed | .joinWeb | .joinUi | .bound _ | .shutdown
  | .addPermits | .tick | .drained | .returned | .ends _ | .leaves _
  | .orphanEnds => False

/-- `stop` waits for the web thread, and that for a TLS handshake or a
client. -/
def AwaitsPeer (state : ServerLifecycle) : Prop :=
  state.main = .joiningWeb ∧ state.webThread = true ∧
    (state.web = .handshaking ∨
      (state.web = .accepting ∨ state.web = .stopping ∨
        state.web = .draining) ∧
        ∃ client ∈ state.clients, client.isHeld = true)

/-- What all threads have before them. -/
def ahead (state : ServerLifecycle) : Nat :=
  state.main.ahead + state.web.ahead +
    (state.clients.map WebClient.ahead).sum + state.orphans

theorem sum_set_lt {clients : List WebClient} {client : Nat}
    {before after : WebClient} (isThere : clients[client]? = some before)
    (less : after.ahead < before.ahead) :
    ((clients.set client after).map WebClient.ahead).sum <
      (clients.map WebClient.ahead).sum := by
  induction clients generalizing client with
  | nil => cases isThere
  | cons first rest ih =>
      cases client with
      | zero =>
          cases isThere
          simpa using less
      | succ client =>
          have later : rest[client]? = some before := by
            simpa using isThere
          simpa using ih later

theorem sum_eraseIdx_lt {clients : List WebClient} {client : Nat}
    {before : WebClient} (isThere : clients[client]? = some before) :
    ((clients.eraseIdx client).map WebClient.ahead).sum <
      (clients.map WebClient.ahead).sum := by
  have positive : 0 < before.ahead := by cases before <;> decide
  induction clients generalizing client with
  | nil => cases isThere
  | cons first rest ih =>
      cases client with
      | zero =>
          cases isThere
          simpa using positive
      | succ client =>
          have later : rest[client]? = some before := by
            simpa using isThere
          simpa using ih later

/-- Sessions that outlive the runtime had more before them. -/
theorem countP_hasSession_le (clients : List WebClient) :
    clients.countP WebClient.hasSession ≤
      (clients.map WebClient.ahead).sum := by
  induction clients with
  | nil => exact Nat.le_refl 0
  | cons client rest ih =>
      rw [List.countP_cons, List.map_cons, List.sum_cons]
      cases client <;> simp [WebClient.hasSession, WebClient.ahead] <;> omega

/-- Less is ahead after some steps, in which no peer has a part unless one is
awaited. -/
def Progresses (state : ServerLifecycle) : Prop :=
  ∃ labels next, (∀ label ∈ labels, Own label ∨ LetGo label) ∧
    Transition.run step state labels = some next ∧
    next.ahead < state.ahead ∧
    (¬ state.AwaitsPeer →
      (∀ label ∈ labels, Own label) ∧ ¬ next.AwaitsPeer)

/-- One step of the system's own. -/
theorem progresses_own (own : Own label)
    (taken : state.step label = some next)
    (less : next.ahead < state.ahead)
    (free : ¬ state.AwaitsPeer → ¬ next.AwaitsPeer) : state.Progresses := by
  have owns : ∀ other ∈ [label], Own other :=
    fun _ member => List.mem_singleton.mp member ▸ own
  exact ⟨[label], next, fun other member => .inl (owns other member),
    by simp [taken], less, fun calm => ⟨owns, free calm⟩⟩

/-- Steps that a peer has a part in, when one is awaited. -/
theorem progresses_letGo (labels : List LifecycleStep)
    (awaits : state.AwaitsPeer)
    (own : ∀ label ∈ labels, Own label ∨ LetGo label)
    (runs : Transition.run step state labels = some next)
    (less : next.ahead < state.ahead) : state.Progresses :=
  ⟨labels, next, own, runs, less, fun calm => absurd awaits calm⟩

/-- A web thread whose clients are all let go waits for none. -/
theorem not_awaitsPeer_of_clients {after : List WebClient}
    (subset : ∀ client ∈ after, client.isHeld = true →
      ∃ client ∈ state.clients, client.isHeld = true)
    (web : state.web ≠ .handshaking)
    (calm : ¬ state.AwaitsPeer) :
    ¬ { state with clients := after }.AwaitsPeer := by
  rintro ⟨main, webThread, handshaking | ⟨serving, client, member, held⟩⟩
  · exact web handshaking
  · exact calm ⟨main, webThread, .inr ⟨serving, subset client member held⟩⟩

theorem held_of_mem_set {clients : List WebClient} {index : Nat}
    {after : WebClient} (free : after.isHeld = false) :
    ∀ client ∈ clients.set index after, client.isHeld = true →
      ∃ client ∈ clients, client.isHeld = true := by
  intro client member held
  rcases List.mem_or_eq_of_mem_set member with old | rfl
  · exact ⟨client, old, held⟩
  · rw [free] at held
    cases held

/-- The first client of a server that drains moves on. -/
theorem client_progress {clients : List WebClient} {first : WebClient}
    (main : state.main = .joiningWeb) (webThread : state.webThread = true)
    (draining : state.web = .draining)
    (isFirst : state.clients = first :: clients)
    (numClients : state.numClients ≠ 0) : state.Progresses := by
  have isThere : state.clients[0]? = some first := by rw [isFirst]; rfl
  have notHandshaking : state.web ≠ .handshaking := by
    rw [draining]
    decide
  have awaits : first.isHeld = true → state.AwaitsPeer := fun held =>
    ⟨main, webThread, .inr ⟨.inr (.inr draining), first,
      by simp [isFirst], held⟩⟩
  have moves : ∀ after : WebClient, after.ahead < first.ahead →
      ∀ permits, ({ state with permits := permits }.setClient 0 after).ahead <
        state.ahead := by
    intro after less permits
    have fewer := sum_set_lt isThere less
    unfold ahead setClient
    dsimp only
    omega
  have leaves : (state.removeClient 0).ahead < state.ahead := by
    have fewer := sum_eraseIdx_lt isThere
    unfold ahead removeClient
    dsimp only
    omega
  cases first with
  | upgrading =>
      refine progresses_letGo [.upgraded 0 false] (awaits rfl) ?_ ?_ leaves
      · simp [LetGo]
      · simp [step, isThere]
  | running =>
      -- a tick of the timer gives the permit that may have been missed
      refine progresses_letGo [.tick, .released 0] (awaits rfl) ?_ ?_
        (moves .closing (by decide) (state.permits + state.numClients))
      · simp [Own, LetGo]
      · have permitted : 0 < state.permits + state.numClients := by omega
        simp [step, draining, numClients, isThere, permitted]
  | closing =>
      exact progresses_own (show Own (.ends 0) from trivial)
        (if_pos isThere) (moves .finishing (by decide) state.permits)
        (not_awaitsPeer_of_clients (held_of_mem_set rfl) notHandshaking)
  | finishing =>
      refine progresses_own (show Own (.leaves 0) from trivial)
        (if_pos isThere) leaves
        (not_awaitsPeer_of_clients ?_ notHandshaking)
      exact fun client member held =>
        ⟨client, List.mem_of_mem_eraseIdx member, held⟩

theorem kept_run (labels : List LifecycleStep) :
    ∀ {state next : ServerLifecycle}, state.Orderly ∧ state.Counted →
      Transition.run step state labels = some next →
        next.Orderly ∧ next.Counted := by
  induction labels with
  | nil =>
      intro state next kept runs
      cases runs
      exact kept
  | cons label rest ih =>
      intro state next kept runs
      cases taken : state.step label with
      | none => simp [taken] at runs
      | some middle =>
          exact ih ⟨orderly_step kept.1 kept.2 taken,
            counted_step kept.2 taken⟩ (by simpa [taken] using runs)

/-- The web thread gets on with a stop. -/
theorem web_progress (main : state.main = .joiningWeb)
    (webThread : state.webThread = true) (counted : state.Counted)
    (web : (state.web = .accepting ∨ state.web = .handshaking) ∧
        state.notifyShutdown = true ∧ state.orphans = 0 ∨
      (state.web = .stopping ∨ state.web = .draining ∨
        state.web = .returning) ∧
        state.notifyShutdown = false ∧ state.orphans = 0 ∨
      state.web = .ended ∧ state.notifyShutdown = false) :
    state.Progresses := by
  rcases web with ⟨accepting | handshaking, permit, -⟩ |
    ⟨isStopping | draining | isReturning, -, orphans⟩ | ⟨isEnded, -⟩
  · refine progresses_own (show Own .shutdown from trivial)
      (if_pos ⟨accepting, permit⟩) ?_ ?_
    · simp [ahead, accepting, WebThread.ahead]
    · simp [AwaitsPeer, accepting]
  · have runs : Transition.run step state [.handshaken] =
        some { state with web := .accepting } := by
      simp [step, handshaking]
    refine progresses_letGo _ ⟨main, webThread, .inl handshaking⟩
      (by simp [LetGo]) runs ?_
    simp [ahead, handshaking, WebThread.ahead]
  · refine progresses_own (show Own .addPermits from trivial)
      (if_pos isStopping) ?_ ?_
    · simp [ahead, isStopping, WebThread.ahead]
    · simp [AwaitsPeer, isStopping]
  · by_cases none : state.numClients = 0
    · refine progresses_own (show Own .drained from trivial)
        (if_pos ⟨draining, none⟩) ?_ ?_
      · simp [ahead, draining, WebThread.ahead]
      · simp [AwaitsPeer]
    · have same := counted.serving (by rw [draining]; rfl)
      cases isFirst : state.clients with
      | nil => simp [same, isFirst] at none
      | cons first rest =>
          exact client_progress main webThread draining isFirst none
  · refine progresses_own (show Own .returned from trivial)
      (if_pos isReturning) ?_ ?_
    · have left := countP_hasSession_le state.clients
      unfold ahead
      dsimp only
      rw [isReturning, orphans]
      simp only [WebThread.ahead, List.map_nil, List.sum_nil]
      omega
    · simp [AwaitsPeer]
  · refine progresses_own (show Own .joinWeb from trivial)
      ((if_pos main).trans ((if_pos webThread).trans (if_pos isEnded))) ?_ ?_
    · simp [ahead, main, isEnded, WebThread.ahead, MainThread.ahead]
    · simp [AwaitsPeer]

theorem progress (orderly : state.Orderly) (counted : state.Counted)
    (busy : state.main ≠ .idle) : state.Progresses := by
  cases orderly with
  | stopped main => exact absurd main busy
  | running main => exact absurd main busy
  | starting main _ _ _ _ _ web =>
      rcases web with isBinding | accepting | handshaking | isEnded
      · refine progresses_own (show Own (.bound true) from trivial)
          (if_pos isBinding) ?_ ?_
        · simp [ahead, isBinding, WebThread.ahead]
        · simp [AwaitsPeer, main]
      · refine progresses_own (show Own (.started false) from trivial)
          (if_pos ⟨main, by rw [accepting]; rfl⟩) ?_ ?_
        · simp [ahead, main, MainThread.ahead]
        · simp [AwaitsPeer]
      · refine progresses_own (show Own (.started false) from trivial)
          (if_pos ⟨main, by rw [handshaking]; rfl⟩) ?_ ?_
        · simp [ahead, main, MainThread.ahead]
        · simp [AwaitsPeer]
      · refine progresses_own (show Own .startFailed from trivial)
          (if_pos ⟨main, isEnded⟩) ?_ ?_
        · simp [ahead, main, isEnded, MainThread.ahead, WebThread.ahead]
        · simp [AwaitsPeer]
  | stopping main webThread _ _ web =>
      exact web_progress main webThread counted web
  | joined main _ _ _ _ web =>
      by_cases none : state.orphans = 0
      · refine progresses_own (show Own .joinUi from trivial)
          (if_pos ⟨main, .inr ⟨web, none⟩⟩) ?_ ?_
        · simp [ahead, main, MainThread.ahead]
        · simp [AwaitsPeer]
      · refine progresses_own (show Own .orphanEnds from trivial)
          (if_pos none) ?_ ?_
        · unfold ahead
          dsimp only
          omega
        · simp [AwaitsPeer, main]
  | leaving main _ gone =>
      rcases main with joiningWeb | joiningUi
      · refine progresses_own (show Own .joinWeb from trivial)
          ((if_pos joiningWeb).trans (if_neg (by simp [gone.webThread])))
          ?_ ?_
        · simp [ahead, joiningWeb, MainThread.ahead]
        · simp [AwaitsPeer]
      · refine progresses_own (show Own .joinUi from trivial)
          (if_pos ⟨joiningUi, .inl gone.uiThread⟩) ?_ ?_
        · simp [ahead, joiningUi, MainThread.ahead]
        · simp [AwaitsPeer]

/-! ### Waiting for a peer -/

/-- A client that is held stays among the clients when another moves on. -/
theorem held_set {clients : List WebClient} {index : Nat}
    {before : WebClient} (after : WebClient)
    (isThere : clients[index]? = some before) (free : before.isHeld = false)
    (held : ∃ client ∈ clients, client.isHeld = true) :
    ∃ client ∈ clients.set index after, client.isHeld = true := by
  obtain ⟨client, member, isHeld⟩ := held
  obtain ⟨other, isOther⟩ := List.mem_iff_getElem?.mp member
  have apart : index ≠ other := by
    rintro rfl
    obtain rfl := Option.some.inj (isThere.symm.trans isOther)
    rw [free] at isHeld
    cases isHeld
  exact ⟨client, List.mem_of_getElem?
    ((List.getElem?_set_ne apart).trans isOther), isHeld⟩

theorem held_eraseIdx {clients : List WebClient} {index : Nat}
    {before : WebClient} (isThere : clients[index]? = some before)
    (free : before.isHeld = false)
    (held : ∃ client ∈ clients, client.isHeld = true) :
    ∃ client ∈ clients.eraseIdx index, client.isHeld = true := by
  obtain ⟨client, member, isHeld⟩ := held
  obtain ⟨other, isOther⟩ := List.mem_iff_getElem?.mp member
  refine ⟨client, List.mem_eraseIdx_iff_getElem?.mpr ⟨other, ?_, isOther⟩,
    isHeld⟩
  rintro rfl
  obtain rfl := Option.some.inj (isThere.symm.trans isOther)
  rw [free] at isHeld
  cases isHeld

/-- The web thread neither gets past a handshake nor past a client. -/
theorem awaitsPeer_step (awaits : state.AwaitsPeer)
    (counted : state.Counted) (own : Own label)
    (taken : state.step label = some next) : next.AwaitsPeer := by
  obtain ⟨main, webThread, web⟩ := awaits
  cases label with
  | start _ | stop | quit | accept | upgrade | peerCloses _ | handshaken
  | upgraded _ _ | released _ => exact own.elim
  | started _ | startFailed | joinUi => simp [step, main] at taken
  | joinWeb =>
      rcases web with web | ⟨web | web | web, -⟩ <;>
        simp [step, main, webThread, web] at taken
  | bound _ | returned =>
      rcases web with web | ⟨web | web | web, -⟩ <;>
        simp [step, web] at taken
  | shutdown =>
      simp only [step] at taken
      split at taken
      · rename_i notified
        rcases web with web | ⟨-, held⟩
        · rw [notified.1] at web
          cases web
        · cases taken
          exact ⟨main, webThread, .inr ⟨.inr (.inl rfl), held⟩⟩
      · cases taken
  | addPermits =>
      simp only [step] at taken
      split at taken
      · rename_i isStopping
        rcases web with web | ⟨-, held⟩
        · rw [isStopping] at web
          cases web
        · cases taken
          exact ⟨main, webThread, .inr ⟨.inr (.inr rfl), held⟩⟩
      · cases taken
  | tick =>
      simp only [step] at taken
      split at taken
      · cases taken
        exact ⟨main, webThread, web⟩
      · cases taken
  | drained =>
      simp only [step] at taken
      split at taken
      · rename_i drained
        have none : state.clients = [] := List.eq_nil_of_length_eq_zero
          ((counted.serving (by rw [drained.1]; rfl)).symm.trans drained.2)
        simp [drained.1, none] at web
      · cases taken
  | ends client =>
      simp only [step] at taken
      split at taken
      · rename_i isThere
        cases taken
        exact ⟨main, webThread, web.imp_right fun waits =>
          ⟨waits.1, held_set .finishing isThere rfl waits.2⟩⟩
      · cases taken
  | leaves client =>
      simp only [step] at taken
      split at taken
      · rename_i isThere
        cases taken
        exact ⟨main, webThread, web.imp_right fun waits =>
          ⟨waits.1, held_eraseIdx isThere rfl waits.2⟩⟩
      · cases taken
  | orphanEnds =>
      simp only [step] at taken
      split at taken
      · cases taken
        exact ⟨main, webThread, web⟩
      · cases taken

end ServerLifecycle

end Rylus
