import Rylus.Reconnecting

/-!
# Attempts to reconnect

An outage costs ten attempts at most, unless a socket opens or the user asks
for more; and the page can always get out of it, unless the user has dismissed
the last banner.
-/

namespace Rylus

namespace ReconnectPage

variable {page next : ReconnectPage}

/-- Sockets made and attempts left, after an attempt has been scheduled. -/
theorem made_scheduleReconnect (active : page.ActiveIs .closed)
    (few : page.reconnectAttempt ≤ reconnectMaxAttempts)
    (isReconnecting : page.isReconnecting = true) :
    page.scheduleReconnect.sockets.length = page.sockets.length ∧
      page.scheduleReconnect.attemptsLeft =
        reconnectMaxAttempts - page.reconnectAttempt := by
  unfold scheduleReconnect
  dsimp only
  split
  · rename_i past
    refine ⟨rfl, ?_⟩
    have ended : reconnectMaxAttempts - page.reconnectAttempt = 0 := by omega
    rw [ended]
    exact if_pos active.get_active
  · refine ⟨rfl, ?_⟩
    unfold attemptsLeft
    refine (if_pos isReconnecting).trans ((if_neg ?_).trans ?_)
    · exact List.append_ne_nil_of_right_ne_nil _ (by simp)
    · change reconnectMaxAttempts + 1 - (page.reconnectAttempt + 1) = _
      omega

/-- The attempt that a page waits for takes one of those left. -/
theorem made_attemptReconnect (owned : page.Owned)
    (isReconnecting : page.isReconnecting = true) :
    page.attemptReconnect.sockets.length = page.sockets.length + 1 ∧
      page.attemptReconnect.attemptsLeft =
        reconnectMaxAttempts - page.reconnectAttempt := by
  have quiet := owned.quiet_removeReconnectBanner
  refine ⟨by simp [attemptReconnect, removeReconnectBanner], ?_⟩
  unfold attemptsLeft
  exact (if_pos isReconnecting).trans (if_pos quiet.timeouts)

/-- Events after which the page has ten attempts again. -/
def Renews : ReconnectEvent → Prop
  | .opened _ _ _ | .tryAgain _ => True
  | .failed _ | .closed _ | .timeout _ | .interval _ | .retryNow _
  | .dismiss _ | .visibility _ _ | .send _ => False

/-- A page that waits counts the attempt it waits for. -/
theorem attemptsLeft_waiting (isReconnecting : page.isReconnecting = true)
    (waits : page.timeouts ≠ []) :
    page.attemptsLeft =
      reconnectMaxAttempts + 1 - page.reconnectAttempt := by
  unfold attemptsLeft
  rw [if_pos isReconnecting, if_neg waits]

theorem Supervised.waits_of_lookup (supervised : page.Supervised)
    {banner remaining attempt : Nat}
    (shown : page.banners.lookup banner =
      some (.waiting remaining attempt)) : page.timeouts ≠ [] := by
  cases supervised with
  | linked _ _ _ _ _ quiet => simp [quiet.banners] at shown
  | retrying _ _ _ _ _ _ _ _ banners =>
      rw [banners, List.lookup_cons] at shown
      split at shown <;> simp at shown
  | waiting _ _ _ _ _ timeouts => simp [timeouts]
  | failed _ _ _ _ _ _ banners =>
      rw [banners, List.lookup_cons] at shown
      split at shown <;> simp at shown
  | dismissed _ _ _ quiet => simp [quiet.banners] at shown

/-- Every step but a renewing one pays for the sockets it makes. -/
theorem made_step {event : ReconnectEvent}
    (kept : page.Owned ∧ page.Supervised) (spends : ¬ Renews event)
    (taken : page.step event = some next) :
    next.sockets.length + next.attemptsLeft =
      page.sockets.length + page.attemptsLeft := by
  cases move_of_step kept taken with
  | opened => exact absurd trivial spends
  | tryAgain => exact absurd trivial spends
  | loses lost loses =>
      obtain ⟨made, left⟩ := made_scheduleReconnect loses.active loses.few
        loses.isReconnecting
      rw [made, left, loses.sockets, List.length_set, loses.left]
  | timeout timer member =>
      obtain ⟨first, last, active, isReconnecting⟩ :=
        kept.2.waiting_of_timeout member
      have waits : page.timeouts ≠ [] := by
        intro none
        simp [none] at member
      obtain ⟨made, left⟩ :=
        made_attemptReconnect (owned_fired kept member) isReconnecting
      rw [made, left, attemptsLeft_waiting isReconnecting waits]
      change page.sockets.length + 1 +
        (reconnectMaxAttempts - page.reconnectAttempt) = _
      omega
  | countDown => rfl
  | retryNow banner _ _ shown =>
      obtain ⟨first, last, active, isReconnecting⟩ :=
        kept.2.waiting_of_lookup shown
      obtain ⟨made, left⟩ := made_attemptReconnect
        kept.1.quiet_removeReconnectBanner.owned isReconnecting
      rw [made, left, attemptsLeft_waiting isReconnecting
        (kept.2.waits_of_lookup shown)]
      change page.sockets.length + 1 +
        (reconnectMaxAttempts - page.reconnectAttempt) = _
      omega
  | dismiss banner shown =>
      obtain ⟨attempt, active, isReconnecting⟩ :=
        kept.2.failed_of_lookup shown
      unfold attemptsLeft
      rw [isReconnecting, show page.removeReconnectBanner.isReconnecting =
        false from isReconnecting]
      rfl
  | sends messages =>
      obtain ⟨sent, same⟩ := sendAll_eq messages page
      rw [same]
      rfl

theorem made_run (events : List ReconnectEvent) :
    ∀ {page next : ReconnectPage}, page.Owned ∧ page.Supervised →
      (∀ event ∈ events, ¬ Renews event) →
      Transition.run step page events = some next →
      next.sockets.length + next.attemptsLeft =
        page.sockets.length + page.attemptsLeft := by
  induction events with
  | nil =>
      intro page next _ _ runs
      cases runs
      rfl
  | cons event rest ih =>
      intro page next kept spends runs
      cases taken : page.step event with
      | none => simp [taken] at runs
      | some middle =>
          have later := ih (kept_step kept taken)
            (fun other member => spends other (by simp [member]))
            (by simpa [taken] using runs)
          rw [later]
          exact made_step kept (spends event (by simp)) taken

theorem Supervised.attemptsLeft_le (supervised : page.Supervised) :
    page.attemptsLeft ≤ reconnectMaxAttempts := by
  unfold attemptsLeft
  cases supervised with
  | linked _ _ _ _ isReconnecting =>
      rw [if_neg (by rw [isReconnecting]; decide)]
      split <;> decide
  | retrying _ _ _ _ isReconnecting timeouts =>
      rw [if_pos isReconnecting, if_pos timeouts]
      omega
  | waiting first _ _ isReconnecting _ timeouts =>
      rw [if_pos isReconnecting, if_neg (by simp [timeouts])]
      omega
  | failed _ active isReconnecting =>
      rw [if_neg (by rw [isReconnecting]; decide), if_pos active.get_active]
      exact Nat.zero_le _
  | dismissed _ active isReconnecting =>
      rw [if_neg (by rw [isReconnecting]; decide), if_pos active.get_active]
      exact Nat.zero_le _

/-- Between two times that a socket opens or the user asks to try again, the
page makes ten sockets at most. -/
theorem attempts_bounded {events : List ReconnectEvent}
    (reached : Transition.Reachable step start page)
    (spends : ∀ event ∈ events, ¬ Renews event)
    (runs : Transition.run step page events = some next) :
    next.sockets.length ≤ page.sockets.length + reconnectMaxAttempts := by
  have kept : page.Owned ∧ page.Supervised :=
    reached.invariant kept_start fun _ _ _ kept taken => kept_step kept taken
  have made := made_run events kept spends runs
  have few := kept.2.attemptsLeft_le
  omega

/-- Two attempts fail, the second after the user was asked for it. -/
theorem attempts_bounded_twoFailures :
    ∃ page next, Transition.Reachable step start page ∧
      Transition.run step page
        [.timeout 2, .failed 1, .retryNow 4, .failed 2] = some next ∧
      next.sockets.length = 3 ∧
      next.sockets.length ≤ page.sockets.length + reconnectMaxAttempts := by
  obtain ⟨page, next, reached, runs, made⟩ :
      ∃ page next, Transition.Reachable step start page ∧
        Transition.run step page
          [.timeout 2, .failed 1, .retryNow 4, .failed 2] = some next ∧
        next.sockets.length = 3 :=
    ⟨_, _, ⟨[.failed 0], rfl⟩, rfl, rfl⟩
  refine ⟨page, next, reached, runs, made,
    attempts_bounded reached ?_ runs⟩
  simp [Renews]

/-- What happens to a page that is left alone, but for its failed banner. -/
def Recovers : ReconnectEvent → Prop
  | .opened _ _ _ | .timeout _ | .tryAgain _ => True
  | .failed _ | .closed _ | .interval _ | .retryNow _ | .dismiss _
  | .visibility _ _ | .send _ => False

theorem canReach_step {event : ReconnectEvent}
    (taken : page.step event = some next) (recovers : Recovers event)
    (reaches : Transition.CanReach step Recovers Connected next) :
    Transition.CanReach step Recovers Connected page :=
  reaches.of_run (fun _ member => List.mem_singleton.mp member ▸ recovers)
    (show Transition.run step page [event] = some next by simp [taken])

theorem canReach_opened
    (active : page.ActiveIs .connecting) :
    Transition.CanReach step Recovers Connected page := by
  have isConnecting := active.get_active
  have opens : ((page.setSocket page.activeWebSocket .open).sockets)[
      page.activeWebSocket]? = some .open :=
    (active.setSocket .open).get_active
  have taken : page.step (.opened page.activeWebSocket true true) =
      some (if page.activeWebSocket = 0 then
        (page.setSocket page.activeWebSocket .open).onFirstOpen true true
      else
        (page.setSocket page.activeWebSocket .open).onOpen
          page.activeWebSocket true true) := by
    simp only [step, if_pos isConnecting]
  refine canReach_step taken trivial ⟨[], _, by simp, rfl, ?_⟩
  unfold Connected
  split
  · simp only [onFirstOpen, sendAll_sockets, sendAll_activeWebSocket,
      startHeartbeat_sockets, startHeartbeat_activeWebSocket]
    exact opens
  · simp only [onOpen, sendAll_sockets, sendAll_activeWebSocket,
      startHeartbeat_sockets, startHeartbeat_activeWebSocket]
    exact opens

theorem canReach_waiting (kept : page.Owned ∧ page.Supervised)
    (waits : page.timeouts ≠ []) :
    Transition.CanReach step Recovers Connected page := by
  obtain ⟨entry, member⟩ := List.exists_mem_of_ne_nil _ waits
  have named := List.mem_map_of_mem (f := Prod.fst) member
  obtain ⟨first, last, active, isReconnecting⟩ :=
    kept.2.waiting_of_timeout named
  have taken : page.step (.timeout entry.1) = some (attemptReconnect
      { page with
        timeouts := clearEntry (some entry.1) page.timeouts
        reconnectTimer := none }) := by
    simp only [step, if_pos named]
  refine canReach_step taken trivial (canReach_opened ?_)
  change page.sockets ++ [.connecting] =
    List.replicate page.sockets.length .closed ++ [.connecting]
  rw [active.length, List.replicate_succ', ← active]

/-- A page reconnects by its own timers, or when the user asks it to, exactly
if it shows a banner or has a socket that is up. -/
theorem canReconnect_iff
    (reached : Transition.Reachable step start page) :
    Transition.CanReach step Recovers Connected page ↔
      page.banners ≠ [] ∨
        page.sockets[page.activeWebSocket]? ≠ some .closed := by
  have kept : page.Owned ∧ page.Supervised :=
    reached.invariant kept_start fun _ _ _ kept taken => kept_step kept taken
  constructor
  · intro reaches
    by_contra stuck
    rw [not_or, not_not, not_not] at stuck
    refine Transition.not_canReach_of_invariant (fun page : ReconnectPage =>
      (page.Owned ∧ page.Supervised) ∧ page.banners = [] ∧
        page.sockets[page.activeWebSocket]? = some .closed)
      ?_ ?_ ⟨kept, stuck⟩ reaches
    · rintro before event after ⟨kept, noBanner, isClosed⟩ recovers taken
      have active : before.ActiveIs .closed ∧ before.timeouts = [] := by
        cases kept.2 with
        | linked state up active =>
            rw [active.get_active] at isClosed
            exact absurd (Option.some.inj isClosed) up
        | retrying _ _ _ active =>
            rw [active.get_active] at isClosed
            cases isClosed
        | waiting _ _ _ _ _ _ _ _ _ _ banners => simp [noBanner] at banners
        | failed _ _ _ _ _ _ banners => simp [noBanner] at banners
        | dismissed _ active _ quiet => exact ⟨active, quiet.timeouts⟩
      cases event with
      | opened socket videoEnabled listed =>
          simp only [step] at taken
          split at taken
          · rename_i isConnecting
            have up := (active.1.eq_active isConnecting (by decide)).2
            cases up
          · cases taken
      | timeout timer => simp [step, active.2] at taken
      | tryAgain banner => simp [step, noBanner] at taken
      | failed _ => exact recovers.elim
      | closed _ => exact recovers.elim
      | interval _ => exact recovers.elim
      | retryNow _ => exact recovers.elim
      | dismiss _ => exact recovers.elim
      | visibility _ _ => exact recovers.elim
      | send _ => exact recovers.elim
    · rintro state ⟨-, -, isClosed⟩ connected
      rw [Connected, isClosed] at connected
      cases connected
  · intro alive
    cases kept.2 with
    | linked state up active =>
        cases state with
        | connecting => exact canReach_opened active
        | «open» => exact ⟨[], page, by simp, rfl, active.get_active⟩
        | closed => exact absurd rfl up
    | retrying _ _ _ active => exact canReach_opened active
    | waiting _ _ _ _ _ timeouts =>
        exact canReach_waiting kept (by simp [timeouts])
    | failed _ active _ _ _ banner banners =>
        have taken : page.step (.tryAgain banner) =
            some page.removeReconnectBanner.beginReconnect := by
          simp [step, banners]
        have begun := kept_step kept taken
        refine canReach_step taken trivial (canReach_waiting begun ?_)
        exact List.append_ne_nil_of_right_ne_nil _ (by simp)
    | dismissed _ active _ quiet =>
        rcases alive with shown | up
        · exact absurd quiet.banners shown
        · exact absurd active.get_active up

/-- The first socket fails, and ten attempts after it. -/
def tenFailures : List ReconnectEvent :=
  .failed 0 :: (List.range 10).flatMap fun attempt =>
    [.timeout (4 * attempt + 2), .failed (attempt + 1)]

/-- A page that has given up can still be told to try again, and no more once
its banner is dismissed. -/
theorem canReconnect_iff_tenFailures :
    ∃ page dismissed, Transition.run step start tenFailures = some page ∧
      page.step (.dismiss 40) = some dismissed ∧
      Transition.CanReach step Recovers Connected page ∧
      ¬ Transition.CanReach step Recovers Connected dismissed := by
  obtain ⟨page, dismissed, runs, taken, shown, none, closed⟩ :
      ∃ page dismissed, Transition.run step start tenFailures = some page ∧
        page.step (.dismiss 40) = some dismissed ∧
        page.banners ≠ [] ∧ dismissed.banners = [] ∧
        dismissed.sockets[dismissed.activeWebSocket]? = some .closed :=
    ⟨_, _, rfl, rfl, nofun, rfl, rfl⟩
  have reached : Transition.Reachable step start page := ⟨_, runs⟩
  refine ⟨page, dismissed, runs, taken,
    (canReconnect_iff reached).mpr (.inl shown), ?_⟩
  rw [canReconnect_iff (reached.tail taken)]
  simp [none, closed]

end ReconnectPage

end Rylus
