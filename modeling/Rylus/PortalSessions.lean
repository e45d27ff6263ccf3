import Mathlib.Data.Fintype.Pi
import Mathlib.Data.List.Nodup
import Rylus.LabelledExecution

/-!
# Sharing portal sessions

`acquire_portal_session` reuses the portal session that `PORTAL_CACHE` refers
to as long as somebody holds it, or asks the portal for a new one under
`PORTAL_ACQUIRE_LOCK`.  A session is closed when its last `Arc` is dropped.

Any number of callers run `acquire_portal_session` at the same time, and what
they got is cloned and dropped in any order.  Sessions are numbered in the
order they are created.
-/

namespace Rylus

/-- Where a call of `acquire_portal_session` is.  `checking` holds the lock of
the cache and what `weak.upgrade()` returned; `again` tells the second check
from the first. -/
inductive AcquirePhase where
  | idle
  | entering
  | checking (again : Bool) (upgraded : Option Nat)
  | waiting
  | guarded
  | requesting
  | storing (session : Nat)
  deriving DecidableEq

namespace AcquirePhase

/-- The session whose `Arc` the call holds. -/
def holds : AcquirePhase → Option Nat
  | .checking _ upgraded => upgraded
  | .storing session => some session
  | .idle | .entering | .waiting | .guarded | .requesting => none

/-- Whether the call holds `PORTAL_CACHE.lock()`. -/
def locksCache : AcquirePhase → Bool
  | .checking _ _ => true
  | _ => false

/-- Whether the call holds `PORTAL_ACQUIRE_LOCK.lock()`. -/
def hasGuard : AcquirePhase → Bool
  | .checking again _ => again
  | .guarded | .requesting | .storing _ => true
  | .idle | .entering | .waiting => false

/-- What follows a check that found no session to use. -/
def afterCheck (again : Bool) : AcquirePhase :=
  if again then .requesting else .waiting

@[simp]
theorem holds_idle : idle.holds = none :=
  rfl

@[simp]
theorem holds_checking (again : Bool) (upgraded : Option Nat) :
    (checking again upgraded).holds = upgraded :=
  rfl

@[simp]
theorem holds_storing (session : Nat) :
    (storing session).holds = some session :=
  rfl

@[simp]
theorem holds_afterCheck (again : Bool) : (afterCheck again).holds = none := by
  cases again <;> rfl

@[simp]
theorem hasGuard_checking (again : Bool) (upgraded : Option Nat) :
    (checking again upgraded).hasGuard = again :=
  rfl

@[simp]
theorem hasGuard_afterCheck (again : Bool) :
    (afterCheck again).hasGuard = again := by
  cases again <;> rfl

end AcquirePhase

structure PortalCaller where
  captureCursor : Bool
  phase : AcquirePhase

/-- The callers, the `capture_cursor` of each session created, the `Arc`s that
were returned and their clones, the `Weak` in the cache, and the sessions
closed. -/
structure PortalSessions (Caller : Type*) where
  callers : Caller → PortalCaller
  sessions : List Bool
  handles : List Nat
  cache : Option Nat
  closed : List Nat

inductive PortalStep (Caller : Type*) where
  | call (caller : Caller) (captureCursor : Bool)
  | lookup (caller : Caller)
  | decide (caller : Caller)
  | lock (caller : Caller)
  | respond (caller : Caller) (created : Bool)
  | store (caller : Caller)
  | clone (session : Nat)
  | drop (session : Nat)

namespace PortalSessions

variable {Caller : Type*}

def start : PortalSessions Caller where
  callers _ := ⟨false, .idle⟩
  sessions := []
  handles := []
  cache := none
  closed := []

/-- Somebody holds an `Arc` of the session. -/
def Live (state : PortalSessions Caller) (session : Nat) : Prop :=
  session ∈ state.handles ∨
    ∃ caller, (state.callers caller).phase.holds = some session

variable [Fintype Caller] [DecidableEq Caller]

instance (state : PortalSessions Caller) (session : Nat) :
    Decidable (state.Live session) :=
  inferInstanceAs (Decidable (_ ∨ _))

def setPhase (state : PortalSessions Caller) (caller : Caller)
    (phase : AcquirePhase) : PortalSessions Caller :=
  { state with
    callers := Function.update state.callers caller
      { state.callers caller with phase := phase } }

/-- `PortalSession::drop`, when the last `Arc` is gone. -/
def closeUnused (state : PortalSessions Caller) (session : Nat) :
    PortalSessions Caller :=
  if state.Live session then state
  else { state with closed := state.closed ++ [session] }

/-- `weak.upgrade()` of the `Weak` in the cache. -/
def upgrade (state : PortalSessions Caller) : Option Nat :=
  state.cache.filter fun session => decide (state.Live session)

def step (state : PortalSessions Caller) :
    PortalStep Caller → Option (PortalSessions Caller)
  | .call caller captureCursor =>
      match (state.callers caller).phase with
      | .idle =>
          some { state with
            callers := Function.update state.callers caller
              ⟨captureCursor, .entering⟩ }
      | _ => none
  | .lookup caller =>
      if ∃ other, (state.callers other).phase.locksCache then none
      else
        match (state.callers caller).phase with
        | .entering =>
            some (state.setPhase caller (.checking false state.upgrade))
        | .guarded =>
            some (state.setPhase caller (.checking true state.upgrade))
        | _ => none
  | .decide caller =>
      match (state.callers caller).phase with
      | .checking again none =>
          some (state.setPhase caller (.afterCheck again))
      | .checking again (some session) =>
          if state.sessions[session]? =
              some (state.callers caller).captureCursor then
            let next := state.setPhase caller .idle
            some { next with handles := session :: state.handles }
          else
            -- the upgraded `Arc` is dropped with the session unused
            some ((state.setPhase caller (.afterCheck again)).closeUnused
              session)
      | _ => none
  | .lock caller =>
      if ∃ other, (state.callers other).phase.hasGuard then none
      else
        match (state.callers caller).phase with
        | .waiting => some (state.setPhase caller .guarded)
        | _ => none
  | .respond caller created =>
      match (state.callers caller).phase with
      | .requesting =>
          if created then
            let next := state.setPhase caller (.storing state.sessions.length)
            some { next with
              sessions := state.sessions ++
                [(state.callers caller).captureCursor] }
          else
            some (state.setPhase caller .idle)
      | _ => none
  | .store caller =>
      if ∃ other, (state.callers other).phase.locksCache then none
      else
        match (state.callers caller).phase with
        | .storing session =>
            let next := state.setPhase caller .idle
            some { next with
              cache := some session
              handles := session :: state.handles }
        | _ => none
  | .clone session =>
      if session ∈ state.handles then
        some { state with handles := session :: state.handles }
      else
        none
  | .drop session =>
      if session ∈ state.handles then
        some (closeUnused
          { state with handles := state.handles.erase session } session)
      else
        none

omit [Fintype Caller] [DecidableEq Caller] in
/-- The `Arc`s of a session are returned ones, that of one caller, or that of
another. -/
theorem live_iff (state : PortalSessions Caller) (caller : Caller)
    (session : Nat) :
    state.Live session ↔ session ∈ state.handles ∨
      (state.callers caller).phase.holds = some session ∨
        ∃ other, other ≠ caller ∧
          (state.callers other).phase.holds = some session := by
  constructor
  · rintro (returned | ⟨other, held⟩)
    · exact .inl returned
    · by_cases same : other = caller
      · exact .inr (.inl (same ▸ held))
      · exact .inr (.inr ⟨other, same, held⟩)
  · rintro (returned | held | ⟨other, -, held⟩)
    · exact .inl returned
    · exact .inr ⟨caller, held⟩
    · exact .inr ⟨other, held⟩

/-- What a step does, and when it is taken. -/
inductive Move (state : PortalSessions Caller) :
    PortalStep Caller → PortalSessions Caller → Prop
  | call (caller : Caller) (captureCursor : Bool)
      (phase : (state.callers caller).phase = .idle) :
      Move state (.call caller captureCursor) { state with
        callers := Function.update state.callers caller
          ⟨captureCursor, .entering⟩ }
  | lookup (caller : Caller) (again : Bool)
      (phase : (state.callers caller).phase =
        if again then .guarded else .entering) :
      Move state (.lookup caller)
        (state.setPhase caller (.checking again state.upgrade))
  | findsNone (caller : Caller) (again : Bool)
      (phase : (state.callers caller).phase = .checking again none) :
      Move state (.decide caller) (state.setPhase caller (.afterCheck again))
  | shares (caller : Caller) (again : Bool) (session : Nat)
      (phase : (state.callers caller).phase =
        .checking again (some session)) :
      Move state (.decide caller) { state.setPhase caller .idle with
        handles := session :: state.handles }
  | rejects (caller : Caller) (again : Bool) (session : Nat)
      (phase : (state.callers caller).phase =
        .checking again (some session))
      (differs : state.sessions[session]? ≠
        some (state.callers caller).captureCursor) :
      Move state (.decide caller)
        ((state.setPhase caller (.afterCheck again)).closeUnused session)
  | lock (caller : Caller)
      (free : ∀ other, (state.callers other).phase.hasGuard = false)
      (phase : (state.callers caller).phase = .waiting) :
      Move state (.lock caller) (state.setPhase caller .guarded)
  | creates (caller : Caller)
      (phase : (state.callers caller).phase = .requesting) :
      Move state (.respond caller true) { state.setPhase caller
          (.storing state.sessions.length) with
        sessions := state.sessions ++
          [(state.callers caller).captureCursor] }
  | fails (caller : Caller)
      (phase : (state.callers caller).phase = .requesting) :
      Move state (.respond caller false) (state.setPhase caller .idle)
  | store (caller : Caller) (session : Nat)
      (phase : (state.callers caller).phase = .storing session) :
      Move state (.store caller) { state.setPhase caller .idle with
        cache := some session
        handles := session :: state.handles }
  | clone (session : Nat) (isHeld : session ∈ state.handles) :
      Move state (.clone session)
        { state with handles := session :: state.handles }
  | drop (session : Nat) (isHeld : session ∈ state.handles) :
      Move state (.drop session) (closeUnused
        { state with handles := state.handles.erase session } session)

variable {state next : PortalSessions Caller} {label : PortalStep Caller}

/-- Every step is one of these moves. -/
theorem move_of_step (taken : state.step label = some next) :
    state.Move label next := by
  cases label with
  | call caller captureCursor =>
      simp only [step] at taken
      split at taken <;> cases taken
      rename_i phase
      exact .call caller captureCursor phase
  | lookup caller =>
      simp only [step] at taken
      split at taken
      · cases taken
      · split at taken <;> cases taken <;> rename_i phase
        · exact .lookup caller false phase
        · exact .lookup caller true phase
  | decide caller =>
      simp only [step] at taken
      split at taken
      · rename_i again phase
        cases taken
        exact .findsNone caller again phase
      · rename_i again session phase
        split at taken <;> cases taken
        · exact .shares caller again session phase
        · rename_i differs
          exact .rejects caller again session phase differs
      · cases taken
  | lock caller =>
      simp only [step] at taken
      split at taken
      · cases taken
      · rename_i unlocked
        split at taken <;> cases taken
        rename_i phase
        refine .lock caller (fun other => ?_) phase
        exact Bool.eq_false_iff.mpr fun guarded => unlocked ⟨other, guarded⟩
  | respond caller created =>
      simp only [step] at taken
      split at taken
      · rename_i phase
        cases created <;> cases taken
        · exact .fails caller phase
        · exact .creates caller phase
      · cases taken
  | store caller =>
      simp only [step] at taken
      split at taken
      · cases taken
      · split at taken <;> cases taken
        rename_i session phase
        exact .store caller session phase
  | clone session =>
      simp only [step] at taken
      split at taken <;> cases taken
      rename_i isHeld
      exact .clone session isHeld
  | drop session =>
      simp only [step] at taken
      split at taken <;> cases taken
      rename_i isHeld
      exact .drop session isHeld

/-- What a step does to the sessions: it keeps each as live as it is, creates
one, or drops an `Arc` of one, and closes it if that was the last. -/
inductive SessionMove (state next : PortalSessions Caller) : Prop
  | keeps (live : ∀ session, next.Live session ↔ state.Live session)
      (sessions : next.sessions = state.sessions)
      (closed : next.closed = state.closed)
  | creates (captureCursor : Bool)
      (live : ∀ session, next.Live session ↔
        state.Live session ∨ session = state.sessions.length)
      (sessions : next.sessions = state.sessions ++ [captureCursor])
      (closed : next.closed = state.closed)
  | drops (dropped : Nat) (held : state.Live dropped)
      (live : ∀ session, session ≠ dropped →
        (next.Live session ↔ state.Live session))
      (sessions : next.sessions = state.sessions)
      (closed : next.closed =
        if next.Live dropped then state.closed
        else state.closed ++ [dropped])

omit [Fintype Caller] in
/-- Who else holds a session does not depend on the caller. -/
theorem heldByOther_update (callers : Caller → PortalCaller)
    (caller : Caller) (value : PortalCaller) (session : Nat) :
    (∃ other, other ≠ caller ∧
        (Function.update callers caller value other).phase.holds =
          some session) ↔
      ∃ other, other ≠ caller ∧
        (callers other).phase.holds = some session := by
  refine exists_congr fun other => and_congr_right fun different => ?_
  rw [Function.update_of_ne different]

/-- A caller that holds the same as before. -/
theorem keeps_of_update {caller : Caller} {value : PortalCaller}
    (holds : value.phase.holds = (state.callers caller).phase.holds)
    (cache : Option Nat) :
    state.SessionMove { state with
      callers := Function.update state.callers caller value
      cache := cache } := by
  refine .keeps (fun session => ?_) rfl rfl
  rw [live_iff _ caller, live_iff state caller]
  simp only [heldByOther_update, Function.update_self, holds]

omit [DecidableEq Caller] in
theorem closeUnused_live (state : PortalSessions Caller)
    (session other : Nat) :
    (state.closeUnused session).Live other ↔ state.Live other := by
  unfold closeUnused
  split <;> rfl

omit [DecidableEq Caller] in
/-- What is left of a state in which an `Arc` has been dropped. -/
theorem drops_of_closeUnused {dropped : Nat} (held : state.Live dropped)
    (live : ∀ session, session ≠ dropped →
      (next.Live session ↔ state.Live session))
    (sessions : next.sessions = state.sessions)
    (closed : next.closed = state.closed) :
    state.SessionMove (next.closeUnused dropped) := by
  refine .drops dropped held (fun session other => ?_) ?_ ?_
  · rw [closeUnused_live]
    exact live session other
  · rw [← sessions]
    unfold closeUnused
    split <;> rfl
  · simp only [closeUnused_live]
    rw [← closed]
    unfold closeUnused
    split <;> rfl

omit [DecidableEq Caller] in
/-- An upgraded session is live. -/
theorem live_of_upgrade {session : Nat}
    (upgraded : state.upgrade = some session) :
    state.cache = some session ∧ state.Live session := by
  simpa [upgrade, Option.filter_eq_some_iff] using upgraded

theorem keeps_lookup {caller : Caller} {again : Bool}
    (free : (state.callers caller).phase.holds = none) :
    state.SessionMove
      (state.setPhase caller (.checking again state.upgrade)) := by
  refine .keeps (fun session => ?_) rfl rfl
  rw [live_iff _ caller, live_iff state caller]
  simp only [setPhase, heldByOther_update, Function.update_self, free,
    AcquirePhase.holds_checking]
  constructor
  · rintro (returned | upgraded | other)
    · exact .inl returned
    · have live := (live_of_upgrade upgraded).2
      rw [live_iff state caller, free] at live
      simpa using live
    · exact .inr (.inr other)
  · rintro (returned | held | other)
    · exact .inl returned
    · cases held
    · exact .inr (.inr other)

/-- A caller hands its `Arc` out. -/
theorem keeps_return {caller : Caller} {session : Nat}
    (held : (state.callers caller).phase.holds = some session)
    (cache : Option Nat) :
    state.SessionMove { state.setPhase caller .idle with
      cache := cache
      handles := session :: state.handles } := by
  refine .keeps (fun other => ?_) rfl rfl
  rw [live_iff _ caller, live_iff state caller]
  simp only [setPhase, heldByOther_update, Function.update_self, held,
    AcquirePhase.holds_idle, List.mem_cons, Option.some.injEq]
  grind

/-- What a step does to the sessions. -/
theorem sessionMove_of_step (taken : state.step label = some next) :
    state.SessionMove next := by
  cases move_of_step taken with
  | call caller _ phase => exact keeps_of_update (by rw [phase]; rfl) _
  | lookup caller again phase =>
      exact keeps_lookup (by rw [phase]; cases again <;> rfl)
  | findsNone caller again phase =>
      exact keeps_of_update (by simp [phase]) _
  | shares caller again session phase =>
      exact keeps_return (by rw [phase]; rfl) _
  | rejects caller again session phase =>
      have held : (state.callers caller).phase.holds = some session := by
        rw [phase]; rfl
      refine drops_of_closeUnused (.inr ⟨caller, held⟩) ?_ rfl rfl
      intro other different
      rw [live_iff _ caller, live_iff state caller]
      simp only [setPhase, heldByOther_update, Function.update_self, held,
        AcquirePhase.holds_afterCheck]
      simp [different.symm]
  | lock caller _ phase => exact keeps_of_update (by rw [phase]; rfl) _
  | creates caller phase =>
      refine .creates (state.callers caller).captureCursor
        (fun session => ?_) rfl rfl
      rw [live_iff _ caller, live_iff state caller]
      have free : (state.callers caller).phase.holds = none := by
        rw [phase]; rfl
      simp only [setPhase, heldByOther_update, Function.update_self,
        free, AcquirePhase.holds_storing, Option.some.injEq]
      grind
  | fails caller phase => exact keeps_of_update (by rw [phase]; rfl) _
  | store caller session phase => exact keeps_return (by rw [phase]; rfl) _
  | clone session isHeld =>
      refine .keeps (fun other => ?_) rfl rfl
      simp only [Live, List.mem_cons]
      grind
  | drop session isHeld =>
      refine drops_of_closeUnused (.inl isHeld) ?_ rfl rfl
      intro other different
      simp only [Live, List.mem_erase_of_ne different]

/-- Every session is live or closed, and closed once only. -/
structure ClosedOnce (state : PortalSessions Caller) : Prop where
  created : ∀ session, state.Live session → session < state.sessions.length
  exact : ∀ session, session ∈ state.closed ↔
    session < state.sessions.length ∧ ¬ state.Live session
  once : state.closed.Nodup

theorem closedOnce_step (closedOnce : state.ClosedOnce)
    (taken : state.step label = some next) : next.ClosedOnce := by
  obtain ⟨created, exact', once⟩ := closedOnce
  cases sessionMove_of_step taken with
  | keeps live sessions closed =>
      constructor
      · simpa only [live, sessions] using created
      · simpa only [live, sessions, closed] using exact'
      · rwa [closed]
  | creates captureCursor live sessions closed =>
      have length : next.sessions.length = state.sessions.length + 1 := by
        rw [sessions, List.length_append, List.length_singleton]
      constructor
      · intro session isLive
        rw [length]
        rcases (live session).mp isLive with before | rfl
        · exact Nat.lt_succ_of_lt (created session before)
        · exact Nat.lt_succ_self _
      · intro session
        rw [closed, exact', live, length]
        constructor
        · rintro ⟨old, unused⟩
          refine ⟨Nat.lt_succ_of_lt old, ?_⟩
          rintro (isLive | rfl)
          · exact unused isLive
          · exact lt_irrefl _ old
        · rintro ⟨bound, unused⟩
          have different : session ≠ state.sessions.length :=
            fun same => unused (.inr same)
          exact ⟨by omega, fun isLive => unused (.inl isLive)⟩
      · rwa [closed]
  | drops dropped held live sessions closed =>
      have fresh : dropped ∉ state.closed :=
        fun member => ((exact' dropped).mp member).2 held
      by_cases still : next.Live dropped
      · have same : ∀ session, next.Live session ↔ state.Live session := by
          intro session
          by_cases other : session = dropped
          · subst other
            exact iff_of_true still held
          · exact live session other
        rw [if_pos still] at closed
        constructor
        · simpa only [same, sessions] using created
        · simpa only [same, sessions, closed] using exact'
        · rwa [closed]
      · rw [if_neg still] at closed
        constructor
        · intro session isLive
          have other : session ≠ dropped := by
            rintro rfl
            exact still isLive
          rw [sessions]
          exact created session ((live session other).mp isLive)
        · intro session
          rw [closed, sessions, List.mem_append, List.mem_singleton, exact']
          by_cases other : session = dropped
          · subst other
            exact iff_of_true (.inr rfl) ⟨created _ held, still⟩
          · rw [live session other]
            simp [other]
        · rw [closed]
          exact once.append (List.nodup_singleton _)
            (by simpa using fresh)

/-- At most one caller holds `PORTAL_ACQUIRE_LOCK`. -/
def OneGuard (state : PortalSessions Caller) : Prop :=
  ∀ first second, (state.callers first).phase.hasGuard = true →
    (state.callers second).phase.hasGuard = true → first = second

omit [Fintype Caller] in
/-- A caller that comes by the guard no other way. -/
theorem oneGuard_update {caller : Caller} {value : PortalCaller}
    (oneGuard : state.OneGuard)
    (guards : value.phase.hasGuard = true →
      (state.callers caller).phase.hasGuard = true) :
    ∀ first second,
      (Function.update state.callers caller value first).phase.hasGuard =
          true →
        (Function.update state.callers caller value second).phase.hasGuard =
            true → first = second := by
  have before : ∀ other,
      (Function.update state.callers caller value other).phase.hasGuard =
          true → (state.callers other).phase.hasGuard = true := by
    intro other guarded
    by_cases same : other = caller
    · subst same
      rw [Function.update_self] at guarded
      exact guards guarded
    · rwa [Function.update_of_ne same] at guarded
  exact fun first second one two =>
    oneGuard first second (before first one) (before second two)

omit [DecidableEq Caller] in
theorem oneGuard_closeUnused (oneGuard : state.OneGuard) (session : Nat) :
    (state.closeUnused session).OneGuard := by
  unfold closeUnused
  split <;> exact oneGuard

omit [Fintype Caller] in
/-- A caller takes the guard that nobody has. -/
theorem oneGuard_lock {caller : Caller}
    (free : ∀ other, (state.callers other).phase.hasGuard = false) :
    (state.setPhase caller .guarded).OneGuard := by
  have onlyCaller : ∀ other,
      ((state.setPhase caller .guarded).callers other).phase.hasGuard =
        true → other = caller := by
    intro other guarded
    by_contra different
    simp only [setPhase, Function.update_of_ne different, free] at guarded
    cases guarded
  intro first second one two
  rw [onlyCaller first one, onlyCaller second two]

theorem oneGuard_step (oneGuard : state.OneGuard)
    (taken : state.step label = some next) : next.OneGuard := by
  cases move_of_step taken with
  | call | shares | fails | store =>
      exact oneGuard_update oneGuard (by simp [AcquirePhase.hasGuard])
  | lookup caller again phase =>
      refine oneGuard_update oneGuard ?_
      cases again <;> simp [phase, AcquirePhase.hasGuard]
  | findsNone caller again phase =>
      exact oneGuard_update oneGuard (by simp [phase])
  | rejects caller again session phase =>
      apply oneGuard_closeUnused
      exact oneGuard_update oneGuard (by simp [phase])
  | lock caller free => exact oneGuard_lock free
  | creates caller phase =>
      exact oneGuard_update oneGuard (by simp [AcquirePhase.hasGuard, phase])
  | clone => exact oneGuard
  | drop session =>
      have kept : OneGuard
        { state with handles := state.handles.erase session } := oneGuard
      exact oneGuard_closeUnused kept session

/-- However the calls interleave, at most one of them is talking to the
portal, no session is closed while somebody holds it, and every session is
closed exactly once when nobody does. -/
theorem closedOnce_along (execution : Transition.Execution step
    (start : PortalSessions Caller)) :
    execution.Along fun state => state.OneGuard ∧ state.ClosedOnce := by
  refine execution.along_of_kept
    (fun state => state.OneGuard ∧ state.ClosedOnce) ?_ ?_
  · refine ⟨by simp [OneGuard, start, AcquirePhase.hasGuard], ?_, ?_, ?_⟩
    · simp [Live, start, AcquirePhase.holds]
    · simp [start]
    · exact List.nodup_nil
  · exact fun before label after ⟨oneGuard, closedOnce⟩ taken =>
      ⟨oneGuard_step oneGuard taken, closedOnce_step closedOnce taken⟩

/-- Only calls with this `capture_cursor` are made. -/
def AsksFor (captureCursor : Bool) : PortalStep Caller → Prop
  | .call _ asked => asked = captureCursor
  | _ => True

/-- What is known when all callers ask for the same `capture_cursor`: the one
live session is in the cache or about to be stored there, and a caller that
asks the portal has found none. -/
structure Shared (captureCursor : Bool) (state : PortalSessions Caller) :
    Prop where
  sessions : ∀ cursor ∈ state.sessions, cursor = captureCursor
  callers : ∀ caller, (state.callers caller).phase ≠ .idle →
    (state.callers caller).captureCursor = captureCursor
  found : ∀ session, state.Live session → state.cache = some session ∨
    ∃ caller, (state.callers caller).phase = .storing session
  storing : ∀ caller session, (state.callers caller).phase =
    .storing session → ∀ other, state.Live other → other = session
  asking : ∀ caller, (state.callers caller).phase = .requesting ∨
      (state.callers caller).phase = .checking true none →
    ∀ session, ¬ state.Live session

omit [DecidableEq Caller] in
/-- Steps that create and close no session keep all of them as live as they
are. -/
theorem SessionMove.live_iff (moved : state.SessionMove next)
    (sessions : next.sessions = state.sessions)
    (closed : next.closed = state.closed) (session : Nat) :
    next.Live session ↔ state.Live session := by
  cases moved with
  | keeps live => exact live session
  | creates captureCursor live created =>
      rw [sessions] at created
      simp at created
  | drops dropped held live _ closes =>
      by_cases same : session = dropped
      · subst same
        refine iff_of_true ?_ held
        by_contra gone
        rw [if_neg gone, closed] at closes
        simp at closes
      · exact live session same

variable {captureCursor : Bool}

omit [Fintype Caller] in
/-- A caller goes on, and stores nothing before or after. -/
theorem shared_update (shared : state.Shared captureCursor) {caller : Caller}
    {value : PortalCaller}
    (live : ∀ session, next.Live session ↔ state.Live session)
    (callers : next.callers = Function.update state.callers caller value)
    (sessions : next.sessions = state.sessions)
    (cache : next.cache = state.cache)
    (before : ∀ session, (state.callers caller).phase ≠ .storing session)
    (after : ∀ session, value.phase ≠ .storing session)
    (cursor : value.phase ≠ .idle → value.captureCursor = captureCursor)
    (asking : value.phase = .requesting ∨ value.phase = .checking true none →
      ∀ session, ¬ state.Live session) : next.Shared captureCursor := by
  constructor
  · rw [sessions]
    exact shared.sessions
  · intro other busy
    rw [callers] at busy ⊢
    by_cases same : other = caller
    · subst same
      rw [Function.update_self] at busy ⊢
      exact cursor busy
    · rw [Function.update_of_ne same] at busy ⊢
      exact shared.callers other busy
  · intro session isLive
    rw [cache, callers]
    rcases shared.found session ((live session).mp isLive) with
      cached | ⟨other, phase⟩
    · exact .inl cached
    · have different : other ≠ caller := by
        rintro rfl
        exact before session phase
      exact .inr ⟨other, by rwa [Function.update_of_ne different]⟩
  · intro other session phase another isLive
    rw [callers] at phase
    by_cases same : other = caller
    · subst same
      rw [Function.update_self] at phase
      exact absurd phase (after session)
    · rw [Function.update_of_ne same] at phase
      exact shared.storing other session phase another
        ((live another).mp isLive)
  · intro other phase session isLive
    rw [callers] at phase
    by_cases same : other = caller
    · subst same
      rw [Function.update_self] at phase
      exact asking phase session ((live session).mp isLive)
    · rw [Function.update_of_ne same] at phase
      exact shared.asking other phase session ((live session).mp isLive)

omit [DecidableEq Caller] in
/-- Under the guard, a check that finds nothing to upgrade means that no
session is live. -/
theorem none_live_of_upgrade (shared : state.Shared captureCursor)
    (oneGuard : state.OneGuard) {caller : Caller}
    (phase : (state.callers caller).phase = .guarded)
    (nothing : state.upgrade = none) (session : Nat) :
    ¬ state.Live session := by
  intro isLive
  rcases shared.found session isLive with cached | ⟨other, storing⟩
  · simp [upgrade, cached, isLive] at nothing
  · have same : other = caller :=
      oneGuard other caller (by rw [storing]; rfl) (by rw [phase]; rfl)
    rw [same, phase] at storing
    cases storing

omit [Fintype Caller] [DecidableEq Caller] in
/-- Nobody else stores or asks while this caller has the guard. -/
theorem alone_of_guard (oneGuard : state.OneGuard) {caller other : Caller}
    (guarded : (state.callers caller).phase.hasGuard = true)
    (different : other ≠ caller) :
    (state.callers other).phase.hasGuard = false := by
  by_contra also
  rw [Bool.not_eq_false] at also
  exact different (oneGuard other caller also guarded)

/-- The portal answers a caller: its session is the only live one. -/
theorem shared_respond (shared : state.Shared captureCursor)
    (oneGuard : state.OneGuard) {caller : Caller}
    (phase : (state.callers caller).phase = .requesting)
    (taken : state.step (.respond caller true) = some next) :
    next.Shared captureCursor := by
  have moved := sessionMove_of_step taken
  simp only [step, phase, if_true, Option.some.injEq] at taken
  have none_live := shared.asking caller (.inl phase)
  have guarded : (state.callers caller).phase.hasGuard = true := by
    rw [phase]; rfl
  have alone : ∀ other, other ≠ caller →
      (next.callers other).phase.hasGuard = false := by
    intro other different
    rw [← taken]
    simp only [setPhase, Function.update_of_ne different]
    exact alone_of_guard oneGuard guarded different
  have stores : (next.callers caller).phase =
      .storing state.sessions.length := by
    rw [← taken]
    simp [setPhase]
  have live : ∀ session, next.Live session →
      session = state.sessions.length := by
    intro session isLive
    cases moved with
    | keeps _ sessions => simp [← taken, setPhase] at sessions
    | creates _ live =>
        rcases (live session).mp isLive with before | isNew
        · exact absurd before (none_live session)
        · exact isNew
    | drops _ _ _ sessions => simp [← taken, setPhase] at sessions
  constructor
  · intro cursor member
    rw [← taken] at member
    rcases List.mem_append.mp member with old | new
    · exact shared.sessions cursor old
    · rw [List.mem_singleton.mp new]
      exact shared.callers caller (by simp [phase])
  · intro other busy
    by_cases same : other = caller
    · subst same
      rw [← taken]
      simp only [setPhase, Function.update_self]
      exact shared.callers other (by simp [phase])
    · rw [← taken] at busy ⊢
      simp only [setPhase, Function.update_of_ne same] at busy ⊢
      exact shared.callers other busy
  · intro session isLive
    rw [live session isLive]
    exact .inr ⟨caller, stores⟩
  · intro other session storing another isLive
    by_cases same : other = caller
    · subst same
      rw [stores] at storing
      cases storing
      exact live another isLive
    · have free := alone other same
      rw [storing] at free
      cases free
  · intro other asks session isLive
    by_cases same : other = caller
    · subst same
      rw [stores] at asks
      rcases asks with asks | asks <;> cases asks
    · have free := alone other same
      rcases asks with asks | asks <;> rw [asks] at free <;> cases free

/-- The caller that created the session stores it in the cache. -/
theorem shared_store (shared : state.Shared captureCursor)
    (oneGuard : state.OneGuard) {caller : Caller} {session : Nat}
    (phase : (state.callers caller).phase = .storing session)
    (taken : state.step (.store caller) = some next) :
    next.Shared captureCursor := by
  have live := (sessionMove_of_step taken).live_iff
  simp only [step, phase] at taken
  split at taken
  · cases taken
  · rw [Option.some.injEq] at taken
    have live := live (by rw [← taken]; rfl) (by rw [← taken]; rfl)
    have guarded : (state.callers caller).phase.hasGuard = true := by
      rw [phase]; rfl
    have idle : (next.callers caller).phase = .idle := by
      rw [← taken]
      simp [setPhase]
    have others : ∀ other, other ≠ caller →
        next.callers other = state.callers other := by
      intro other different
      rw [← taken]
      simp only [setPhase, Function.update_of_ne different]
    constructor
    · rw [← taken]
      exact shared.sessions
    · intro other busy
      by_cases same : other = caller
      · subst same
        exact absurd idle busy
      · rw [others other same] at busy ⊢
        exact shared.callers other busy
    · intro another isLive
      left
      rw [shared.storing caller session phase another
        ((live another).mp isLive), ← taken]
    · intro other another storing
      by_cases same : other = caller
      · subst same
        rw [idle] at storing
        cases storing
      · have free := alone_of_guard oneGuard guarded same
        rw [← others other same, storing] at free
        cases free
    · intro other asks
      by_cases same : other = caller
      · subst same
        rw [idle] at asks
        rcases asks with asks | asks <;> cases asks
      · have free := alone_of_guard oneGuard guarded same
        rw [← others other same] at free
        rcases asks with asks | asks <;> rw [asks] at free <;> cases free

omit [Fintype Caller] [DecidableEq Caller] in
/-- Fewer live sessions. -/
theorem shared_of_live (shared : state.Shared captureCursor)
    (live : ∀ session, next.Live session → state.Live session)
    (callers : next.callers = state.callers)
    (sessions : next.sessions = state.sessions)
    (cache : next.cache = state.cache) : next.Shared captureCursor := by
  constructor
  · rw [sessions]
    exact shared.sessions
  · rw [callers]
    exact shared.callers
  · rw [callers, cache]
    exact fun session isLive => shared.found session (live session isLive)
  · rw [callers]
    exact fun caller session phase other isLive =>
      shared.storing caller session phase other (live other isLive)
  · rw [callers]
    exact fun caller asks session isLive =>
      shared.asking caller asks session (live session isLive)

/-- A caller looks into the cache. -/
theorem shared_lookup (shared : state.Shared captureCursor)
    (oneGuard : state.OneGuard) {caller : Caller} {again : Bool}
    (phase : (state.callers caller).phase =
      if again then .guarded else .entering)
    (live : ∀ session,
      (state.setPhase caller (.checking again state.upgrade)).Live session ↔
        state.Live session) :
    (state.setPhase caller (.checking again state.upgrade)).Shared
      captureCursor := by
  apply shared_update shared live rfl rfl rfl
  · cases again <;> simp [phase]
  · simp
  · refine fun _ => shared.callers caller ?_
    cases again <;> simp [phase]
  · intro nothing
    cases again with
    | false => simp at nothing
    | true =>
        apply none_live_of_upgrade shared oneGuard phase
        simpa using nothing

omit [Fintype Caller] [DecidableEq Caller] in
/-- A session that was upgraded has the `capture_cursor` asked for. -/
theorem captureCursor_of_checking (shared : state.Shared captureCursor)
    (closedOnce : state.ClosedOnce) {caller : Caller} {again : Bool}
    {session : Nat} (phase : (state.callers caller).phase =
      .checking again (some session)) :
    state.sessions[session]? =
      some (state.callers caller).captureCursor := by
  have created := closedOnce.created session
    (.inr ⟨caller, by rw [phase]; rfl⟩)
  rw [List.getElem?_eq_getElem created,
    shared.sessions _ (List.getElem_mem created),
    shared.callers caller (by simp [phase])]

omit [DecidableEq Caller] in
theorem shared_closeUnused (shared : state.Shared captureCursor)
    (session : Nat) : (state.closeUnused session).Shared captureCursor := by
  unfold closeUnused
  split <;> exact shared_of_live shared (fun _ => id) rfl rfl rfl

theorem shared_step (shared : state.Shared captureCursor)
    (oneGuard : state.OneGuard) (closedOnce : state.ClosedOnce)
    (asks : AsksFor captureCursor label)
    (taken : state.step label = some next) : next.Shared captureCursor := by
  have live := (sessionMove_of_step taken).live_iff
  cases move_of_step taken with
  | call caller asked phase =>
      apply shared_update shared (live rfl rfl) rfl rfl rfl
      · simp [phase]
      · simp
      · exact fun _ => asks
      · simp
  | lookup caller again phase =>
      exact shared_lookup shared oneGuard phase (live rfl rfl)
  | findsNone caller again phase =>
      apply shared_update shared (live rfl rfl) rfl rfl rfl
      · simp [phase]
      · cases again <;> simp [AcquirePhase.afterCheck]
      · exact fun _ => shared.callers caller (by simp [phase])
      · cases again with
        | false => simp [AcquirePhase.afterCheck]
        | true => exact fun _ => shared.asking caller (.inr phase)
  | shares caller again session phase =>
      apply shared_update shared (live rfl rfl) rfl rfl rfl
      · simp [phase]
      · simp
      · exact fun busy => absurd rfl busy
      · simp
  | rejects caller again session phase differs =>
      exact absurd (captureCursor_of_checking shared closedOnce phase) differs
  | lock caller _ phase =>
      apply shared_update shared (live rfl rfl) rfl rfl rfl
      · simp [phase]
      · simp
      · exact fun _ => shared.callers caller (by simp [phase])
      · simp
  | creates caller phase => exact shared_respond shared oneGuard phase taken
  | fails caller phase =>
      apply shared_update shared (live rfl rfl) rfl rfl rfl
      · simp [phase]
      · simp
      · exact fun busy => absurd rfl busy
      · simp
  | store caller session phase =>
      exact shared_store shared oneGuard phase taken
  | clone session =>
      exact shared_of_live shared (fun other => (live rfl rfl other).mp)
        rfl rfl rfl
  | drop session =>
      apply shared_closeUnused
      refine shared_of_live shared ?_ rfl rfl rfl
      rintro other (returned | held)
      · exact .inl (List.mem_of_mem_erase returned)
      · exact .inr held

/-- As long as everybody asks for the same `capture_cursor`, there is at most
one portal session at a time that anybody holds. -/
theorem oneSession_along (captureCursor : Bool)
    (execution : Transition.Execution step (start : PortalSessions Caller))
    (asks : ∀ label ∈ execution.labels, AsksFor captureCursor label) :
    execution.Along fun state => ∀ first second,
      state.Live first → state.Live second → first = second := by
  have shared : execution.Along (Shared captureCursor) := by
    refine execution.along_of_stepsMeet ?_ ?_
      fun taken label rest _ split _ => asks label (by simp [split])
    · constructor <;> simp [start, Live, AcquirePhase.holds]
    · intro before label after reached shared asks taken
      have known : before.OneGuard ∧ before.ClosedOnce := by
        obtain ⟨labels, runs⟩ := reached
        exact closedOnce_along ⟨labels, before, runs⟩ labels [] before
          (by simp) runs
      exact shared_step shared known.1 known.2 asks taken
  intro taken rest state split runs first second one two
  have shared := shared taken rest state split runs
  by_cases stores : ∃ caller session,
      (state.callers caller).phase = .storing session
  · obtain ⟨caller, session, phase⟩ := stores
    rw [shared.storing caller session phase first one,
      shared.storing caller session phase second two]
  · have cached : ∀ session, state.Live session →
        state.cache = some session := by
      intro session isLive
      rcases shared.found session isLive with cached | ⟨caller, phase⟩
      · exact cached
      · exact absurd ⟨caller, session, phase⟩ stores
    have same := (cached first one).symm.trans (cached second two)
    exact Option.some.inj same

/-- Two callers at once: the second one waits and then shares the session. -/
def twoCallers : Transition.Execution step (start : PortalSessions Bool) where
  labels := [.call false true, .call true true, .lookup false, .decide false,
    .lookup true, .decide true, .lock true, .lookup true, .decide true,
    .respond true true, .store true, .lock false, .lookup false,
    .decide false, .drop 0]
  final := _
  runs := rfl

theorem oneSession_along_twoCallers :
    twoCallers.Along fun state => ∀ first second,
      state.Live first → state.Live second → first = second :=
  oneSession_along true twoCallers (by simp [twoCallers, AsksFor])

end PortalSessions

end Rylus
