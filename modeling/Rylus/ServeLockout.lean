import Rylus.ServeRequests

/-!
# Locked-out addresses and the password verifier

The lockout check of `POST /auth` and the call of the verifier are separated
by an await on the body.  A request that passed its check stays admitted as
long as no failure of its address is recorded; this file shows that failures
recorded in between are the only way to the verifier for a locked-out
address.
-/

namespace Rylus

variable {Req IpAddr Token Salt Hash : Type*}

/-- A request has been let through the lockout check and has not called the
verifier. -/
def AuthStage.IsAdmitted : AuthStage Token Hash → Prop
  | .awaitingBody _ | .submitted _ _ => True
  | _ => False

namespace ServeState

/-- Failures of the address of `req` that its lockout check has seen. -/
def failuresSeen (env : ServeEnv Req IpAddr Salt Hash)
    (state : ServeState Req IpAddr Token Hash) (req : Req) : List Nat :=
  (state.failures (env.address req)).take (state.seenFailures req)

/-- Failures of the address of `req` recorded after its lockout check. -/
def failuresMissed (env : ServeEnv Req IpAddr Salt Hash)
    (state : ServeState Req IpAddr Token Hash) (req : Req) : List Nat :=
  (state.failures (env.address req)).drop (state.seenFailures req)

/-- A step that calls the verifier takes place while the limiter does not
lock the address out. -/
def VerifierUnlocked [DecidableEq IpAddr]
    (env : ServeEnv Req IpAddr Salt Hash)
    (state : ServeState Req IpAddr Token Hash) :
    ServeStep Req Token Salt → Prop
  | .verifyCode req => ∀ hash code,
      state.auth req = .submitted hash (some code) → code ≠ "" →
        (state.context.rateLimiter.lockoutRemaining
          (env.address req) state.now).1 = none
  | _ => True

/-- The failures recorded since the lockout check of `req`, if any, are too
few together with the recent ones before it, or over for long enough. -/
def NotOvertaken (env : ServeEnv Req IpAddr Salt Hash)
    (state : ServeState Req IpAddr Token Hash) (req : Req) : Prop :=
  (recentFailures state.now (state.failuresSeen env req)).length +
      (recentFailures state.now (state.failuresMissed env req)).length <
        maxFailedAttempts ∨
    ∀ failure ∈ state.failuresMissed env req,
      failure + lockoutDuration ≤ state.now

/-- Every request that calls the verifier has not been overtaken by failures
of its own address. -/
def VerifierNotOvertaken (env : ServeEnv Req IpAddr Salt Hash)
    (state : ServeState Req IpAddr Token Hash) :
    ServeStep Req Token Salt → Prop
  | .verifyCode req => ∀ hash code,
      state.auth req = .submitted hash (some code) → code ≠ "" →
        state.NotOvertaken env req
  | _ => True

/-- What the limiter knows in every reachable state. -/
structure LockoutInvariant (env : ServeEnv Req IpAddr Salt Hash)
    (state : ServeState Req IpAddr Token Hash) : Prop where
  ordered : ∀ ip, (state.failures ip).Pairwise (· ≤ ·)
  past : ∀ ip, ∀ failure ∈ state.failures ip, failure ≤ state.now
  reflects : ∀ ip,
    state.context.rateLimiter.Reflects ip state.now (state.failures ip)
  seen : ∀ req,
    state.seenFailures req ≤ (state.failures (env.address req)).length
  admitted : ∀ req, (state.auth req).IsAdmitted →
    RateLimiter.lockoutOf state.now (state.failuresSeen env req) = none

/-- A step that records no failure, lets no request through its check and
takes no time. -/
structure KeepsLockouts
    (before after : ServeState Req IpAddr Token Hash) : Prop where
  now : after.now = before.now
  failures : after.failures = before.failures
  seen : after.seenFailures = before.seenFailures
  reflects : ∀ ip failures,
    before.context.rateLimiter.Reflects ip before.now failures →
      after.context.rateLimiter.Reflects ip before.now failures
  admitted : ∀ req, (after.auth req).IsAdmitted → (before.auth req).IsAdmitted

theorem KeepsLockouts.lockoutInvariant
    {env : ServeEnv Req IpAddr Salt Hash}
    {before after : ServeState Req IpAddr Token Hash}
    (keeps : KeepsLockouts before after)
    (holds : before.LockoutInvariant env) : after.LockoutInvariant env where
  ordered := by
    rw [keeps.failures]
    exact holds.ordered
  past := by
    rw [keeps.failures, keeps.now]
    exact holds.past
  reflects := by
    intro ip
    rw [keeps.failures, keeps.now]
    exact keeps.reflects ip _ (holds.reflects ip)
  seen := by
    rw [keeps.failures, keeps.seen]
    exact holds.seen
  admitted := by
    intro req isAdmitted
    rw [failuresSeen, keeps.failures, keeps.seen, keeps.now]
    exact holds.admitted req (keeps.admitted req isAdmitted)

variable [DecidableEq Req]

theorem isAdmitted_of_setAuth {state : ServeState Req IpAddr Token Hash}
    {req : Req} {stage : AuthStage Token Hash}
    (kept : stage.IsAdmitted → (state.auth req).IsAdmitted) (other : Req)
    (isAdmitted : ((state.setAuth req stage).auth other).IsAdmitted) :
    (state.auth other).IsAdmitted := by
  by_cases same : other = req
  · subst same
    simp only [setAuth, Function.update_self] at isAdmitted
    exact kept isAdmitted
  · simpa [setAuth, same] using isAdmitted

end ServeState

open ServeState

variable {env : ServeEnv Req IpAddr Salt Hash}
variable {before after : ServeState Req IpAddr Token Hash}

/-- For a request past its check, the limiter locks the address out exactly
if failures recorded since the check do. -/
theorem lockoutRemaining_eq_none_iff [DecidableEq IpAddr]
    {state : ServeState Req IpAddr Token Hash}
    (holds : state.LockoutInvariant env) {req : Req}
    (isAdmitted : (state.auth req).IsAdmitted) :
    (state.context.rateLimiter.lockoutRemaining
        (env.address req) state.now).1 = none ↔
      state.NotOvertaken env req := by
  have split : state.failuresSeen env req ++ state.failuresMissed env req =
      state.failures (env.address req) := List.take_append_drop _ _
  have counted : (recentFailures state.now
        (state.failures (env.address req))).length =
      (recentFailures state.now (state.failuresSeen env req)).length +
        (recentFailures state.now (state.failuresMissed env req)).length := by
    rw [← split]
    simp [recentFailures]
  rw [RateLimiter.lockoutRemaining_eq (holds.reflects _) le_rfl, NotOvertaken]
  cases newest : (state.failuresMissed env req).getLast? with
  | none =>
      rw [List.getLast?_eq_none_iff] at newest
      rw [newest, List.append_nil] at split
      simp [← split, newest, holds.admitted req isAdmitted]
  | some last =>
      have newestOfAll :
          (state.failures (env.address req)).getLast? = some last := by
        rw [← split, List.getLast?_append, newest]
        rfl
      have ordered := holds.ordered (env.address req)
      have lastPast : last ≤ state.now :=
        holds.past _ last (List.mem_of_getLast? newestOfAll)
      have oldEnough : (∀ failure ∈ state.failuresMissed env req,
          failure + lockoutDuration ≤ state.now) ↔
            last + lockoutDuration ≤ state.now := by
        constructor
        · exact fun old => old last (List.mem_of_getLast? newest)
        · intro old failure member
          have order : failure ≤ last := RateLimiter.le_last ordered
            newestOfAll (List.mem_of_mem_drop member)
          omega
      rw [← Option.not_isSome_iff_eq_none,
        RateLimiter.isSome_lockoutOf_iff _ ordered newestOfAll, counted,
        oldEnough]
      omega

theorem lockoutInvariant_elapse (holds : before.LockoutInvariant env)
    (nanos : Nat) :
    { before with now := before.now + nanos }.LockoutInvariant env where
  ordered := holds.ordered
  past := fun ip failure member =>
    (holds.past ip failure member).trans (Nat.le_add_right _ _)
  reflects := fun ip => (holds.reflects ip).mono (Nat.le_add_right _ _)
  seen := holds.seen
  admitted := fun req isAdmitted =>
    RateLimiter.lockoutOf_eq_none_of_le
      ((holds.ordered _).sublist (List.take_sublist _ _))
      (Nat.le_add_right _ _) (holds.admitted req isAdmitted)

variable [DecidableEq Req] [DecidableEq IpAddr] [DecidableEq Token]

/-- Only time, the lockout check and a recorded failure concern the
limiter. -/
theorem keepsLockouts_of_serveStep {label : ServeStep Req Token Salt}
    (taken : serveStep env before label = some after)
    (notElapse : ∀ nanos, label ≠ .elapse nanos)
    (notCheck : ∀ req, label ≠ .checkLockout req)
    (notRecord : ∀ req, label ≠ .recordFailure req) :
    KeepsLockouts before after := by
  rcases serveStep_cases taken with ⟨nanos, rfl, rfl⟩ | moved | moved
  · exact absurd rfl (notElapse nanos)
  · cases moved with
    | lockedOut req | admitted req => exact absurd rfl (notCheck req)
    | recorded req => exact absurd rfl (notRecord req)
    | submitted req hash code awaiting =>
        exact ⟨rfl, rfl, rfl, fun _ _ reflects => reflects,
          isAdmitted_of_setAuth (by simp [awaiting, AuthStage.IsAdmitted])⟩
    | answered req recorded =>
        exact ⟨rfl, rfl, rfl,
          fun _ _ reflects => reflects.lockoutRemaining le_rfl _,
          isAdmitted_of_setAuth (by simp [AuthStage.IsAdmitted])⟩
    | created req token hash verified =>
        refine ⟨rfl, rfl, rfl, fun _ _ reflects => reflects, ?_⟩
        exact isAdmitted_of_setAuth (by simp [AuthStage.IsAdmitted])
    | _ =>
        exact ⟨rfl, rfl, rfl, fun _ _ reflects => reflects,
          isAdmitted_of_setAuth (by simp [AuthStage.IsAdmitted])⟩
  · cases moved with
    | _ => exact ⟨rfl, rfl, rfl, fun _ _ reflects => reflects, fun _ => id⟩

theorem lockoutInvariant_checkLockout {req : Req}
    (holds : before.LockoutInvariant env)
    (taken : serveStep env before
      (.checkLockout req : ServeStep Req Token Salt) = some after) :
    after.LockoutInvariant env := by
  have moved : AuthMove env before (.checkLockout req) after :=
    authMove_of_authStep taken
  cases moved with
  | lockedOut =>
      refine KeepsLockouts.lockoutInvariant ?_ holds
      exact ⟨rfl, rfl, rfl,
        fun _ _ reflects => reflects.lockoutRemaining le_rfl _,
        isAdmitted_of_setAuth (by simp [AuthStage.IsAdmitted])⟩
  | admitted _ hash checking free =>
      have answer := RateLimiter.lockoutRemaining_eq
        (holds.reflects (env.address req)) le_rfl
      refine ⟨holds.ordered, holds.past,
        fun ip => (holds.reflects ip).lockoutRemaining le_rfl _, ?_, ?_⟩
      · intro other
        by_cases same : other = req
        · subst same
          simp [setAuth, setContext, lockoutRemaining]
        · simpa [setAuth, setContext, lockoutRemaining, same] using
            holds.seen other
      · intro other isAdmitted
        by_cases same : other = req
        · subst same
          have isFree : (before.context.rateLimiter.lockoutRemaining
              (env.address other) before.now).1 = none := free
          rw [isFree] at answer
          simpa [failuresSeen, setAuth, setContext, lockoutRemaining]
            using answer.symm
        · simp only [setAuth, setContext, lockoutRemaining,
            Function.update_of_ne same] at isAdmitted
          simpa [failuresSeen, setAuth, setContext, lockoutRemaining, same]
            using holds.admitted other isAdmitted

theorem lockoutInvariant_recordFailure {req : Req}
    (holds : before.LockoutInvariant env)
    (taken : serveStep env before
      (.recordFailure req : ServeStep Req Token Salt) = some after) :
    after.LockoutInvariant env := by
  have moved : AuthMove env before (.recordFailure req) after :=
    authMove_of_authStep taken
  cases moved with
  | recorded =>
      have longer (ip : IpAddr) : (before.failures ip).length ≤
          (Function.update before.failures (env.address req)
            (before.failures (env.address req) ++ [before.now]) ip).length := by
        by_cases same : ip = env.address req
        · subst same
          simp
        · simp [same]
      have unchanged (other : Req) :
          ((Function.update before.failures (env.address req)
            (before.failures (env.address req) ++ [before.now]))
              (env.address other)).take (before.seenFailures other) =
            before.failuresSeen env other := by
        by_cases same : env.address other = env.address req
        · have seen := holds.seen other
          rw [same] at seen
          simp [failuresSeen, same, List.take_append_of_le_length seen]
        · simp [failuresSeen, same]
      refine ⟨?_, ?_, ?_, ?_, ?_⟩
      · intro ip
        by_cases same : ip = env.address req
        · subst same
          simpa [setAuth, setContext, List.pairwise_append] using
            ⟨holds.ordered _, holds.past _⟩
        · simpa [setAuth, setContext, same] using holds.ordered ip
      · intro ip failure member
        by_cases same : ip = env.address req
        · subst same
          simp only [setAuth, setContext, Function.update_self, List.mem_append,
            List.mem_singleton] at member
          rcases member with old | new
          · exact holds.past _ failure old
          · exact new.le
        · simp only [setAuth, setContext, Function.update_of_ne same] at member
          exact holds.past ip failure member
      · intro ip
        by_cases same : ip = env.address req
        · subst same
          simpa [setAuth, setContext] using
            (holds.reflects _).recordFailure_self le_rfl
        · simpa [setAuth, setContext, same] using
            (holds.reflects ip).recordFailure_of_ne le_rfl (Ne.symm same)
      · exact fun other => (holds.seen other).trans (longer _)
      · intro other isAdmitted
        rw [failuresSeen]
        simp only [setAuth, setContext, unchanged]
        refine holds.admitted other (isAdmitted_of_setAuth ?_ other isAdmitted)
        simp [AuthStage.IsAdmitted]

theorem lockoutInvariant_of_serveStep {label : ServeStep Req Token Salt}
    (holds : before.LockoutInvariant env)
    (taken : serveStep env before label = some after) :
    after.LockoutInvariant env := by
  cases label with
  | elapse nanos =>
      cases taken
      exact lockoutInvariant_elapse holds nanos
  | checkLockout req => exact lockoutInvariant_checkLockout holds taken
  | recordFailure req => exact lockoutInvariant_recordFailure holds taken
  | _ =>
      exact (keepsLockouts_of_serveStep taken (by simp) (by simp)
        (by simp)).lockoutInvariant holds

theorem lockoutInvariant_of_reachable {accessCodeHash : Option Hash}
    {secureCookies : Bool} {configFile : Option Config} {now : Nat}
    {state : ServeState Req IpAddr Token Hash}
    (reached : Transition.Reachable (serveStep env)
      (start accessCodeHash secureCookies configFile now) state) :
    state.LockoutInvariant env := by
  refine reached.invariant ?_ fun _ _ _ => lockoutInvariant_of_serveStep
  exact ⟨fun _ => List.Pairwise.nil, by simp [start],
    fun _ => SlidingWindow.SameFrom.refl _ _ _, fun _ => Nat.zero_le _,
    by simp [start, AuthStage.IsAdmitted]⟩

/-- No locked-out address reaches the verifier in an execution exactly if no
request that calls it has been overtaken by failures of its address. -/
theorem verifierUnlocked_iff_notOvertaken (accessCodeHash : Option Hash)
    (secureCookies : Bool) (configFile : Option Config) (now : Nat)
    (execution : Transition.Execution
      (serveStep env : _ → ServeStep Req Token Salt → _)
      (start accessCodeHash secureCookies configFile now :
        ServeState Req IpAddr Token Hash)) :
    execution.StepsMeet (VerifierUnlocked env) ↔
      execution.StepsMeet (VerifierNotOvertaken env) := by
  apply execution.stepsMeet_congr
  intro before label after reached _
  have holds := lockoutInvariant_of_reachable reached
  cases label with
  | verifyCode req =>
      refine forall₄_congr fun hash code stage _ => ?_
      exact lockoutRemaining_eq_none_iff holds
        (by simp [stage, AuthStage.IsAdmitted])
  | _ => exact Iff.rfl

/-! ### Six guesses at once -/

/-- An access code kept in the clear; all requests come from one address. -/
def sharedAddressEnv : ServeEnv (Fin 6) Unit Unit String where
  hashAccessCode _ code := code
  verifyAccessCode code hash := hash == code
  address _ := ()
  waylandSession := false

/-- Every request passes the lockout check before any body arrives. -/
def guessesInFlight : List (ServeStep (Fin 6) Unit Unit) :=
  (List.finRange 6).flatMap (fun req => [.cloneHash req, .checkLockout req]) ++
    (List.finRange 5).flatMap (fun guess =>
      [.readCode guess.castSucc (some (some "guess")),
        .verifyCode guess.castSucc, .recordFailure guess.castSucc,
        .answerFailure guess.castSucc]) ++
    [.readCode 5 (some (some "guess"))]

/-- The sixth guess is verified although its address is locked out. -/
theorem guessesInFlight_reach_verifier :
    ∃ state, Transition.run (serveStep sharedAddressEnv)
        (start (some "secret") true none 0) guessesInFlight = some state ∧
      (serveStep sharedAddressEnv state (.verifyCode 5)).isSome ∧
        ¬ state.VerifierUnlocked sharedAddressEnv
          (.verifyCode 5 : ServeStep (Fin 6) Unit Unit) := by
  have observed : (Transition.run (serveStep sharedAddressEnv)
      (start (some "secret") true none 0) guessesInFlight).any
        (fun state =>
          (serveStep sharedAddressEnv state (.verifyCode 5)).isSome &&
          (match state.auth 5 with
            | .submitted _ (some code) => code == "guess"
            | .submitted _ none | .arriving | .checking _ | .awaitingBody _
            | .verified _ | .rejected | .recorded | .done _ => false) &&
          (state.context.rateLimiter.lockoutRemaining () state.now).1.isSome) =
            true := by
    decide
  obtain ⟨state, reached, facts⟩ := (Option.any_eq_true _ _).mp observed
  simp only [Bool.and_eq_true] at facts
  obtain ⟨⟨enabled, isSubmitted⟩, isLocked⟩ := facts
  refine ⟨state, reached, enabled, fun unlocked => ?_⟩
  split at isSubmitted
  · rename_i hash code stage
    have guessed : code = "guess" := by simpa using isSubmitted
    have isFree := unlocked hash code stage (by simp [guessed])
    change (state.context.rateLimiter.lockoutRemaining () state.now).1 = none
      at isFree
    simp [isFree] at isLocked
  all_goals cases isSubmitted

end Rylus
