import Rylus.ServeLockout

/-!
# How many guesses an address gets

Requests of one address that are handled one after another: the lockout check
of each has seen every failure before it.  The failures recorded for the
address are then spaced by the lockout as soon as enough of them are recent,
and that bounds how many fall into any interval of the window's length.
Requests of other addresses, settings updates and logins interleave freely.
-/

namespace Rylus

open SlidingWindow

variable {Req IpAddr Token Salt Hash : Type*}

namespace AuthStage

/-- The request has been started and not been answered. -/
def IsUnderway : AuthStage Token Hash → Prop
  | .arriving | .done _ => False
  | _ => True

/-- The request has passed its check and may still record a failure. -/
def MayFail : AuthStage Token Hash → Prop
  | .awaitingBody _ | .submitted _ _ | .rejected => True
  | _ => False

theorem MayFail.isUnderway {stage : AuthStage Token Hash}
    (mayFail : stage.MayFail) : stage.IsUnderway := by
  cases stage <;> trivial

end AuthStage

namespace ServeState

/-- A request of `ip` starts only when no request of `ip` is underway. -/
def HandledInTurn (env : ServeEnv Req IpAddr Salt Hash) (ip : IpAddr)
    (state : ServeState Req IpAddr Token Hash) :
    ServeStep Req Token Salt → Prop
  | .cloneHash req => env.address req = ip →
      ∀ other, env.address other = ip → ¬ (state.auth other).IsUnderway
  | _ => True

/-- The failures of `ip` in the half-open window that begins at `start`. -/
def failuresWithin (state : ServeState Req IpAddr Token Hash) (ip : IpAddr)
    (start : Nat) : List Nat :=
  within start rateLimitWindow (state.failures ip)

/-- What is true of an address whose requests are handled in turn. -/
structure InTurn (env : ServeEnv Req IpAddr Salt Hash) (ip : IpAddr)
    (state : ServeState Req IpAddr Token Hash) : Prop where
  lockouts : state.LockoutInvariant env
  alone : ∀ one other, env.address one = ip → env.address other = ip →
    (state.auth one).IsUnderway → (state.auth other).IsUnderway → one = other
  free : ∀ req, env.address req = ip → (state.auth req).MayFail →
    RateLimiter.lockoutOf state.now (state.failures ip) = none
  spaced : Spaced maxFailedAttempts rateLimitWindow lockoutDuration
    (state.failures ip)

end ServeState

open ServeState

private theorem keepsGap_of_lockoutOf {now : Nat} {failures : List Nat}
    (ordered : failures.Pairwise (· ≤ ·))
    (free : RateLimiter.lockoutOf now failures = none) :
    KeepsGap maxFailedAttempts rateLimitWindow lockoutDuration now
      failures := by
  intro enough last newest
  rw [← Option.not_isSome_iff_eq_none,
    RateLimiter.isSome_lockoutOf_iff now ordered newest] at free
  have positive : 0 < lockoutDuration := by decide
  by_contra early
  exact free ⟨enough, by omega⟩

variable {env : ServeEnv Req IpAddr Salt Hash} {ip : IpAddr}
variable {before after : ServeState Req IpAddr Token Hash}

theorem ServeState.InTurn.of_update [DecidableEq Req]
    (holds : before.InTurn env ip) (lockouts : after.LockoutInvariant env)
    {req : Req} {stage : AuthStage Token Hash}
    (now : after.now = before.now)
    (failures : after.failures ip = before.failures ip)
    (auth : after.auth = Function.update before.auth req stage)
    (starts : stage.IsUnderway → env.address req = ip →
      (before.auth req).IsUnderway ∨
        ∀ other, env.address other = ip → ¬ (before.auth other).IsUnderway)
    (fails : stage.MayFail → env.address req = ip →
      RateLimiter.lockoutOf before.now (before.failures ip) = none) :
    after.InTurn env ip where
  lockouts := lockouts
  alone := by
    -- a request underway beside `req` was underway before
    have excludes : ∀ other, env.address other = ip → other ≠ req →
        (before.auth other).IsUnderway → env.address req = ip →
          ¬ stage.IsUnderway := by
      intro other otherAddress different otherUnderway reqAddress underway
      rcases starts underway reqAddress with wasUnderway | idle
      · exact different (holds.alone other req otherAddress reqAddress
          otherUnderway wasUnderway)
      · exact idle other otherAddress otherUnderway
    intro one other oneAddress otherAddress oneUnderway otherUnderway
    rw [auth] at oneUnderway otherUnderway
    by_cases oneSame : one = req
    · subst oneSame
      rw [Function.update_self] at oneUnderway
      by_contra different
      rw [Function.update_of_ne (Ne.symm different)] at otherUnderway
      exact excludes other otherAddress (Ne.symm different) otherUnderway
        oneAddress oneUnderway
    · rw [Function.update_of_ne oneSame] at oneUnderway
      by_cases otherSame : other = req
      · subst otherSame
        rw [Function.update_self] at otherUnderway
        exact absurd otherUnderway
          (excludes one oneAddress oneSame oneUnderway otherAddress)
      · rw [Function.update_of_ne otherSame] at otherUnderway
        exact holds.alone one other oneAddress otherAddress oneUnderway
          otherUnderway
  free := by
    intro other otherAddress mayFail
    rw [now, failures]
    rw [auth] at mayFail
    by_cases same : other = req
    · subst same
      rw [Function.update_self] at mayFail
      exact fails mayFail otherAddress
    · rw [Function.update_of_ne same] at mayFail
      exact holds.free other otherAddress mayFail
  spaced := by
    rw [failures]
    exact holds.spaced

variable [DecidableEq Req] [DecidableEq IpAddr] [DecidableEq Token]

/-- A recorded failure keeps the gap, since its request is the only one of its
address that is underway. -/
theorem ServeState.InTurn.recordFailure {req : Req}
    (holds : before.InTurn env ip)
    (taken : serveStep env before
      (.recordFailure req : ServeStep Req Token Salt) = some after) :
    after.InTurn env ip := by
  have lockouts := lockoutInvariant_of_serveStep holds.lockouts taken
  have moved : AuthMove env before (.recordFailure req) after :=
    authMove_of_authStep taken
  cases moved with
  | recorded _ rejected =>
      by_cases address : env.address req = ip
      · subst address
        refine ⟨lockouts, ?_, ?_, ?_⟩
        · intro one other oneAddress otherAddress oneUnderway otherUnderway
          have wasUnderway : ∀ request,
              (Function.update before.auth req .recorded request).IsUnderway →
                (before.auth request).IsUnderway := by
            intro request underway
            by_cases same : request = req
            · subst same
              rw [rejected]
              trivial
            · rwa [Function.update_of_ne same] at underway
          exact holds.alone one other oneAddress otherAddress
            (wasUnderway one oneUnderway) (wasUnderway other otherUnderway)
        · -- no other request of the address is past its check
          intro other otherAddress mayFail
          exfalso
          simp only [setAuth, setContext] at mayFail
          by_cases same : other = req
          · subst same
            rw [Function.update_self] at mayFail
            exact mayFail
          · rw [Function.update_of_ne same] at mayFail
            have underway : (before.auth req).IsUnderway := by
              rw [rejected]
              trivial
            exact same (holds.alone other req otherAddress rfl
              mayFail.isUnderway underway)
        · have free := holds.free req rfl (by rw [rejected]; trivial)
          simp only [setAuth, setContext, Function.update_self]
          exact holds.spaced.append (holds.lockouts.past _)
            (keepsGap_of_lockoutOf (holds.lockouts.ordered _) free)
      · refine @InTurn.of_update _ _ _ _ _ _ _ _ _ _ holds lockouts req
          .recorded rfl ?_ rfl ?_ ?_
        · simp only [setAuth, setContext]
          exact Function.update_of_ne (Ne.symm address) _ _
        · exact fun _ same => absurd same address
        · exact fun _ same => absurd same address

theorem ServeState.InTurn.kept {label : ServeStep Req Token Salt}
    (holds : before.InTurn env ip) (inTurn : before.HandledInTurn env ip label)
    (taken : serveStep env before label = some after) :
    after.InTurn env ip := by
  have lockouts := lockoutInvariant_of_serveStep holds.lockouts taken
  rcases serveStep_cases taken with ⟨nanos, rfl, rfl⟩ | moved | moved
  · refine ⟨lockouts, holds.alone, ?_, holds.spaced⟩
    intro req address mayFail
    exact RateLimiter.lockoutOf_eq_none_of_le (holds.lockouts.ordered ip)
      (Nat.le_add_right _ _) (holds.free req address mayFail)
  · cases moved with
    | cloned req hash arriving live =>
        exact holds.of_update lockouts rfl rfl rfl
          (fun _ address => .inr (inTurn address)) False.elim
    | admitted req hash checking free =>
        refine holds.of_update lockouts rfl rfl rfl ?_ ?_
        · intro _ _
          rw [checking]
          exact .inl trivial
        · intro _ address
          subst address
          rw [← RateLimiter.lockoutRemaining_eq
            (holds.lockouts.reflects _) le_rfl]
          exact free
    | submitted req hash code awaiting =>
        refine holds.of_update lockouts rfl rfl rfl ?_ ?_
        · intro _ _
          rw [awaiting]
          exact .inl trivial
        · intro _ address
          exact holds.free req address (by rw [awaiting]; trivial)
    | rejected req hash code submitted rejects =>
        refine holds.of_update lockouts rfl rfl rfl ?_ ?_
        · intro _ _
          rw [submitted]
          exact .inl trivial
        · intro _ address
          exact holds.free req address (by rw [submitted]; trivial)
    | verified req hash code submitted accepts =>
        refine holds.of_update lockouts rfl rfl rfl ?_ False.elim
        intro _ _
        rw [submitted]
        exact .inl trivial
    | recorded req rejected => exact holds.recordFailure taken
    | _ => exact holds.of_update lockouts rfl rfl rfl False.elim False.elim
  · cases moved with
    | _ => exact ⟨lockouts, holds.alone, holds.free, holds.spaced⟩

/-- A lockout check admits its request exactly if the failures of the
request's own address, at this time, are no lockout. -/
theorem awaitsBody_iff {req : Req} (holds : before.LockoutInvariant env)
    (taken : serveStep env before
      (.checkLockout req : ServeStep Req Token Salt) = some after) :
    (∃ hash, after.auth req = .awaitingBody hash) ↔
      RateLimiter.lockoutOf before.now
        (before.failures (env.address req)) = none := by
  have answer := RateLimiter.lockoutRemaining_eq
    (holds.reflects (env.address req)) le_rfl
  rw [← answer]
  have moved : AuthMove env before (.checkLockout req) after :=
    authMove_of_authStep taken
  cases moved with
  | lockedOut _ hash retry checking locked =>
      constructor
      · rintro ⟨hash, awaiting⟩
        simp [setAuth] at awaiting
      · intro free
        exact absurd (free.symm.trans locked) (by simp)
  | admitted _ hash checking free =>
      exact ⟨fun _ => free, fun _ => ⟨hash, by simp [setAuth]⟩⟩

/-- When the requests of one address are handled one after another, at most
one failure more than the limit is recorded for it in any window, and a
request of it is admitted by the failures of this address only. -/
theorem failures_bounded_along (env : ServeEnv Req IpAddr Salt Hash)
    (ip : IpAddr) (accessCodeHash : Option Hash) (secureCookies : Bool)
    (configFile : Option Config) (now : Nat)
    (execution : Transition.Execution
      (serveStep env : _ → ServeStep Req Token Salt → _)
      (start accessCodeHash secureCookies configFile now :
        ServeState Req IpAddr Token Hash))
    (inTurn : execution.StepsMeet (HandledInTurn env ip)) :
    execution.Along fun state =>
      (∀ start, (state.failuresWithin ip start).length ≤
        maxFailedAttempts + 1) ∧
      ∀ req after, env.address req = ip →
        serveStep env state
          (.checkLockout req : ServeStep Req Token Salt) = some after →
        ((∃ hash, after.auth req = .awaitingBody hash) ↔
          RateLimiter.lockoutOf state.now (state.failures ip) = none) := by
  have initially : (start accessCodeHash secureCookies configFile now :
      ServeState Req IpAddr Token Hash).InTurn env ip :=
    ⟨lockoutInvariant_of_reachable (Transition.Reachable.refl
        (serveStep env : _ → ServeStep Req Token Salt → _) _),
      fun _ _ _ _ underway => underway.elim, fun _ _ mayFail => mayFail.elim,
      .nil⟩
  have along : execution.Along (InTurn env ip) :=
    execution.along_of_stepsMeet initially
      (fun _ _ _ _ holds guarded taken => holds.kept guarded taken) inTurn
  intro taken rest state split runs
  have holds := along taken rest state split runs
  refine ⟨fun start => ?_, fun req after address checks => ?_⟩
  · have twoGaps : rateLimitWindow ≤ 2 • lockoutDuration := by decide
    exact Nat.lt_succ_iff.mp
      (holds.spaced.length_within_lt (by decide) twoGaps start)
  · subst address
    exact awaitsBody_iff holds.lockouts checks

/-- An access code kept in the clear; six requests come from one address. -/
def oneAddressEnv : ServeEnv (Fin 6) Unit Unit String where
  hashAccessCode _ code := code
  verifyAccessCode code hash := hash == code
  address _ := ()
  waylandSession := false

instance {Token Hash : Type*} (stage : AuthStage Token Hash) :
    Decidable stage.IsUnderway := by
  cases stage <;> unfold AuthStage.IsUnderway <;> infer_instance

instance (state : ServeState (Fin 6) Unit Unit String)
    (label : ServeStep (Fin 6) Unit Unit) :
    Decidable (state.HandledInTurn oneAddressEnv () label) := by
  cases label <;> unfold HandledInTurn <;> infer_instance

/-- A request without a code fails. -/
def guess (req : Fin 6) : List (ServeStep (Fin 6) Unit Unit) :=
  [.cloneHash req, .checkLockout req, .readCode req (some none),
    .verifyCode req, .recordFailure req, .answerFailure req]

/-- Five requests fail one after the other, and the sixth is locked out. -/
def guessesInTurn : List (ServeStep (Fin 6) Unit Unit) :=
  (List.ofFn fun req : Fin 5 => guess req.castSucc).flatten ++
    [.cloneHash (Fin.last 5), .checkLockout (Fin.last 5)]

theorem failures_bounded_along_guessesInTurn :
    ∃ execution : Transition.Execution
        (serveStep oneAddressEnv : _ → ServeStep (Fin 6) Unit Unit → _)
        (start (some "secret") true none 0),
      execution.labels = guessesInTurn ∧
      execution.final.auth (Fin.last 5) = .done (.rateLimited 30) ∧
      execution.Along fun state =>
        (∀ start, (state.failuresWithin () start).length ≤
          maxFailedAttempts + 1) ∧
        ∀ req after, oneAddressEnv.address req = () →
          serveStep oneAddressEnv state
            (.checkLockout req : ServeStep (Fin 6) Unit Unit) = some after →
          ((∃ hash, after.auth req = .awaitingBody hash) ↔
            RateLimiter.lockoutOf state.now (state.failures ()) = none) := by
  have runs : (Transition.run
      (serveStep oneAddressEnv : _ → ServeStep (Fin 6) Unit Unit → _)
      (start (some "secret") true none 0) guessesInTurn).any (fun final =>
        match final.auth (Fin.last 5) with
        | .done (.rateLimited 30) => true
        | _ => false) = true := by
    decide +kernel
  obtain ⟨final, reached, lockedOut⟩ := (Option.any_eq_true _ _).mp runs
  refine ⟨⟨_, final, reached⟩, rfl, ?_, ?_⟩
  · dsimp only at lockedOut ⊢
    split at lockedOut
    · assumption
    · cases lockedOut
  apply failures_bounded_along oneAddressEnv () (some "secret") true none 0
  apply Transition.Execution.stepsMeet_of_meetsFrom
  change Transition.MeetsFrom _ _ _ guessesInTurn
  decide +kernel

end Rylus
