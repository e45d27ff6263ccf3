import Rylus.SlidingWindow

/-!
# The rate limiter of `POST /auth`

`RateLimiter` keeps, per address, the instants of failed attempts that were
recent when somebody last looked.  `lockout_remaining` and `record_failure`
both prune under the lock and read the clock there, so a call is one atomic
step at one instant.  Pruning is not observable: every answer is a function
of the failures recorded so far.
-/

namespace Rylus

/-- `Duration::from_secs`.  An `Instant` is the number of nanoseconds on the
monotonic clock and a `Duration` a number of nanoseconds. -/
def fromSecs (secs : Nat) : Nat := secs * 10 ^ 9

/-- `Duration::as_secs`: whole seconds, rounded down. -/
def asSecs (duration : Nat) : Nat := duration / 10 ^ 9

/-- Failed attempts per address before it is locked out. -/
def maxFailedAttempts : Nat := 5

/-- Failed attempts older than this are forgotten. -/
def rateLimitWindow : Nat := fromSecs 60

/-- Lockout after exceeding `maxFailedAttempts`. -/
def lockoutDuration : Nat := fromSecs 30

/-- Failed attempts per address; an address without an entry has none. -/
structure RateLimiter (IpAddr : Type*) where
  attempts : IpAddr → List Nat

namespace RateLimiter

variable {IpAddr : Type*}

def new : RateLimiter IpAddr := ⟨fun _ => []⟩

/-- `timestamps.retain(|t| now.duration_since(*t) < RATE_LIMIT_WINDOW)`;
`duration_since` saturates at zero, as subtraction of naturals does. -/
def retainRecent (now : Nat) (timestamps : List Nat) :
    List Nat :=
  timestamps.filter fun t => now - t < rateLimitWindow

/-- The answer computed from the retained timestamps: the seconds left, at
least one.  The source compares `len() as u32`, which is the length for any
list that fits the memory a minute of requests can fill. -/
def secondsRemaining (now : Nat) (timestamps : List Nat) :
    Option Nat :=
  if maxFailedAttempts ≤ timestamps.length then
    match timestamps.getLast? with
    | some last =>
        let since := now - last
        if since < lockoutDuration then
          some (max (asSecs (lockoutDuration - since)) 1)
        else
          none
    | none => none
  else
    none

variable [DecidableEq IpAddr]

/-- The answer together with the limiter the query leaves behind. -/
def lockoutRemaining (limiter : RateLimiter IpAddr) (ip : IpAddr)
    (now : Nat) : Option Nat × RateLimiter IpAddr :=
  let timestamps := retainRecent now (limiter.attempts ip)
  (secondsRemaining now timestamps,
    ⟨Function.update limiter.attempts ip timestamps⟩)

def recordFailure (limiter : RateLimiter IpAddr) (ip : IpAddr)
    (now : Nat) : RateLimiter IpAddr :=
  ⟨Function.update limiter.attempts ip
    (retainRecent now (limiter.attempts ip) ++ [now])⟩

end RateLimiter

/-! ### What a limiter answers -/

/-- When a failure leaves the window. -/
def windowEnd (failure : Nat) : Nat := failure + rateLimitWindow

/-- Failures recorded and still inside the window at `now`. -/
def recentFailures (now : Nat) (failures : List Nat) :
    List Nat :=
  SlidingWindow.live windowEnd now failures

namespace RateLimiter

theorem retainRecent_eq (now : Nat) (timestamps : List Nat) :
    retainRecent now timestamps = recentFailures now timestamps := by
  have positive : 0 < rateLimitWindow := by decide
  apply List.filter_congr
  intro failure _
  rw [decide_eq_decide, windowEnd]
  omega

/-- The address is locked out exactly while enough failures are recent and
the last of them is younger than the lockout. -/
theorem isSome_secondsRemaining_iff (now : Nat)
    (timestamps : List Nat) :
    (secondsRemaining now timestamps).isSome ↔
      maxFailedAttempts ≤ timestamps.length ∧
        ∃ last, timestamps.getLast? = some last ∧
          now - last < lockoutDuration := by
  unfold secondsRemaining
  by_cases enough : maxFailedAttempts ≤ timestamps.length
  · cases newest : timestamps.getLast? with
    | none => simp [enough]
    | some last =>
        by_cases young : now - last < lockoutDuration
        · simp [enough, young]
        · simp [enough, young]
  · simp [enough]

/-- The lockout answer as a function of all failures ever recorded. -/
def lockoutOf (now : Nat) (failures : List Nat) : Option Nat :=
  secondsRemaining now (recentFailures now failures)

/-- No recorded failure is later than the last one. -/
theorem le_last {last failure : Nat} {failures : List Nat}
    (ordered : failures.Pairwise (· ≤ ·))
    (newest : failures.getLast? = some last)
    (member : failure ∈ failures) : failure ≤ last := by
  obtain ⟨older, rfl⟩ := List.getLast?_eq_some_iff.mp newest
  rcases List.mem_append.mp member with old | new
  · exact (List.pairwise_append.mp ordered).2.2 failure old last (by simp)
  · exact (List.mem_singleton.mp new).le

/-- With its last failure at `last`, an address is locked out at `now`
exactly if enough failures are recent and `last` is younger than the
lockout. -/
theorem isSome_lockoutOf_iff (now : Nat) {last : Nat} {failures : List Nat}
    (ordered : failures.Pairwise (· ≤ ·))
    (newest : failures.getLast? = some last) :
    (lockoutOf now failures).isSome ↔
      maxFailedAttempts ≤ (recentFailures now failures).length ∧
        now - last < lockoutDuration := by
  have shorter : lockoutDuration < rateLimitWindow := by decide
  rw [lockoutOf, isSome_secondsRemaining_iff]
  constructor
  · rintro ⟨enough, newestRecent, isNewest, young⟩
    have recent : newestRecent ∈ recentFailures now failures :=
      List.mem_of_getLast? isNewest
    have order : newestRecent ≤ last :=
      le_last ordered newest (SlidingWindow.mem_live.mp recent).1
    exact ⟨enough, by omega⟩
  · rintro ⟨enough, young⟩
    have fresh : now < windowEnd last := by
      simp only [windowEnd]
      omega
    exact ⟨enough, last, SlidingWindow.getLast?_live newest fresh, young⟩

@[simp]
theorem lockoutOf_nil (now : Nat) : lockoutOf now [] = none :=
  rfl

/-- Without a new failure a lockout can only end. -/
theorem lockoutOf_eq_none_of_le {earlier later : Nat}
    {failures : List Nat} (ordered : failures.Pairwise (· ≤ ·))
    (order : earlier ≤ later) (admitted : lockoutOf earlier failures = none) :
    lockoutOf later failures = none := by
  cases newest : failures.getLast? with
  | none =>
      rw [List.getLast?_eq_none_iff] at newest
      simp [newest]
  | some last =>
      rw [← Option.not_isSome_iff_eq_none] at admitted ⊢
      rw [isSome_lockoutOf_iff _ ordered newest] at admitted ⊢
      have fewer : (recentFailures later failures).length ≤
          (recentFailures earlier failures).length :=
        SlidingWindow.length_live_le windowEnd order failures
      omega

/-! ### Sequences of calls -/

end RateLimiter

/-- One call on the limiter, with the instant it reads under the lock. -/
inductive LimiterCall (IpAddr : Type*) where
  | lockoutRemaining (ip : IpAddr) (now : Nat)
  | recordFailure (ip : IpAddr) (now : Nat)

namespace LimiterCall

variable {IpAddr : Type*}

def now : LimiterCall IpAddr → Nat
  | .lockoutRemaining _ now => now
  | .recordFailure _ now => now

/-- Calls that take the lock at nondecreasing instants. -/
abbrev InOrder (calls : List (LimiterCall IpAddr)) : Prop :=
  calls.Pairwise fun first second => first.now ≤ second.now

variable [DecidableEq IpAddr]

/-- The failure of `ip` that a call records, if any. -/
def failureOf (ip : IpAddr) : LimiterCall IpAddr → Option Nat
  | .lockoutRemaining _ _ => none
  | .recordFailure other now => if other = ip then some now else none

theorem now_of_failureOf {ip : IpAddr} {call : LimiterCall IpAddr}
    {failure : Nat} (records : call.failureOf ip = some failure) :
    call.now = failure := by
  cases call with
  | lockoutRemaining asked now => simp [failureOf] at records
  | recordFailure failed now =>
      by_cases same : failed = ip
      · simpa [failureOf, same, LimiterCall.now] using records
      · simp [failureOf, same] at records

end LimiterCall

/-- All failures of `ip` recorded by a sequence of calls, oldest first. -/
def failuresOf {IpAddr : Type*} [DecidableEq IpAddr] (ip : IpAddr)
    (calls : List (LimiterCall IpAddr)) : List Nat :=
  calls.filterMap (LimiterCall.failureOf ip)

section FailuresOf

variable {IpAddr : Type*} [DecidableEq IpAddr]

@[simp]
theorem failuresOf_append (ip : IpAddr)
    (first second : List (LimiterCall IpAddr)) :
    failuresOf ip (first ++ second) =
      failuresOf ip first ++ failuresOf ip second :=
  List.filterMap_append

@[simp]
theorem failuresOf_lockoutRemaining (ip asked : IpAddr) (now : Nat) :
    failuresOf ip [.lockoutRemaining asked now] = [] :=
  rfl

@[simp]
theorem failuresOf_recordFailure_self (ip : IpAddr) (now : Nat) :
    failuresOf ip [.recordFailure ip now] = [now] := by
  simp [failuresOf, LimiterCall.failureOf]

theorem failuresOf_recordFailure_of_ne {ip failed : IpAddr}
    (other : failed ≠ ip) (now : Nat) :
    failuresOf ip [.recordFailure failed now] = [] := by
  simp [failuresOf, LimiterCall.failureOf, other]

end FailuresOf

namespace RateLimiter

variable {IpAddr : Type*} [DecidableEq IpAddr]

/-- The limiter one call leaves behind. -/
def call (limiter : RateLimiter IpAddr) :
    LimiterCall IpAddr → RateLimiter IpAddr
  | .lockoutRemaining ip now => (limiter.lockoutRemaining ip now).2
  | .recordFailure ip now => limiter.recordFailure ip now

/-- The limiter after a sequence of calls on a new one. -/
def after (calls : List (LimiterCall IpAddr)) : RateLimiter IpAddr :=
  calls.foldl call new

/-- From `now` on, `limiter` answers for `ip` as the full list of failures
does. -/
def Reflects (limiter : RateLimiter IpAddr) (ip : IpAddr) (now : Nat)
    (failures : List Nat) : Prop :=
  SlidingWindow.SameFrom windowEnd now (limiter.attempts ip) failures

/-- The answer of a limiter is the answer of the failures it reflects. -/
theorem lockoutRemaining_eq {limiter : RateLimiter IpAddr} {ip : IpAddr}
    {since now : Nat} {failures : List Nat}
    (reflects : limiter.Reflects ip since failures) (order : since ≤ now) :
    (limiter.lockoutRemaining ip now).1 = lockoutOf now failures := by
  simp only [lockoutRemaining, retainRecent_eq, lockoutOf]
  exact congrArg (secondsRemaining now) (reflects now order)

theorem Reflects.lockoutRemaining {limiter : RateLimiter IpAddr}
    {ip : IpAddr} {since now : Nat} {failures : List Nat}
    (reflects : limiter.Reflects ip since failures) (order : since ≤ now)
    (asked : IpAddr) :
    (limiter.lockoutRemaining asked now).2.Reflects ip now failures := by
  by_cases same : ip = asked
  · subst same
    simpa [Reflects, RateLimiter.lockoutRemaining, retainRecent_eq,
      recentFailures] using reflects.prune order
  · simpa [Reflects, RateLimiter.lockoutRemaining, same] using
      reflects.mono order

theorem Reflects.recordFailure_self {limiter : RateLimiter IpAddr}
    {ip : IpAddr} {since now : Nat} {failures : List Nat}
    (reflects : limiter.Reflects ip since failures) (order : since ≤ now) :
    (limiter.recordFailure ip now).Reflects ip now (failures ++ [now]) := by
  simpa [Reflects, recordFailure, retainRecent_eq, recentFailures] using
    (reflects.prune order).append now

theorem Reflects.recordFailure_of_ne {limiter : RateLimiter IpAddr}
    {ip failed : IpAddr} {since now : Nat} {failures : List Nat}
    (reflects : limiter.Reflects ip since failures) (order : since ≤ now)
    (other : failed ≠ ip) :
    (limiter.recordFailure failed now).Reflects ip now failures := by
  simpa [Reflects, recordFailure, other.symm] using reflects.mono order

/-- One call keeps the limiter in agreement with the failures recorded. -/
theorem Reflects.call {limiter : RateLimiter IpAddr} {ip : IpAddr}
    {since : Nat} {failures : List Nat}
    (reflects : limiter.Reflects ip since failures)
    (next : LimiterCall IpAddr) (order : since ≤ next.now) :
    (limiter.call next).Reflects ip next.now
      (failures ++ failuresOf ip [next]) := by
  cases next with
  | lockoutRemaining asked now =>
      rw [failuresOf_lockoutRemaining, List.append_nil]
      exact Reflects.lockoutRemaining reflects order asked
  | recordFailure failed now =>
      by_cases same : failed = ip
      · subst same
        rw [failuresOf_recordFailure_self]
        exact reflects.recordFailure_self order
      · rw [failuresOf_recordFailure_of_ne same, List.append_nil]
        exact reflects.recordFailure_of_ne order same

/-- Any calls at nondecreasing times leave a limiter that reflects the
failures they recorded. -/
theorem reflects_foldl_call {limiter : RateLimiter IpAddr} {ip : IpAddr}
    {since : Nat} {failures : List Nat}
    (reflects : limiter.Reflects ip since failures)
    (calls : List (LimiterCall IpAddr)) (finish : Nat)
    (ordered : LimiterCall.InOrder calls)
    (within : ∀ next ∈ calls, since ≤ next.now ∧ next.now ≤ finish)
    (order : since ≤ finish) :
    (calls.foldl call limiter).Reflects ip finish
      (failures ++ failuresOf ip calls) := by
  induction calls generalizing limiter since failures with
  | nil =>
      have kept : limiter.Reflects ip finish failures := reflects.mono order
      simpa [failuresOf] using kept
  | cons next calls ih =>
      obtain ⟨after, ordered⟩ := List.pairwise_cons.mp ordered
      obtain ⟨afterSince, beforeEnd⟩ := within next (by simp)
      have rest := ih (reflects.call next afterSince) ordered
        (fun later member => ⟨after later member,
          (within later (by simp [member])).2⟩) beforeEnd
      have split : failuresOf ip (next :: calls) =
          failuresOf ip [next] ++ failuresOf ip calls :=
        failuresOf_append ip [next] calls
      rw [split, ← List.append_assoc]
      exact rest

end RateLimiter

end Rylus
