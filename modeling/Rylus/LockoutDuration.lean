import Rylus.RateLimiter

/-!
# How long a lockout lasts

Two windows interact in `lockout_remaining`: failures are retained for
`rateLimitWindow`, and the lockout runs for `lockoutDuration` from the last
failure.  The lockout ends early when retained failures expire first.  This
file determines exactly which failure histories keep an address locked out
for the whole `lockoutDuration`.
-/

namespace Rylus

/-- Calls on a new limiter at nondecreasing times, the last of which records
a failure of `ip`. -/
structure FailureHistory (IpAddr : Type*) where
  ip : IpAddr
  before : List (LimiterCall IpAddr)
  last : Nat
  ordered : LimiterCall.InOrder
    (before ++ [LimiterCall.recordFailure ip last])

namespace FailureHistory

variable {IpAddr : Type*}

def calls (history : FailureHistory IpAddr) : List (LimiterCall IpAddr) :=
  history.before ++ [LimiterCall.recordFailure history.ip history.last]

/-- No call of the history comes after its last failure. -/
theorem now_le_last (history : FailureHistory IpAddr)
    {call : LimiterCall IpAddr} (member : call ∈ history.calls) :
    call.now ≤ history.last := by
  rcases List.mem_append.mp member with old | new
  · exact (List.pairwise_append.mp history.ordered).2.2 call old
      (.recordFailure history.ip history.last) (by simp)
  · cases List.mem_singleton.mp new
    exact le_rfl

variable [DecidableEq IpAddr]

/-- The failures of the locked-out address, oldest first. -/
def failures (history : FailureHistory IpAddr) : List Nat :=
  failuresOf history.ip history.calls

/-- A lockout answered at `asked` is answered at every later `askedAgain`
before the lockout duration is over, whatever calls other than a failure of
the same address come in between. -/
def LockoutLasts (history : FailureHistory IpAddr) : Prop :=
  ∀ (asked askedAgain : Nat) (between : List (LimiterCall IpAddr)),
    history.last ≤ asked →
    askedAgain < history.last + lockoutDuration →
    LimiterCall.InOrder
      (LimiterCall.lockoutRemaining history.ip asked :: between ++
        [LimiterCall.lockoutRemaining history.ip askedAgain]) →
    failuresOf history.ip between = [] →
    ((RateLimiter.after history.calls).lockoutRemaining
      history.ip asked).1.isSome →
    ((RateLimiter.after (history.calls ++
        .lockoutRemaining history.ip asked :: between)).lockoutRemaining
      history.ip askedAgain).1.isSome

/-- The failures that are still retained at the end of the lockout. -/
def lastingFailures (history : FailureHistory IpAddr) : List Nat :=
  history.failures.filter fun failure =>
    history.last - failure ≤ rateLimitWindow - lockoutDuration

/-- Either the last failure does not lock the address out, or enough failures
are retained until the lockout is over. -/
def TripsForGood (history : FailureHistory IpAddr) : Prop :=
  (recentFailures history.last history.failures).length <
      maxFailedAttempts ∨
    maxFailedAttempts ≤ history.lastingFailures.length

theorem getLast?_failures (history : FailureHistory IpAddr) :
    history.failures.getLast? = some history.last := by
  simp [failures, calls]

/-- Calls at nondecreasing times record failures in order. -/
theorem pairwise_failuresOf (ip : IpAddr)
    {calls : List (LimiterCall IpAddr)}
    (ordered : LimiterCall.InOrder calls) :
    (failuresOf ip calls).Pairwise (· ≤ ·) := by
  refine List.Pairwise.filterMap _ ?_ ordered
  intro first second order firstAt firstFails secondAt secondFails
  have firstNow := LimiterCall.now_of_failureOf firstFails
  have secondNow := LimiterCall.now_of_failureOf secondFails
  omega

theorem failures_ordered (history : FailureHistory IpAddr) :
    history.failures.Pairwise (· ≤ ·) :=
  pairwise_failuresOf history.ip history.ordered

/-- Whatever is asked in between, the answer comes from the failures alone. -/
theorem lockoutRemaining_after (history : FailureHistory IpAddr)
    (asked : Nat) (between : List (LimiterCall IpAddr))
    (ordered : LimiterCall.InOrder between)
    (within : ∀ call ∈ between,
      history.last ≤ call.now ∧ call.now ≤ asked)
    (order : history.last ≤ asked)
    (noFailure : failuresOf history.ip between = []) :
    ((RateLimiter.after (history.calls ++ between)).lockoutRemaining
      history.ip asked).1 =
        RateLimiter.lockoutOf asked history.failures := by
  have fresh : (RateLimiter.new : RateLimiter IpAddr).Reflects
      history.ip 0 [] :=
    SlidingWindow.SameFrom.refl windowEnd 0 []
  have recorded := RateLimiter.reflects_foldl_call fresh history.calls
    history.last history.ordered
    (fun call member => ⟨Nat.zero_le _, history.now_le_last member⟩)
    (Nat.zero_le _)
  have queried := RateLimiter.reflects_foldl_call recorded between asked
    ordered within order
  rw [noFailure, List.append_nil, List.nil_append,
    ← List.foldl_append] at queried
  exact RateLimiter.lockoutRemaining_eq queried le_rfl

/-- What is recent one tick before the lockout is over is exactly what lasts. -/
theorem recentFailures_end (history : FailureHistory IpAddr) :
    recentFailures (history.last + lockoutDuration - 1) history.failures =
      history.lastingFailures := by
  have positive : 0 < lockoutDuration := by decide
  have shorter : lockoutDuration < rateLimitWindow := by decide
  apply List.filter_congr
  intro failure _
  rw [decide_eq_decide, windowEnd]
  omega

/-- The lockout lasts exactly if it trips for good: never locked out, or
locked out to the end. -/
private theorem lasts_iff_tripsForGood (history : FailureHistory IpAddr) :
    (∀ asked askedAgain, history.last ≤ asked → asked ≤ askedAgain →
      askedAgain < history.last + lockoutDuration →
      (RateLimiter.lockoutOf asked history.failures).isSome →
      (RateLimiter.lockoutOf askedAgain history.failures).isSome) ↔
        history.TripsForGood := by
  have positive : 0 < lockoutDuration := by decide
  have lockedOut (now : Nat) := RateLimiter.isSome_lockoutOf_iff now
    history.failures_ordered history.getLast?_failures
  constructor
  · intro lasts
    by_contra fails
    simp only [TripsForGood, not_or, not_lt, not_le] at fails
    obtain ⟨trips, tooFew⟩ := fails
    have atEnd := lasts history.last (history.last + lockoutDuration - 1)
      le_rfl (by omega) (by omega) ((lockedOut _).mpr ⟨trips, by omega⟩)
    rw [lockedOut, history.recentFailures_end] at atEnd
    omega
  · rintro tripsForGood asked askedAgain afterLast order inTime isLocked
    rw [lockedOut] at isLocked ⊢
    refine ⟨?_, by omega⟩
    have fewer : (recentFailures asked history.failures).length ≤
        (recentFailures history.last history.failures).length :=
      SlidingWindow.length_live_le windowEnd afterLast _
    have more : (recentFailures (history.last + lockoutDuration - 1)
          history.failures).length ≤
        (recentFailures askedAgain history.failures).length :=
      SlidingWindow.length_live_le windowEnd (by omega) _
    rw [history.recentFailures_end] at more
    rcases tripsForGood with untripped | lasting
    · omega
    · omega

/-- An address stays locked out for the whole lockout duration exactly if
its history trips the limiter for good. -/
theorem lockoutLasts_iff_tripsForGood (history : FailureHistory IpAddr) :
    history.LockoutLasts ↔ history.TripsForGood := by
  rw [← lasts_iff_tripsForGood]
  constructor
  · intro lasts asked askedAgain afterLast order inTime isLocked
    have first := history.lockoutRemaining_after asked []
      List.Pairwise.nil (by simp) afterLast rfl
    have again := history.lockoutRemaining_after askedAgain
      [.lockoutRemaining history.ip asked] (List.pairwise_singleton _ _)
      (by simpa [LimiterCall.now] using ⟨afterLast, order⟩)
      (afterLast.trans order) rfl
    rw [← again]
    refine lasts asked askedAgain [] afterLast inTime ?_ rfl ?_
    · simpa [LimiterCall.now] using order
    · rw [List.append_nil] at first
      rwa [first]
  · intro lasts asked askedAgain between afterLast inTime ordered
      noFailure isLocked
    have first := history.lockoutRemaining_after asked []
      List.Pairwise.nil (by simp) afterLast rfl
    obtain ⟨queriesOrdered, -, beforeEnd⟩ := List.pairwise_append.mp ordered
    have afterAsked := (List.pairwise_cons.mp queriesOrdered).1
    have beforeAgain : ∀ call ∈
        (.lockoutRemaining history.ip asked : LimiterCall IpAddr) :: between,
          call.now ≤ askedAgain := fun call member =>
      beforeEnd call member _ (List.mem_singleton_self _)
    have order : asked ≤ askedAgain :=
      beforeAgain (.lockoutRemaining history.ip asked) (by simp)
    have again := history.lockoutRemaining_after askedAgain
      (.lockoutRemaining history.ip asked :: between) queriesOrdered
      (fun call member => by
        refine ⟨?_, beforeAgain call member⟩
        rcases List.mem_cons.mp member with rfl | later
        · exact afterLast
        · exact afterLast.trans (afterAsked call later))
      (afterLast.trans order)
      (by simpa [failuresOf, LimiterCall.failureOf] using noFailure)
    rw [again]
    apply lasts asked askedAgain afterLast order inTime
    rw [List.append_nil] at first
    rwa [first] at isLocked

/-- One failure at second 0 and four at second 59. -/
def earlyRelease : FailureHistory Nat where
  ip := 0
  before := [.recordFailure 0 (fromSecs 0), .recordFailure 0 (fromSecs 59),
    .recordFailure 0 (fromSecs 59), .recordFailure 0 (fromSecs 59)]
  last := fromSecs 59
  ordered := by decide

/-- The address of `earlyRelease` is locked out at second 59 and free again
at second 60, when its first failure leaves the window. -/
theorem earlyRelease_not_lockoutLasts : ¬ earlyRelease.LockoutLasts := by
  intro lasts
  have again := lasts (fromSecs 59) (fromSecs 60) [] le_rfl (by decide)
    (by decide) rfl (by decide)
  revert again
  decide

end FailureHistory

end Rylus
