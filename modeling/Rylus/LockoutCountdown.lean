import Rylus.LockoutDuration

/-!
# Waiting out the countdown

The answer to a locked-out address is the rest of the lockout in whole
seconds, rounded down, and the login page enables its form again when that
many seconds are over.  This file determines exactly when the lockout is over
by then.
-/

namespace Rylus

/-- Calls on a new limiter at nondecreasing times, the last of which asks for
the lockout of `ip`. -/
structure LockoutQuery (IpAddr : Type*) where
  ip : IpAddr
  before : List (LimiterCall IpAddr)
  asked : Nat
  ordered : LimiterCall.InOrder
    (before ++ [LimiterCall.lockoutRemaining ip asked])

/-- The rest of a lockout that the seconds of the answer leave out. -/
def lostFraction (rest : Nat) : Nat :=
  rest % fromSecs 1

/-- The end of a lockout is not after the countdown that was answered at
`asked`, if the rest is short or whole. -/
theorem le_add_countdown {asked ends : Nat}
    (shortOrWhole : ends - asked < fromSecs 1 ∨
      lostFraction (ends - asked) = 0) :
    ends ≤ asked + fromSecs (max (asSecs (ends - asked)) 1) := by
  simp only [lostFraction, fromSecs, asSecs] at shortOrWhole ⊢
  omega

/-- The countdown of at least one second ends as much too early as the
answer leaves out. -/
theorem add_countdown {asked ends : Nat} (long : fromSecs 1 ≤ ends - asked) :
    asked + fromSecs (max (asSecs (ends - asked)) 1) =
      ends - lostFraction (ends - asked) := by
  simp only [lostFraction, fromSecs, asSecs] at long ⊢
  omega

theorem young_of_fraction {last asked : Nat}
    (young : asked < last + lockoutDuration)
    (fraction : lostFraction (last + lockoutDuration - asked) ≠ 0) :
    last + lockoutDuration - lostFraction (last + lockoutDuration - asked) -
      last < lockoutDuration := by
  have least : lostFraction (last + lockoutDuration - asked) ≤
      last + lockoutDuration - asked := Nat.mod_le _ _
  have positive : 0 < lockoutDuration := by decide
  omega

theorem not_young_of_le {last again : Nat}
    (isOver : last + lockoutDuration ≤ again) :
    ¬ again - last < lockoutDuration := by
  omega

namespace RateLimiter

/-- The answer to a locked-out address whose last failure was at `last`. -/
theorem lockoutOf_eq_some_iff {now last retry : Nat} {failures : List Nat}
    (ordered : failures.Pairwise (· ≤ ·))
    (newest : failures.getLast? = some last) (past : last ≤ now) :
    lockoutOf now failures = some retry ↔
      (maxFailedAttempts ≤ (recentFailures now failures).length ∧
        now < last + lockoutDuration) ∧
      retry = max (asSecs (last + lockoutDuration - now)) 1 := by
  have shorter : lockoutDuration < rateLimitWindow := by decide
  have isLocked := isSome_lockoutOf_iff now ordered newest
  constructor
  · intro answer
    rw [answer] at isLocked
    obtain ⟨enough, young⟩ := isLocked.mp rfl
    have fresh : now < windowEnd last := by
      rw [windowEnd]
      omega
    have isLast : (recentFailures now failures).getLast? = some last :=
      SlidingWindow.getLast?_live newest fresh
    rw [lockoutOf, secondsRemaining, if_pos enough, isLast] at answer
    dsimp only at answer
    rw [if_pos young] at answer
    have same : lockoutDuration - (now - last) =
        last + lockoutDuration - now := by omega
    rw [same] at answer
    exact ⟨⟨enough, by omega⟩, (Option.some.inj answer).symm⟩
  · rintro ⟨⟨enough, young⟩, rfl⟩
    have fresh : now < windowEnd last := by
      rw [windowEnd]
      omega
    have isLast : (recentFailures now failures).getLast? = some last :=
      SlidingWindow.getLast?_live newest fresh
    have same : lockoutDuration - (now - last) =
        last + lockoutDuration - now := by omega
    rw [lockoutOf, secondsRemaining, if_pos enough, isLast]
    dsimp only
    rw [if_pos (by omega), same]

/-- After any calls, the answer comes from the failures they recorded. -/
theorem lockoutRemaining_afterCalls {IpAddr : Type*} [DecidableEq IpAddr]
    (ip : IpAddr) (calls : List (LimiterCall IpAddr)) (now : Nat)
    (ordered : LimiterCall.InOrder
      (calls ++ [LimiterCall.lockoutRemaining ip now])) :
    ((after calls).lockoutRemaining ip now).1 =
      lockoutOf now (failuresOf ip calls) := by
  obtain ⟨callsOrdered, -, past⟩ := List.pairwise_append.mp ordered
  have fresh : (new : RateLimiter IpAddr).Reflects ip 0 [] :=
    SlidingWindow.SameFrom.refl windowEnd 0 []
  have recorded := reflects_foldl_call fresh calls now callsOrdered
    (fun call member => ⟨Nat.zero_le _,
      past call member _ (List.mem_singleton_self _)⟩) (Nat.zero_le _)
  rw [List.nil_append] at recorded
  exact lockoutRemaining_eq recorded le_rfl

end RateLimiter

namespace LockoutQuery

variable {IpAddr : Type*} [DecidableEq IpAddr]

/-- The failures of the address that asks, oldest first. -/
def failures (query : LockoutQuery IpAddr) : List Nat :=
  failuresOf query.ip query.before

/-- Asked again `retry` seconds later or after that, with no failure of the
address recorded in between, the limiter lets the address through. -/
def CountdownSuffices (query : LockoutQuery IpAddr) : Prop :=
  ∀ (retry askedAgain : Nat) (between : List (LimiterCall IpAddr)),
    ((RateLimiter.after query.before).lockoutRemaining
      query.ip query.asked).1 = some retry →
    LimiterCall.InOrder
      (query.before ++ .lockoutRemaining query.ip query.asked :: between ++
        [LimiterCall.lockoutRemaining query.ip askedAgain]) →
    failuresOf query.ip between = [] →
    query.asked + fromSecs retry ≤ askedAgain →
    ((RateLimiter.after (query.before ++
        .lockoutRemaining query.ip query.asked :: between)).lockoutRemaining
      query.ip askedAgain).1 = none

/-- If the address is locked out, the rest of the lockout is shorter than a
second or a whole number of seconds, or too few failures are left in the
window when its whole seconds are over. -/
def LosesNoFraction (query : LockoutQuery IpAddr) : Prop :=
  ∀ last, query.failures.getLast? = some last →
    maxFailedAttempts ≤
      (recentFailures query.asked query.failures).length →
    query.asked < last + lockoutDuration →
    last + lockoutDuration - query.asked < fromSecs 1 ∨
      lostFraction (last + lockoutDuration - query.asked) = 0 ∨
      (recentFailures (last + lockoutDuration -
          lostFraction (last + lockoutDuration - query.asked))
        query.failures).length < maxFailedAttempts

theorem failures_ordered (query : LockoutQuery IpAddr) :
    query.failures.Pairwise (· ≤ ·) :=
  FailureHistory.pairwise_failuresOf query.ip
    (List.pairwise_append.mp query.ordered).1

theorem last_le_asked (query : LockoutQuery IpAddr) {last : Nat}
    (newest : query.failures.getLast? = some last) : last ≤ query.asked := by
  obtain ⟨call, member, records⟩ :=
    List.mem_filterMap.mp (List.mem_of_getLast? newest)
  have isLast := LimiterCall.now_of_failureOf records
  rw [← isLast]
  exact (List.pairwise_append.mp query.ordered).2.2 call member _
    (List.mem_singleton_self _)

omit [DecidableEq IpAddr] in
/-- The address may be asked for again at any later time. -/
theorem ordered_again (query : LockoutQuery IpAddr) (askedAgain : Nat)
    (order : query.asked ≤ askedAgain) :
    LimiterCall.InOrder
      (query.before ++ [.lockoutRemaining query.ip query.asked] ++
        [LimiterCall.lockoutRemaining query.ip askedAgain]) := by
  refine List.pairwise_append.mpr
    ⟨query.ordered, List.pairwise_singleton _ _, ?_⟩
  intro call member asks isAgain
  rw [List.mem_singleton.mp isAgain]
  have early : call.now ≤ query.asked := by
    rcases List.mem_append.mp member with old | isAsked
    · exact (List.pairwise_append.mp query.ordered).2.2 call old _
        (List.mem_singleton_self _)
    · rw [List.mem_singleton.mp isAsked]
      exact Nat.le_refl _
  exact early.trans order

/-- The answer when the seconds of an earlier answer are over. -/
theorem lockoutOf_after_countdown (query : LockoutQuery IpAddr)
    (counts : query.LosesNoFraction) {retry : Nat}
    (answer : RateLimiter.lockoutOf query.asked query.failures = some retry) :
    RateLimiter.lockoutOf (query.asked + fromSecs retry) query.failures =
      none := by
  cases newest : query.failures.getLast? with
  | none =>
      rw [List.getLast?_eq_none_iff] at newest
      rw [newest, RateLimiter.lockoutOf_nil]
  | some last =>
      have past := query.last_le_asked newest
      obtain ⟨⟨enough, young⟩, rfl⟩ := (RateLimiter.lockoutOf_eq_some_iff
        query.failures_ordered newest past).mp answer
      rw [← Option.not_isSome_iff_eq_none, RateLimiter.isSome_lockoutOf_iff _
        query.failures_ordered newest]
      rintro ⟨stillEnough, stillYoung⟩
      rcases counts last newest enough young with short | whole | few
      · exact not_young_of_le (le_add_countdown (.inl short))
          stillYoung
      · exact not_young_of_le (le_add_countdown (.inr whole))
          stillYoung
      · rcases Nat.lt_or_ge (last + lockoutDuration - query.asked)
          (fromSecs 1) with short | long
        · exact not_young_of_le (le_add_countdown (.inl short))
            stillYoung
        · rw [add_countdown long] at stillEnough
          exact absurd few (Nat.not_lt.mpr stillEnough)

/-- Without a failure in between, a later answer comes from the same
failures. -/
theorem lockoutRemaining_again (query : LockoutQuery IpAddr)
    {askedAgain : Nat} {between : List (LimiterCall IpAddr)}
    (ordered : LimiterCall.InOrder
      (query.before ++ .lockoutRemaining query.ip query.asked :: between ++
        [LimiterCall.lockoutRemaining query.ip askedAgain]))
    (noFailure : failuresOf query.ip between = []) :
    ((RateLimiter.after (query.before ++
        .lockoutRemaining query.ip query.asked :: between)).lockoutRemaining
      query.ip askedAgain).1 =
        RateLimiter.lockoutOf askedAgain query.failures := by
  have answer := RateLimiter.lockoutRemaining_afterCalls query.ip
    (query.before ++ .lockoutRemaining query.ip query.asked :: between)
    askedAgain ordered
  have sameFailures : failuresOf query.ip
      (query.before ++ .lockoutRemaining query.ip query.asked :: between) =
        query.failures := by
    have cons := failuresOf_append query.ip
      [.lockoutRemaining query.ip query.asked] between
    rw [failuresOf_lockoutRemaining, noFailure] at cons
    rw [failuresOf_append, ← List.singleton_append, cons]
    exact List.append_nil _
  rw [answer, sameFailures]

/-- Asked again exactly when the seconds are over, the limiter would notice a
fraction that is still left. -/
theorem losesNoFraction_of_countdownSuffices (query : LockoutQuery IpAddr)
    (enoughSeconds : query.CountdownSuffices) : query.LosesNoFraction := by
  intro last newest enough young
  by_contra loses
  simp only [not_or, not_lt] at loses
  obtain ⟨long, fraction, many⟩ := loses
  have first := RateLimiter.lockoutRemaining_afterCalls query.ip query.before
    query.asked query.ordered
  have past := query.last_le_asked newest
  have sameTime := add_countdown long
  obtain ⟨retry, isRetry⟩ : ∃ retry, retry =
    max (asSecs (last + lockoutDuration - query.asked)) 1 := ⟨_, rfl⟩
  have answer : RateLimiter.lockoutOf query.asked query.failures =
      some retry :=
    (RateLimiter.lockoutOf_eq_some_iff query.failures_ordered newest
      past).mpr ⟨⟨enough, young⟩, isRetry⟩
  rw [← isRetry] at sameTime
  have ordered := query.ordered_again (query.asked + fromSecs retry)
    (Nat.le_add_right _ _)
  have free := enoughSeconds retry (query.asked + fromSecs retry) []
    (first.trans answer) ordered rfl (Nat.le_refl _)
  rw [query.lockoutRemaining_again ordered rfl,
    ← Option.not_isSome_iff_eq_none,
    RateLimiter.isSome_lockoutOf_iff _ query.failures_ordered newest,
    sameTime] at free
  exact free ⟨many, young_of_fraction young fraction⟩

/-- The seconds of the answer are long enough to wait exactly if they lose no
fraction of the lockout. -/
theorem countdownSuffices_iff_losesNoFraction (query : LockoutQuery IpAddr) :
    query.CountdownSuffices ↔ query.LosesNoFraction := by
  constructor
  · exact query.losesNoFraction_of_countdownSuffices
  · intro counts retry askedAgain between answer ordered noFailure waited
    rw [RateLimiter.lockoutRemaining_afterCalls query.ip query.before
      query.asked query.ordered] at answer
    rw [query.lockoutRemaining_again ordered noFailure]
    exact RateLimiter.lockoutOf_eq_none_of_le query.failures_ordered waited
      (query.lockoutOf_after_countdown counts answer)

/-- Five failures at second 0, asked half a second later. -/
def halfSecond : LockoutQuery Nat where
  ip := 0
  before := List.replicate 5 (.recordFailure 0 0)
  asked := 5 * 10 ^ 8
  ordered := by decide

/-- The answer is 29 seconds, and after 29 seconds half a second is left. -/
theorem halfSecond_not_countdownSuffices :
    ¬ halfSecond.CountdownSuffices := by
  intro suffices'
  have free := suffices' 29 (5 * 10 ^ 8 + fromSecs 29) [] (by decide)
    (by decide) rfl (by decide)
  revert free
  decide

end LockoutQuery

end Rylus
