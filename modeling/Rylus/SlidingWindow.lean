import Mathlib.Algebra.Order.Ring.Nat
import Mathlib.Data.List.Basic

/-!
# Sliding windows of timestamps

A window keeps the entries that have not expired yet.  Entries are appended
as time goes on and pruned lazily, at whatever moments the owner looks.  The
facts below say that lazy pruning cannot be observed: what is live at a time
depends on the recorded entries only, not on when they were pruned before.
-/

namespace SlidingWindow

variable {Time : Type*} [LinearOrder Time]

/-- The entries that have not expired at `now`. -/
def live (expires : Time → Time) (now : Time) (entries : List Time) :
    List Time :=
  entries.filter fun entry => now < expires entry

@[simp]
theorem live_nil (expires : Time → Time) (now : Time) :
    live expires now [] = [] :=
  rfl

@[simp]
theorem mem_live {expires : Time → Time} {now entry : Time}
    {entries : List Time} :
    entry ∈ live expires now entries ↔
      entry ∈ entries ∧ now < expires entry := by
  simp [live]

@[simp]
theorem live_append (expires : Time → Time) (now : Time)
    (first second : List Time) :
    live expires now (first ++ second) =
      live expires now first ++ live expires now second := by
  simp [live]

/-- Pruning earlier does not change what is live later. -/
theorem live_live (expires : Time → Time) {earlier later : Time}
    (order : earlier ≤ later) (entries : List Time) :
    live expires later (live expires earlier entries) =
      live expires later entries := by
  simp only [live, List.filter_filter]
  apply List.filter_congr
  intro entry _
  by_cases fresh : later < expires entry
  · simp [fresh, lt_of_le_of_lt order fresh]
  · simp [fresh]

/-- Entries only expire: the live ones later are among those live earlier. -/
theorem live_sublist_live (expires : Time → Time) {earlier later : Time}
    (order : earlier ≤ later) (entries : List Time) :
    (live expires later entries).Sublist (live expires earlier entries) := by
  rw [← live_live expires order entries]
  exact List.filter_sublist

theorem length_live_le (expires : Time → Time) {earlier later : Time}
    (order : earlier ≤ later) (entries : List Time) :
    (live expires later entries).length ≤
      (live expires earlier entries).length :=
  (live_sublist_live expires order entries).length_le

/-- The newest entry stays the newest live one for as long as it is live. -/
theorem getLast?_live {expires : Time → Time} {now last : Time}
    {entries : List Time} (newest : entries.getLast? = some last)
    (fresh : now < expires last) :
    (live expires now entries).getLast? = some last := by
  obtain ⟨older, rfl⟩ := List.getLast?_eq_some_iff.mp newest
  simp [live, fresh]

/-- `kept` and `recorded` cannot be told apart from `now` on. -/
def SameFrom (expires : Time → Time) (now : Time)
    (kept recorded : List Time) : Prop :=
  ∀ later, now ≤ later →
    live expires later kept = live expires later recorded

namespace SameFrom

variable {expires : Time → Time} {now later : Time}
  {kept recorded : List Time}

theorem refl (expires : Time → Time) (now : Time) (entries : List Time) :
    SameFrom expires now entries entries :=
  fun _ _ => rfl

theorem mono (same : SameFrom expires now kept recorded)
    (order : now ≤ later) : SameFrom expires later kept recorded :=
  fun time timeGe => same time (order.trans timeGe)

/-- Pruning what is kept is not observable. -/
theorem prune (same : SameFrom expires now kept recorded)
    (order : now ≤ later) :
    SameFrom expires later (live expires later kept) recorded := by
  intro time timeGe
  rw [live_live expires timeGe]
  exact same time (order.trans timeGe)

/-- Recording the same entry on both sides keeps them the same. -/
theorem append (same : SameFrom expires now kept recorded)
    (entry : Time) :
    SameFrom expires now (kept ++ [entry]) (recorded ++ [entry]) := by
  intro time timeGe
  simp [same time timeGe]

end SameFrom

/-! ### Entries kept apart once the window is full -/

section Spaced

variable {Duration : Type*} [AddCommMonoid Duration] [LinearOrder Duration]

/-- Once `limit` entries are less than `window` old, `now` is at least `gap`
after the last of all entries. -/
def KeepsGap (limit : Nat) (window gap now : Duration)
    (entries : List Duration) : Prop :=
  limit ≤ (live (· + window) now entries).length →
    ∀ last ∈ entries.getLast?, last + gap ≤ now

/-- Entries in order of time, each of which kept the gap when it was
added. -/
inductive Spaced (limit : Nat) (window gap : Duration) :
    List Duration → Prop
  | nil : Spaced limit window gap []
  | append {entries : List Duration} {now : Duration}
      (spaced : Spaced limit window gap entries)
      (past : ∀ entry ∈ entries, entry ≤ now)
      (keeps : KeepsGap limit window gap now entries) :
      Spaced limit window gap (entries ++ [now])

/-- The entries in a half-open interval of length `window`. -/
def within (start window : Duration) (entries : List Duration) :
    List Duration :=
  entries.filter fun entry => start ≤ entry ∧ entry < start + window

variable {limit : Nat} {window gap start now last : Duration}
  {entries : List Duration}

/-- The last of spaced entries is the latest. -/
theorem Spaced.le_last (spaced : Spaced limit window gap entries)
    (newest : entries.getLast? = some last) {entry : Duration}
    (member : entry ∈ entries) : entry ≤ last := by
  cases spaced with
  | nil => cases member
  | append spaced past keeps =>
      rw [List.getLast?_append, List.getLast?_singleton] at newest
      cases newest
      rcases List.mem_append.mp member with old | new
      · exact past entry old
      · exact (List.mem_singleton.mp new).le

variable [IsOrderedAddMonoid Duration]

/-- What lies in an interval is live until the interval is over. -/
theorem length_within_le (order : now < start + window) :
    (within start window entries).length ≤
      (live (· + window) now entries).length := by
  apply List.Sublist.length_le
  apply List.monotone_filter_right
  intro entry inside
  rw [decide_eq_true_eq] at inside ⊢
  exact order.trans_le (add_le_add_left inside.1 window)

/-- Beyond `limit` entries in an interval, every further one has moved the
last entry by a gap from the start of the interval. -/
theorem Spaced.gaps_le_last (positive : 0 < limit)
    (spaced : Spaced limit window gap entries)
    (newest : entries.getLast? = some last) (further : Nat)
    (many : limit + further ≤ (within start window entries).length) :
    start + further • gap ≤ last := by
  induction spaced generalizing further last with
  | nil => simp [within] at many; omega
  | @append entries now spaced past keeps ih =>
      rw [List.getLast?_append, List.getLast?_singleton] at newest
      cases newest
      have split : within start window (entries ++ [now]) =
          within start window entries ++ within start window [now] :=
        List.filter_append _ _
      rw [split, List.length_append] at many
      by_cases inside : start ≤ now ∧ now < start + window
      · have one : (within start window [now]).length = 1 := by
          simp [within, inside]
        rw [one] at many
        cases further with
        | zero =>
            rw [zero_nsmul, add_zero]
            exact inside.1
        | succ further =>
            have enough : limit + further ≤
                (within start window entries).length := by omega
            have full := enough.trans (length_within_le inside.2)
            cases before : entries.getLast? with
            | none =>
                rw [List.getLast?_eq_none_iff] at before
                subst before
                simp [within] at enough
                omega
            | some last =>
                have earlier := ih before further enough
                have apart := keeps (by omega) last before
                calc start + (further + 1) • gap
                    = start + further • gap + gap := by
                      rw [succ_nsmul, add_assoc]
                  _ ≤ last + gap := add_le_add_left earlier gap
                  _ ≤ now := apart
      · have none : (within start window [now]).length = 0 := by
          simp [within, inside]
        rw [none] at many
        cases before : entries.getLast? with
        | none =>
            rw [List.getLast?_eq_none_iff] at before
            subst before
            simp [within] at many
            omega
        | some last =>
            exact (ih before further (by omega)).trans
              (past last (List.mem_of_getLast? before))

/-- An interval that `more` gaps fill has fewer than `limit + more`
entries. -/
theorem Spaced.length_within_lt (positive : 0 < limit) {more : Nat}
    (fills : window ≤ more • gap)
    (spaced : Spaced limit window gap entries) (start : Duration) :
    (within start window entries).length < limit + more := by
  induction spaced with
  | nil => simp [within]; omega
  | @append entries now spaced past keeps ih =>
      by_contra many
      have many := Nat.not_lt.mp many
      have newest : (entries ++ [now]).getLast? = some now := by simp
      have last := (spaced.append past keeps).gaps_le_last positive newest
        more many
      have split : within start window (entries ++ [now]) =
          within start window entries ++ within start window [now] :=
        List.filter_append _ _
      have outside : ¬ now < start + window :=
        not_lt.mpr ((add_le_add_right fills start).trans last)
      have none : (within start window [now]).length = 0 := by
        simp [within, outside]
      rw [split, List.length_append, none] at many
      omega

end Spaced

end SlidingWindow
