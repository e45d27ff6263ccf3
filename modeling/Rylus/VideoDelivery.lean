import Mathlib.Data.List.Chain
import Rylus.LabelledExecution
import Rylus.VideoQueue

/-!
# What the writer delivers of a stream

What is pushed is a sequence of units: the init segment, then what
`av_write_trailer` writes for the encoder before, which is dropped once there
is a new one, and one fragment a packet.  Each unit reaches
`avio_write_callback` as one or more chunks.  The queue drops chunks by
position, whoever pushed them.  This file determines at which drains it drops
whole units only.
-/

namespace Rylus

/-- One call of `avio_write_callback`.  Unit 0 is the init segment. -/
structure StreamChunk where
  unit : Nat
  part : Nat
  isLast : Bool
  deriving DecidableEq

namespace StreamChunk

/-- The chunk the encoder pushes after another one. -/
def Follows (first second : StreamChunk) : Prop :=
  second.unit = first.unit ∧ second.part = first.part + 1 ∨
    second.unit = first.unit + 1 ∧ second.part = 0

/-- The chunk after the last one pushed, the last of its unit or not. -/
def after : Option StreamChunk → Bool → StreamChunk
  | none, isLast => ⟨0, 0, isLast⟩
  | some previous, isLast =>
      if previous.isLast then ⟨previous.unit + 1, 0, isLast⟩
      else ⟨previous.unit, previous.part + 1, isLast⟩

theorem follows_after (previous : StreamChunk) (isLast : Bool) :
    previous.Follows (after (some previous) isLast) := by
  unfold after Follows
  by_cases ends : previous.isLast = true
  · simp [ends]
  · simp [ends]

/-- Chunks in the order the encoder pushes them. -/
def IsStream (chunks : List StreamChunk) : Prop :=
  chunks.IsChain Follows

/-- Earlier in the stream. -/
def Before (first second : StreamChunk) : Prop :=
  first.unit < second.unit ∨
    first.unit = second.unit ∧ first.part < second.part

theorem Before.trans {first second third : StreamChunk}
    (earlier : first.Before second) (later : second.Before third) :
    first.Before third := by
  unfold Before at *
  omega

instance : Trans Before Before Before := ⟨Before.trans⟩

theorem Follows.before {first second : StreamChunk}
    (follows : first.Follows second) : first.Before second := by
  unfold Follows at follows
  unfold Before
  omega

theorem IsStream.pairwise_before {chunks : List StreamChunk}
    (stream : IsStream chunks) : chunks.Pairwise Before :=
  List.isChain_iff_pairwise.mp (stream.imp fun _ _ => Follows.before)

theorem IsStream.disjoint {first second : List StreamChunk}
    (stream : IsStream (first ++ second)) {chunk : StreamChunk}
    (inFirst : chunk ∈ first) (inSecond : chunk ∈ second) : False := by
  have before : chunk.Before chunk :=
    (List.pairwise_append.mp stream.pairwise_before).2.2 chunk inFirst
      chunk inSecond
  unfold Before at before
  omega

theorem IsStream.unit_le_next {chunks rest : List StreamChunk}
    {next : StreamChunk} (stream : IsStream (chunks ++ next :: rest))
    {chunk : StreamChunk} (member : chunk ∈ chunks) :
    chunk.unit ≤ next.unit := by
  have before : chunk.Before next :=
    (List.pairwise_append.mp stream.pairwise_before).2.2 chunk member
      next (by simp)
  unfold Before at before
  omega

/-- Units before a chunk that starts a unit are over. -/
theorem IsStream.unit_lt {chunks rest : List StreamChunk}
    {next : StreamChunk} (stream : IsStream (chunks ++ next :: rest))
    (starts : next.part = 0) {chunk : StreamChunk} (member : chunk ∈ chunks) :
    chunk.unit < next.unit := by
  have before : chunk.Before next :=
    (List.pairwise_append.mp stream.pairwise_before).2.2 chunk member
      next (by simp)
  unfold Before at before
  omega

/-- Units never go back. -/
theorem IsStream.unit_le {chunks rest : List StreamChunk}
    {next : StreamChunk} (stream : IsStream (chunks ++ next :: rest))
    {chunk : StreamChunk} (member : chunk ∈ next :: rest) :
    next.unit ≤ chunk.unit := by
  rcases List.mem_cons.mp member with rfl | later
  · exact le_rfl
  · have before : next.Before chunk :=
      (List.pairwise_cons.mp
        (List.pairwise_append.mp stream.pairwise_before).2.1).1 chunk later
    unfold Before at before
    omega

/-- A chunk that continues a unit comes right after another chunk of it. -/
theorem IsStream.unit_eq {chunks rest : List StreamChunk}
    {last next : StreamChunk} (stream : IsStream (chunks ++ next :: rest))
    (continues : next.part ≠ 0) (newest : chunks.getLast? = some last) :
    last.unit = next.unit := by
  have follows : last.Follows next :=
    (List.isChain_append.mp stream).2.2 last newest next rfl
  unfold Follows at follows
  omega

end StreamChunk

/-- A queue with what was pushed and what the writer took from it. -/
structure Delivery where
  pushed : List StreamChunk
  drainedUpTo : Nat
  queue : VideoQueue StreamChunk
  delivered : List StreamChunk

inductive DeliveryStep where
  | push (isLast : Bool)
  | drain

namespace Delivery

open StreamChunk

def start : Delivery where
  pushed := []
  drainedUpTo := 0
  queue := .new
  delivered := []

/-- `send_video` for the next chunk, or one drain of the writer task. -/
def step (state : Delivery) : DeliveryStep → Option Delivery
  | .push isLast =>
      let chunk := StreamChunk.after state.pushed.getLast? isLast
      some { state with
        pushed := state.pushed ++ [chunk]
        queue := state.queue.push chunk }
  | .drain =>
      let (frames, queue) := state.queue.drain
      some { state with
        drainedUpTo := state.pushed.length
        queue := queue
        delivered := state.delivered ++ frames }

/-- Pushed before the last drain. -/
def settled (state : Delivery) : List StreamChunk :=
  state.pushed.take state.drainedUpTo

/-- Pushed since the last drain. -/
def batch (state : Delivery) : List StreamChunk :=
  state.pushed.drop state.drainedUpTo

/-- Of what was pushed before the last drain, the writer has the whole init
segment and of every other unit everything or nothing. -/
def WholeUnits (state : Delivery) : Prop :=
  ∃ kept : Nat → Bool, kept 0 = true ∧
    state.delivered = state.settled.filter fun chunk => kept chunk.unit

/-- The chunks of `batch` that the queue has dropped, if any, begin with the
start of a fragment and end before the start of a fragment. -/
def DropsFragments (state : Delivery) : Prop :=
  state.batch.length ≤ videoQueueCapacity ∨
    (∀ first ∈ state.batch.head?, first.part = 0 ∧ first.unit ≠ 0) ∧
      ∀ oldest ∈ (state.batch.rtake videoQueueCapacity).head?,
        oldest.part = 0

/-- Every drain takes place when only whole fragments have been dropped. -/
def DrainsWhole (state : Delivery) : DeliveryStep → Prop
  | .push _ => True
  | .drain => state.DropsFragments

/-- What holds in every reachable state. -/
structure Consistent (state : Delivery) : Prop where
  stream : IsStream state.pushed
  starts : ∀ first ∈ state.pushed.head?, first.unit = 0 ∧ first.part = 0
  within : state.drainedUpTo ≤ state.pushed.length
  queue : state.queue.inner = state.batch.rtake videoQueueCapacity
  sublist : state.delivered.Sublist state.settled
  newest : state.delivered.getLast? = state.settled.getLast?

theorem settled_append_batch (state : Delivery) :
    state.settled ++ state.batch = state.pushed :=
  List.take_append_drop _ _

/-- The part of the batch that the queue has dropped. -/
def lost (state : Delivery) : List StreamChunk :=
  state.batch.rdrop videoQueueCapacity

/-- The part of the batch that the queue still holds. -/
def held (state : Delivery) : List StreamChunk :=
  state.batch.rtake videoQueueCapacity

theorem lost_append_held (state : Delivery) :
    state.lost ++ state.held = state.batch :=
  List.take_append_drop _ _

theorem lost_eq_nil_iff (state : Delivery) :
    state.lost = [] ↔ state.batch.length ≤ videoQueueCapacity := by
  rw [lost, List.rdrop, List.take_eq_nil_iff]
  constructor
  · rintro (none | empty)
    · omega
    · simp [empty]
  · intro fits
    left
    omega

theorem consistent_start : start.Consistent where
  stream := List.isChain_nil
  starts := by simp [start]
  within := le_rfl
  queue := rfl
  sublist := List.Sublist.refl _
  newest := rfl

theorem consistent_push {state : Delivery} (holds : state.Consistent)
    (isLast : Bool) {next : Delivery}
    (taken : state.step (.push isLast) = some next) : next.Consistent := by
  cases taken
  have settledSame : (state.pushed ++
      [StreamChunk.after state.pushed.getLast? isLast]).take
        state.drainedUpTo = state.settled :=
    List.take_append_of_le_length holds.within
  refine ⟨?_, ?_, ?_, ?_, ?_, ?_⟩
  · refine List.isChain_append.mpr
      ⟨holds.stream, List.isChain_singleton _, ?_⟩
    intro last newest first isFirst
    simp only [List.head?_cons, Option.mem_some_iff] at isFirst
    subst isFirst
    rw [Option.mem_def.mp newest]
    exact StreamChunk.follows_after last isLast
  · intro first isFirst
    cases pushed : state.pushed with
    | nil =>
        simp only [pushed, List.nil_append, List.getLast?_nil,
          List.head?_cons, Option.mem_some_iff] at isFirst
        subst isFirst
        exact ⟨rfl, rfl⟩
    | cons earliest rest =>
        apply holds.starts
        simpa [pushed] using isFirst
  · simp only [List.length_append]
    exact holds.within.trans (Nat.le_add_right _ _)
  · simp only [VideoQueue.inner_push, holds.queue, batch]
    rw [DropOldest.push_rtake (by decide),
      List.drop_append_of_le_length holds.within]
  · simp only [settled, settledSame]
    exact holds.sublist
  · simp only [settled, settledSame]
    exact holds.newest

theorem consistent_drain {state : Delivery} (holds : state.Consistent)
    {next : Delivery} (taken : state.step .drain = some next) :
    next.Consistent := by
  cases taken
  have whole : state.pushed = state.settled ++ (state.lost ++ state.held) := by
    rw [lost_append_held, settled_append_batch]
  have heldQueue : state.queue.inner = state.held := holds.queue
  refine ⟨holds.stream, holds.starts, le_rfl, ?_, ?_, ?_⟩
  · simp [batch, List.rtake]
  · simp only [settled, List.take_length, heldQueue]
    rw [whole]
    exact holds.sublist.append (List.sublist_append_right _ _)
  · simp only [settled, List.take_length, heldQueue]
    rw [whole]
    cases newest : state.held.getLast? with
    | some last => simp [List.getLast?_append, newest]
    | none =>
        -- the queue is empty only if nothing was pushed since the last drain
        have empty : state.held = [] := List.getLast?_eq_none_iff.mp newest
        have none : state.batch = [] := by
          have short := congrArg List.length empty
          simp only [held, List.rtake, List.length_drop, videoQueueCapacity,
            List.length_nil] at short
          exact List.length_eq_zero_iff.mp (by omega)
        simp [lost, held, none, holds.newest]

theorem consistent_of_step {state next : Delivery} {label : DeliveryStep}
    (holds : state.Consistent) (taken : state.step label = some next) :
    next.Consistent := by
  cases label with
  | push isLast => exact consistent_push holds isLast taken
  | drain => exact consistent_drain holds taken

/-! ### Which drains keep units whole -/

/-- `WholeUnits` for the state a drain leaves behind. -/
theorem wholeUnits_drain_iff {state next : Delivery}
    (holds : state.Consistent) (taken : state.step .drain = some next) :
    next.WholeUnits ↔ ∃ kept : Nat → Bool, kept 0 = true ∧
      state.delivered ++ state.held =
        state.pushed.filter fun chunk => kept chunk.unit := by
  cases taken
  simp only [WholeUnits, settled, List.take_length, holds.queue,
    held]

/-- When nothing has been dropped, the units kept so far and all later ones
are kept. -/
theorem exists_kept_of_fits {state : Delivery} (holds : state.Consistent)
    (whole : state.WholeUnits) (fits : state.lost = []) :
    ∃ kept : Nat → Bool, kept 0 = true ∧
      state.delivered ++ state.held =
        state.pushed.filter fun chunk => kept chunk.unit := by
  obtain ⟨kept, keepsInit, delivered⟩ := whole
  have split : state.pushed = state.settled ++ state.held := by
    rw [← settled_append_batch, ← lost_append_held, fits, List.nil_append]
  cases upcoming : state.held with
  | nil =>
      refine ⟨kept, keepsInit, ?_⟩
      rw [split, upcoming, List.append_nil, List.append_nil, delivered]
  | cons first rest =>
      rw [upcoming] at split
      have stream : IsStream (state.settled ++ first :: rest) :=
        split ▸ holds.stream
      refine ⟨fun unit => kept unit || decide (first.unit ≤ unit),
        by simp [keepsInit], ?_⟩
      rw [split, List.filter_append, delivered]
      congr 1
      · apply List.filter_congr
        intro chunk member
        by_cases later : first.unit ≤ chunk.unit
        · -- then `first` continues the unit of the last delivered chunk
          have continues : first.part ≠ 0 := fun starts =>
            absurd (stream.unit_lt starts member) (by omega)
          obtain ⟨last, newest⟩ : ∃ last, state.settled.getLast? = some last :=
            List.getLast?_isSome.mpr (List.ne_nil_of_mem member) |>
              Option.isSome_iff_exists.mp
          have sameUnit : last.unit = first.unit :=
            stream.unit_eq continues newest
          have isDelivered : last ∈ state.delivered :=
            List.mem_of_getLast? (holds.newest.trans newest)
          have keepsLast : kept last.unit = true := by
            rw [delivered] at isDelivered
            exact (List.mem_filter.mp isDelivered).2
          have notLater : chunk.unit ≤ first.unit :=
            stream.unit_le_next member
          have same : chunk.unit = last.unit := by omega
          simp [same, keepsLast]
        · simp [later]
      · symm
        apply List.filter_eq_self.mpr
        intro chunk member
        simp [stream.unit_le member]

/-- Everything pushed, cut where the loss begins and where it ends. -/
theorem Consistent.split_lost {state : Delivery} (holds : state.Consistent)
    {first oldest : StreamChunk} {lost held : List StreamChunk}
    (isLost : state.lost = first :: lost)
    (isHeld : state.held = oldest :: held) :
    state.pushed = state.settled ++ (first :: lost ++ oldest :: held) ∧
      IsStream (state.settled ++ first :: (lost ++ oldest :: held)) ∧
      IsStream ((state.settled ++ first :: lost) ++ oldest :: held) := by
  have split : state.pushed =
      state.settled ++ (first :: lost ++ oldest :: held) := by
    rw [← isLost, ← isHeld, lost_append_held, settled_append_batch]
  refine ⟨split, split ▸ holds.stream, ?_⟩
  rw [List.append_assoc]
  exact split ▸ holds.stream

/-- When the dropped chunks are whole fragments, exactly these fragments are
missing. -/
theorem exists_kept_of_fragments {state : Delivery}
    (holds : state.Consistent) (whole : state.WholeUnits)
    {first oldest : StreamChunk} {lost held : List StreamChunk}
    (isLost : state.lost = first :: lost)
    (isHeld : state.held = oldest :: held)
    (firstStarts : first.part = 0) (notInit : first.unit ≠ 0)
    (oldestStarts : oldest.part = 0) :
    ∃ kept : Nat → Bool, kept 0 = true ∧
      state.delivered ++ state.held =
        state.pushed.filter fun chunk => kept chunk.unit := by
  obtain ⟨kept, keepsInit, delivered⟩ := whole
  obtain ⟨split, fromFirst, fromOldest⟩ := holds.split_lost isLost isHeld
  have order : first.unit < oldest.unit :=
    fromOldest.unit_lt oldestStarts (by simp)
  refine ⟨fun unit => (kept unit && decide (unit < first.unit)) ||
    decide (oldest.unit ≤ unit), ?_, ?_⟩
  · simp [keepsInit]
    omega
  · rw [split, List.filter_append, List.filter_append, isHeld, delivered]
    have settledKept : state.settled.filter (fun chunk =>
        (kept chunk.unit && decide (chunk.unit < first.unit)) ||
          decide (oldest.unit ≤ chunk.unit)) =
        state.settled.filter fun chunk => kept chunk.unit := by
      apply List.filter_congr
      intro chunk member
      have earlier : chunk.unit < first.unit :=
        fromFirst.unit_lt firstStarts member
      have notYet : ¬ oldest.unit ≤ chunk.unit := by omega
      simp [earlier, notYet]
    have lostDropped : (first :: lost).filter (fun chunk =>
        (kept chunk.unit && decide (chunk.unit < first.unit)) ||
          decide (oldest.unit ≤ chunk.unit)) = [] := by
      apply List.filter_eq_nil_iff.mpr
      intro chunk member
      have atLeast : first.unit ≤ chunk.unit :=
        fromFirst.unit_le (by
          rcases List.mem_cons.mp member with rfl | later
          · simp
          · simp [later])
      have below : chunk.unit < oldest.unit :=
        fromOldest.unit_lt oldestStarts (by simp [List.mem_cons.mp member])
      have notEarlier : ¬ chunk.unit < first.unit := by omega
      have notYet : ¬ oldest.unit ≤ chunk.unit := by omega
      simp [notEarlier, notYet]
    have heldKept : (oldest :: held).filter (fun chunk =>
        (kept chunk.unit && decide (chunk.unit < first.unit)) ||
          decide (oldest.unit ≤ chunk.unit)) = oldest :: held := by
      apply List.filter_eq_self.mpr
      intro chunk member
      simp [fromOldest.unit_le member]
    rw [settledKept, lostDropped, heldKept, List.nil_append]

/-- Units can only be whole if the dropped chunks are whole fragments. -/
theorem fragments_of_exists_kept {state : Delivery}
    (holds : state.Consistent)
    {first oldest : StreamChunk} {lost held : List StreamChunk}
    (isLost : state.lost = first :: lost)
    (isHeld : state.held = oldest :: held)
    {kept : Nat → Bool} (keepsInit : kept 0 = true)
    (delivered : state.delivered ++ state.held =
      state.pushed.filter fun chunk => kept chunk.unit) :
    (first.part = 0 ∧ first.unit ≠ 0) ∧ oldest.part = 0 := by
  obtain ⟨split, fromFirst, fromOldest⟩ := holds.split_lost isLost isHeld
  have keeps (chunk : StreamChunk)
      (member : chunk ∈ state.delivered ++ state.held) :
      kept chunk.unit = true := by
    rw [delivered] at member
    exact (List.mem_filter.mp member).2
  have loses (chunk : StreamChunk) (member : chunk ∈ first :: lost) :
      kept chunk.unit ≠ true := by
    intro isKept
    have isDelivered : chunk ∈ state.delivered ++ state.held := by
      rw [delivered, split]
      exact List.mem_filter.mpr
        ⟨List.mem_append_right _ (List.mem_append_left _ member), isKept⟩
    rcases List.mem_append.mp isDelivered with old | new
    · exact fromFirst.disjoint (holds.sublist.subset old)
        (by simpa using List.mem_append_left (oldest :: held) member)
    · rw [isHeld] at new
      exact fromOldest.disjoint (List.mem_append_right _ member) new
  refine ⟨⟨?_, ?_⟩, ?_⟩
  · by_contra continues
    cases newest : state.settled.getLast? with
    | none =>
        have none : state.settled = [] := List.getLast?_eq_none_iff.mp newest
        have starts := holds.starts first (by simp [split, none])
        exact continues starts.2
    | some last =>
        have sameUnit : last.unit = first.unit :=
          fromFirst.unit_eq continues newest
        have isDelivered : last ∈ state.delivered :=
          List.mem_of_getLast? (holds.newest.trans newest)
        apply loses first (by simp)
        rw [← sameUnit]
        exact keeps last (List.mem_append_left _ isDelivered)
  · intro isInit
    apply loses first (by simp)
    rw [isInit]
    exact keepsInit
  · by_contra continues
    obtain ⟨last, newest⟩ : ∃ last, (first :: lost).getLast? = some last :=
      ⟨_, List.getLast?_eq_some_getLast (by simp)⟩
    have sameUnit : last.unit = oldest.unit :=
      fromOldest.unit_eq continues (by simp [List.getLast?_append, newest])
    apply loses last (List.mem_of_getLast? newest)
    rw [sameUnit]
    exact keeps oldest (by simp [isHeld])

/-- A drain keeps units whole exactly if only whole fragments have been
dropped. -/
theorem wholeUnits_iff_dropsFragments {state next : Delivery}
    (holds : state.Consistent) (whole : state.WholeUnits)
    (taken : state.step .drain = some next) :
    next.WholeUnits ↔ state.DropsFragments := by
  rw [wholeUnits_drain_iff holds taken, DropsFragments,
    ← lost_eq_nil_iff]
  cases isLost : state.lost with
  | nil => simp [exists_kept_of_fits holds whole isLost]
  | cons first lost =>
      have long : ¬ state.batch.length ≤ videoQueueCapacity := by
        rw [← lost_eq_nil_iff, isLost]
        simp
      have isFirst : state.batch.head? = some first := by
        rw [← lost_append_held, isLost]
        rfl
      cases isHeld : state.held with
      | nil =>
          have short := congrArg List.length isHeld
          simp only [Delivery.held, List.rtake, List.length_drop,
            videoQueueCapacity, List.length_nil] at short long
          omega
      | cons oldest held =>
          have isOldest :
              (state.batch.rtake videoQueueCapacity).head? = some oldest := by
            rw [show state.batch.rtake videoQueueCapacity = _ from isHeld]
            rfl
          simp only [isFirst, isOldest, Option.mem_some_iff, forall_eq',
            reduceCtorEq, false_or]
          constructor
          · rintro ⟨kept, keepsInit, delivered⟩
            rw [← isHeld] at delivered
            exact fragments_of_exists_kept holds isLost isHeld keepsInit
              delivered
          · rintro ⟨⟨firstStarts, notInit⟩, oldestStarts⟩
            rw [← isHeld]
            exact exists_kept_of_fragments holds whole isLost isHeld
              firstStarts notInit oldestStarts

/-- The writer has whole units throughout an execution exactly if every drain
takes place when only whole fragments have been dropped. -/
theorem wholeUnits_along_iff_drainsWhole
    (execution : Transition.Execution step start) :
    execution.Along WholeUnits ↔ execution.StepsMeet DrainsWhole := by
  apply execution.along_iff_stepsMeet
  · exact ⟨fun _ => true, rfl, rfl⟩
  · intro before label after reached whole taken
    have holds : before.Consistent :=
      reached.invariant consistent_start fun _ _ _ => consistent_of_step
    cases label with
    | push isLast =>
        cases taken
        have settledSame : (before.pushed ++
            [StreamChunk.after before.pushed.getLast? isLast]).take
              before.drainedUpTo = before.settled :=
          List.take_append_of_le_length holds.within
        simp only [WholeUnits, settled, settledSame, DrainsWhole, iff_true]
        exact whole
    | drain => exact wholeUnits_iff_dropsFragments holds whole taken

/-- The init segment and four one-chunk fragments before the first drain: the
writer never sees the init segment. -/
theorem stalledStart_loses_init :
    ∃ state, Transition.run step start
        [.push true, .push true, .push true, .push true, .push true, .drain] =
          some state ∧ ¬ state.WholeUnits := by
  refine ⟨_, rfl, ?_⟩
  rintro ⟨kept, keepsInit, delivered⟩
  have isKept : (⟨0, 0, true⟩ : StreamChunk) ∈
      [(⟨1, 0, true⟩ : StreamChunk), ⟨2, 0, true⟩, ⟨3, 0, true⟩,
        ⟨4, 0, true⟩] := by
    refine (congrArg (⟨0, 0, true⟩ ∈ ·) delivered).mpr ?_
    exact List.mem_filter.mpr ⟨by decide, keepsInit⟩
  revert isKept
  decide

end Delivery

end Rylus
