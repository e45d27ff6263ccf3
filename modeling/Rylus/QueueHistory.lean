import Mathlib.Data.List.Nodup
import Rylus.LabelledExecution
import Rylus.VideoQueue

/-!
# What becomes of the chunks in the video queue

Chunks are numbered in the order they are pushed.  Every chunk is drained
once, still queued, or dropped, and the counter of the queue is the number of
chunks dropped.
-/

namespace Rylus

/-- A chunk with the number of its push. -/
structure PushedChunk (Chunk : Type*) where
  number : Nat
  bytes : Chunk

/-- A push or a drain of the queue, as it happened. -/
inductive QueueEvent (Chunk : Type*) where
  | push (chunk : PushedChunk Chunk)
  | drain

/-- A queue with everything that happened to it. -/
structure QueueHistory (Chunk : Type*) where
  queue : VideoQueue (PushedChunk Chunk)
  events : List (QueueEvent Chunk)
  pushed : List (PushedChunk Chunk)
  drained : List (PushedChunk Chunk)

inductive QueueStep (Chunk : Type*) where
  | push (bytes : Chunk)
  | drain

namespace QueueHistory

variable {Chunk : Type*}

def start : QueueHistory Chunk where
  queue := .new
  events := []
  pushed := []
  drained := []

/-- The chunk that the next push brings. -/
def nextChunk (history : QueueHistory Chunk) (bytes : Chunk) :
    PushedChunk Chunk :=
  ⟨history.pushed.length, bytes⟩

/-- Producer and consumer hold the lock of the queue while they push and
drain. -/
def step (history : QueueHistory Chunk) :
    QueueStep Chunk → Option (QueueHistory Chunk)
  | .push bytes =>
      let chunk := history.nextChunk bytes
      some { history with
        queue := history.queue.push chunk
        events := history.events ++ [.push chunk]
        pushed := history.pushed ++ [chunk] }
  | .drain =>
      let (frames, queue) := history.queue.drain
      some { history with
        queue := queue
        events := history.events ++ [.drain]
        drained := history.drained ++ frames }

/-- Chunks that were drained or are still queued. -/
def kept (history : QueueHistory Chunk) : List (PushedChunk Chunk) :=
  history.drained ++ history.queue.inner

/-- Chunks that were pushed and are neither drained nor queued. -/
def dropped (history : QueueHistory Chunk) : List (PushedChunk Chunk) :=
  history.pushed.filter fun chunk =>
    decide (chunk.number ∉ history.kept.map PushedChunk.number)

/-- After a push of the chunk, as many newer ones as the queue holds were
pushed before the next drain. -/
def IsDisplaced (history : QueueHistory Chunk) (chunk : PushedChunk Chunk) :
    Prop :=
  ∃ (before after : List (QueueEvent Chunk))
    (newer : List (PushedChunk Chunk)),
      history.events = before ++ .push chunk :: newer.map .push ++ after ∧
        videoQueueCapacity ≤ newer.length

/-- The queue is bounded and drops the oldest chunks only; what is drained
comes in the order of the pushes and only once; nothing is unaccounted
for. -/
structure Exact (history : QueueHistory Chunk) : Prop where
  bounded : history.queue.inner.length ≤ videoQueueCapacity
  ordered : history.drained.Sublist history.pushed
  once : history.drained.Nodup
  accounted : history.pushed.Perm
    (history.drained ++ history.queue.inner ++ history.dropped)
  counted : history.queue.dropped = history.dropped.length
  displaced : ∀ chunk ∈ history.dropped, history.IsDisplaced chunk

/-- What the queue holds, as part of everything that happened; `batch` was
pushed since the last drain. -/
structure Accounts (history : QueueHistory Chunk)
    (older : List (QueueEvent Chunk))
    (settled batch : List (PushedChunk Chunk)) : Prop where
  numbered : history.pushed.map PushedChunk.number =
    List.range history.pushed.length
  events : history.events = older ++ batch.map .push
  pushed : history.pushed = settled ++ batch
  newest : history.queue.inner = batch.rtake videoQueueCapacity
  ordered : history.drained.Sublist settled
  counted : history.queue.dropped + history.kept.length =
    history.pushed.length
  displaced : ∀ chunk ∈ history.dropped, history.IsDisplaced chunk

variable {history next : QueueHistory Chunk}
  {older : List (QueueEvent Chunk)}
  {settled batch : List (PushedChunk Chunk)}

theorem mem_dropped {chunk : PushedChunk Chunk} :
    chunk ∈ history.dropped ↔ chunk ∈ history.pushed ∧
      ∀ other ∈ history.kept, other.number ≠ chunk.number := by
  simp [dropped]

/-- More events displace no less. -/
theorem IsDisplaced.mono {chunk : PushedChunk Chunk}
    {more : List (QueueEvent Chunk)}
    (displaced : history.IsDisplaced chunk)
    (longer : next.events = history.events ++ more) :
    next.IsDisplaced chunk := by
  obtain ⟨before, after, newer, split, enough⟩ := displaced
  refine ⟨before, after ++ more, newer, ?_, enough⟩
  rw [longer, split]
  simp

theorem accounts_start : (start : QueueHistory Chunk).Accounts [] [] [] where
  numbered := rfl
  events := rfl
  pushed := rfl
  newest := rfl
  ordered := List.Sublist.refl _
  counted := rfl
  displaced := by
    intro chunk member
    cases member

theorem Accounts.nodup_numbers
    (accounts : history.Accounts older settled batch) :
    (history.pushed.map PushedChunk.number).Nodup := by
  rw [accounts.numbered]
  exact List.nodup_range

/-- Numbers tell chunks apart. -/
theorem Accounts.eq_of_number (accounts : history.Accounts older settled batch)
    {first second : PushedChunk Chunk} (isFirst : first ∈ history.pushed)
    (isSecond : second ∈ history.pushed)
    (same : first.number = second.number) : first = second := by
  exact List.inj_on_of_nodup_map accounts.nodup_numbers isFirst isSecond same

theorem Accounts.nodup (accounts : history.Accounts older settled batch) :
    history.pushed.Nodup :=
  accounts.nodup_numbers.of_map

theorem Accounts.kept_sublist (accounts : history.Accounts older settled batch) :
    history.kept.Sublist history.pushed := by
  rw [kept, accounts.pushed, accounts.newest]
  exact accounts.ordered.append (List.drop_sublist _ _)

/-- A chunk that the last push displaced had enough newer ones behind it. -/
theorem isDisplaced_of_mem_batch
    (events : history.events = older ++ batch.map .push)
    {chunk : PushedChunk Chunk}
    (isLost : chunk ∈ batch.rdrop videoQueueCapacity) :
    history.IsDisplaced chunk := by
  obtain ⟨before, newer, split, enough⟩ :=
    DropOldest.exists_newer_of_mem_rdrop isLost
  refine ⟨older ++ before.map .push, [], newer, ?_, enough⟩
  rw [events, split]
  simp

theorem Accounts.push (accounts : history.Accounts older settled batch)
    {bytes : Chunk} (taken : history.step (.push bytes) = some next) :
    next.Accounts older settled (batch ++ [history.nextChunk bytes]) := by
  cases taken
  have newest : DropOldest.push videoQueueCapacity history.queue.inner
      (history.nextChunk bytes) =
        (batch ++ [history.nextChunk bytes]).rtake videoQueueCapacity := by
    rw [accounts.newest]
    exact DropOldest.push_rtake (by decide) batch _
  have events : history.events ++ [.push (history.nextChunk bytes)] =
      older ++ (batch ++ [history.nextChunk bytes]).map .push := by
    simp [accounts.events]
  constructor
  · simp only [List.map_append, accounts.numbered, List.length_append,
      List.map_cons, List.map_nil, List.length_singleton, List.range_succ,
      nextChunk]
  · exact events
  · simp [accounts.pushed]
  · exact newest
  · exact accounts.ordered
  · have room := DropOldest.makeRoom_eq_drop videoQueueCapacity
      history.queue.inner
    have counted := accounts.counted
    simp only [kept, List.length_append] at counted
    simp only [kept, VideoQueue.push, room, List.length_append,
      List.length_drop, List.length_singleton]
    omega
  · intro chunk member
    obtain ⟨isPushed, notKept⟩ := mem_dropped.mp member
    simp only [kept, VideoQueue.inner_push, newest] at notKept
    rcases List.mem_append.mp isPushed with wasPushed | isNew
    · by_cases wasQueued : chunk ∈ history.queue.inner
      · -- the push displaces it
        apply isDisplaced_of_mem_batch events
        have inBatch : chunk ∈ batch := by
          rw [accounts.newest] at wasQueued
          exact List.mem_of_mem_drop wasQueued
        have whole := List.mem_append_left [history.nextChunk bytes] inBatch
        rw [← List.take_append_drop
          ((batch ++ [history.nextChunk bytes]).length - videoQueueCapacity)
          (batch ++ [history.nextChunk bytes])] at whole
        rcases List.mem_append.mp whole with isLost | isHeld
        · exact isLost
        · exact absurd rfl
            (notKept chunk (List.mem_append_right _ isHeld))
      · have wasDropped : chunk ∈ history.dropped := by
          refine mem_dropped.mpr ⟨wasPushed, ?_⟩
          intro other member
          rcases List.mem_append.mp member with isDrained | isQueued
          · exact notKept other (List.mem_append_left _ isDrained)
          · intro same
            have isPushed := accounts.kept_sublist.subset member
            have isSame := accounts.eq_of_number isPushed wasPushed same
            rw [isSame] at isQueued
            exact wasQueued isQueued
        exact (accounts.displaced chunk wasDropped).mono rfl
    · rw [List.mem_singleton.mp isNew] at notKept
      have isHeld : history.nextChunk bytes ∈
          (batch ++ [history.nextChunk bytes]).rtake videoQueueCapacity := by
        rw [← newest]
        simp [DropOldest.push]
      exact absurd rfl (notKept _ (List.mem_append_right _ isHeld))

theorem Accounts.drain (accounts : history.Accounts older settled batch)
    (taken : history.step .drain = some next) :
    next.Accounts (history.events ++ [.drain]) history.pushed [] := by
  cases taken
  have sameKept : (history.drained ++ history.queue.inner) ++
      ([] : List (PushedChunk Chunk)) = history.kept := by
    rw [List.append_nil, kept]
  constructor
  · exact accounts.numbered
  · simp
  · simp
  · rfl
  · exact accounts.kept_sublist
  · simp only [kept, sameKept]
    exact accounts.counted
  · intro chunk member
    have wasDropped : chunk ∈ history.dropped := by
      rw [mem_dropped] at member ⊢
      simpa only [kept, sameKept] using member
    exact (accounts.displaced chunk wasDropped).mono rfl

theorem exists_accounts
    (reached : Transition.Reachable step (start : QueueHistory Chunk)
      history) :
    ∃ older settled batch, history.Accounts older settled batch := by
  apply reached.invariant
  · exact ⟨[], [], [], accounts_start⟩
  · rintro before label after ⟨older, settled, batch, accounts⟩ taken
    cases label with
    | push bytes => exact ⟨_, _, _, accounts.push taken⟩
    | drain => exact ⟨_, _, _, accounts.drain taken⟩

/-- What was pushed is what was kept and what was dropped. -/
theorem Accounts.perm (accounts : history.Accounts older settled batch) :
    history.pushed.Perm (history.kept ++ history.dropped) := by
  have isKept : history.kept.Perm (history.pushed.filter fun chunk =>
      decide (chunk.number ∈ history.kept.map PushedChunk.number)) := by
    apply (List.perm_ext_iff_of_nodup (accounts.kept_sublist.nodup accounts.nodup)
      (accounts.nodup.filter _)).mpr
    intro chunk
    rw [List.mem_filter]
    constructor
    · intro member
      refine ⟨accounts.kept_sublist.subset member, ?_⟩
      exact decide_eq_true (List.mem_map_of_mem member)
    · rintro ⟨isPushed, isNumber⟩
      obtain ⟨other, member, same⟩ :=
        List.mem_map.mp (of_decide_eq_true isNumber)
      have wasPushed := accounts.kept_sublist.subset member
      rw [← accounts.eq_of_number wasPushed isPushed same]
      exact member
  have split := List.filter_append_perm (fun chunk : PushedChunk Chunk =>
    decide (chunk.number ∈ history.kept.map PushedChunk.number))
    history.pushed
  apply split.symm.trans
  have isDropped : history.dropped = history.pushed.filter fun chunk =>
      !decide (chunk.number ∈ history.kept.map PushedChunk.number) := by
    unfold dropped
    simp only [decide_not]
  rw [isDropped]
  exact isKept.symm.append_right _

theorem Accounts.exact (accounts : history.Accounts older settled batch) :
    history.Exact := by
  have perm := accounts.perm
  have lengths := perm.length_eq
  have counted := accounts.counted
  rw [List.length_append] at lengths
  have inOrder : history.drained.Sublist history.pushed :=
    (List.sublist_append_left _ _).trans accounts.kept_sublist
  constructor
  · rw [accounts.newest, List.rtake, List.length_drop]
    omega
  · exact inOrder
  · exact inOrder.nodup accounts.nodup
  · exact perm
  · omega
  · exact accounts.displaced

/-- The video queue is an exact drop-oldest queue, in every interleaving of
pushes and drains. -/
theorem exact_along
    (execution : Transition.Execution step (start : QueueHistory Chunk)) :
    execution.Along Exact := by
  intro taken rest history _ runs
  obtain ⟨older, settled, batch, accounts⟩ := exists_accounts ⟨taken, runs⟩
  exact accounts.exact

end QueueHistory

end Rylus
