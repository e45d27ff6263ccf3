import Mathlib.Data.List.Perm.Basic
import Mathlib.Data.List.Nodup
import Rylus.VideoThreads

/-!
# Recycling pixel buffers

A captured frame is copied into a buffer, which travels with it through the
channel to `encode_thread` and comes back through a second channel of capacity
two.  `handle_video` takes a buffer for the next frame from its spare one, from
that channel, or allocates it.

Buffers are numbered in the order they are allocated.  The steps are those of
the two threads, with taking a buffer and giving it back as steps of their own.
-/

namespace Rylus

/-- The capacity of `buffer_return_tx`. -/
def bufferReturnCapacity : Nat := 2

/-- The two threads and where the buffers are: the spare one, the one of the
frame to be offered, of the frame in the channel, of the frame that
`encode_thread` works on, and those given back. -/
structure RecyclingThreads (F Recorder : Type*) where
  threads : VideoThreads F Recorder
  spareBuffer : Option Nat
  owned : Option Nat
  queued : Option Nat
  encoding : Option Nat
  returned : List Nat
  receiverGone : Bool
  allocated : Nat
  freed : Nat

inductive RecyclingStep (F Recorder : Type*) where
  | video (label : VideoStep F Recorder)
  | takeBuffer
  | returnBuffer

namespace RecyclingThreads

variable {F Recorder : Type*} [F64 F]

def start : RecyclingThreads F Recorder where
  threads := .start
  spareBuffer := none
  owned := none
  queued := none
  encoding := none
  returned := []
  receiverGone := false
  allocated := 0
  freed := 0

/-- All buffers there are. -/
def live (state : RecyclingThreads F Recorder) : List Nat :=
  state.spareBuffer.toList ++ state.owned.toList ++ state.queued.toList ++
    state.encoding.toList ++ state.returned

def captureEnded (state : RecyclingThreads F Recorder) : Bool :=
  match state.threads.capture.phase with
  | .ended => true
  | _ => false

def encodeEnded (state : RecyclingThreads F Recorder) : Bool :=
  match state.threads.encode with
  | .ended => true
  | _ => false

/-- `handle_video` is left, and what it holds is dropped. -/
def leave (state : RecyclingThreads F Recorder) :
    RecyclingThreads F Recorder :=
  { state with
    spareBuffer := none
    owned := none
    returned := []
    receiverGone := true
    freed := state.freed + (state.spareBuffer.toList ++
      state.owned.toList ++ state.returned).length }

/-- `handle_video` is left when `encode_thread` has been joined. -/
def leaveIfJoined (state : RecyclingThreads F Recorder) :
    RecyclingThreads F Recorder :=
  if state.captureEnded && state.encodeEnded then state.leave else state

/-- `spare_buffer.take()`, else `buffer_return_rx.try_recv()`, else a new
buffer. -/
def takeBuffer (state : RecyclingThreads F Recorder) :
    Option (RecyclingThreads F Recorder) :=
  match state.threads.capture.phase, state.owned with
  | .offering _, none =>
      match state.spareBuffer, state.returned with
      | some buffer, _ =>
          some { state with spareBuffer := none, owned := some buffer }
      | none, buffer :: rest =>
          some { state with returned := rest, owned := some buffer }
      | none, [] =>
          some { state with
            owned := some state.allocated
            allocated := state.allocated + 1 }
  | _, _ => none

/-- `buffer_return_tx.try_send(pixel_data.into_buffer())`; a buffer that
finds no room or no receiver is freed. -/
def returnBuffer (state : RecyclingThreads F Recorder) :
    Option (RecyclingThreads F Recorder) :=
  match state.threads.encode, state.encoding with
  | .waiting, some buffer =>
      if !state.receiverGone ∧
          state.returned.length < bufferReturnCapacity then
        some { state with
          encoding := none
          returned := state.returned ++ [buffer] }
      else
        some { state with encoding := none, freed := state.freed + 1 }
  | _, _ => none

/-- `encode_tx.try_send` of a frame with its buffer. -/
def offer (state : RecyclingThreads F Recorder) :
    Option (RecyclingThreads F Recorder) :=
  match state.owned with
  | none => none
  | some buffer =>
      (state.threads.step .offer).map fun threads =>
        let next := { state with threads := threads, owned := none }
        match state.threads.encode, state.threads.channel with
        | .ended, _ => { next with freed := state.freed + 1 }
        | _, none => { next with queued := some buffer }
        | _, some _ => { next with spareBuffer := some buffer }

/-- `encode_thread` goes on once it has given back the last buffer. -/
def onceReturned (state : RecyclingThreads F Recorder)
    (label : VideoStep F Recorder) : Option (RecyclingThreads F Recorder) :=
  match state.encoding with
  | some _ => none
  | none =>
      (state.threads.step label).map fun threads =>
        { state with threads := threads }

def step (state : RecyclingThreads F Recorder) :
    RecyclingStep F Recorder → Option (RecyclingThreads F Recorder)
  | .takeBuffer => state.takeBuffer
  | .returnBuffer => state.returnBuffer
  | .video (.command command) =>
      (state.threads.step (.command command)).map fun threads =>
        let next := { state with threads := threads }
        -- a command ends the thread by a panic only, which waits for no one
        if next.captureEnded then next.leave else next
  | .video .offer => state.offer.map leaveIfJoined
  | .video .dequeue =>
      (state.onceReturned .dequeue).map fun next =>
        { next with encoding := state.queued, queued := none }
  | .video .finish => (state.onceReturned .finish).map leaveIfJoined
  | .video label =>
      (state.threads.step label).map fun threads =>
        leaveIfJoined { state with threads := threads }

variable {state next : RecyclingThreads F Recorder}
  {label : RecyclingStep F Recorder}

/-- A frame to be offered leaves no spare buffer, and a buffer is queued with
a command only. -/
structure Placed (state : RecyclingThreads F Recorder) : Prop where
  spare : state.owned ≠ none → state.spareBuffer = none
  queued : state.threads.channel = none → state.queued = none

/-- Buffers change their places, or are freed. -/
def Moves (state next : RecyclingThreads F Recorder) : Prop :=
  ∃ lost : List Nat, state.live.Perm (next.live ++ lost) ∧
    next.freed = state.freed + lost.length ∧
    next.allocated = state.allocated

/-- A new buffer; there was no other to take. -/
structure Allocates (state next : RecyclingThreads F Recorder) : Prop where
  spare : state.spareBuffer = none
  owned : state.owned = none
  returned : state.returned = []
  live : next.live.Perm (state.allocated :: state.live)
  freed : next.freed = state.freed
  allocated : next.allocated = state.allocated + 1

omit [F64 F] in
theorem moves_of_perm (same : state.live.Perm next.live)
    (freed : next.freed = state.freed)
    (allocated : next.allocated = state.allocated) : state.Moves next :=
  ⟨[], by simpa using same, by simpa using freed, allocated⟩

omit [F64 F] in
theorem Moves.trans {middle : RecyclingThreads F Recorder}
    (first : state.Moves middle) (second : middle.Moves next) :
    state.Moves next := by
  obtain ⟨lost, same, freed, allocated⟩ := first
  obtain ⟨lost', same', freed', allocated'⟩ := second
  refine ⟨lost' ++ lost, ?_, ?_, allocated'.trans allocated⟩
  · rw [← List.append_assoc]
    exact same.trans (same'.append_right lost)
  · rw [freed', freed, List.length_append]
    omega

omit [F64 F] in
theorem moves_leave (state : RecyclingThreads F Recorder) :
    state.Moves state.leave := by
  refine ⟨state.spareBuffer.toList ++ state.owned.toList ++
    state.returned, ?_, rfl, rfl⟩
  simp only [live, leave, Option.toList_none, List.nil_append,
    List.append_nil, List.append_assoc]
  grind

omit [F64 F] in
theorem moves_leaveIfJoined (state : RecyclingThreads F Recorder) :
    state.Moves state.leaveIfJoined := by
  unfold leaveIfJoined
  split
  · exact state.moves_leave
  · exact moves_of_perm .rfl rfl rfl

omit [F64 F] in
theorem takeBuffer_cases (taken : state.takeBuffer = some next) :
    state.Moves next ∨ state.Allocates next := by
  unfold takeBuffer at taken
  split at taken
  · rename_i unowned
    split at taken <;> cases taken
    · rename_i spare
      refine .inl (moves_of_perm ?_ rfl rfl)
      simp [live, unowned, spare]
    · rename_i spare returned
      refine .inl (moves_of_perm ?_ rfl rfl)
      simp only [live, unowned, spare, returned, Option.toList_none,
        Option.toList_some]
      grind
    · rename_i spare returned
      refine .inr ⟨spare, unowned, returned, ?_, rfl, rfl⟩
      simp [live, unowned, spare, returned]
  · cases taken

omit [F64 F] in
theorem moves_of_returnBuffer (given : state.returnBuffer = some next) :
    state.Moves next := by
  unfold returnBuffer at given
  split at given
  · rename_i buffer _ encoding
    split at given <;> cases given
    · refine moves_of_perm ?_ rfl rfl
      simp only [live, encoding, Option.toList_none, Option.toList_some]
      grind
    · refine ⟨[buffer], ?_, rfl, rfl⟩
      simp only [live, encoding, Option.toList_none, Option.toList_some]
      grind
  · cases given

theorem moves_of_offer (placed : state.Placed)
    (offered : state.offer = some next) : state.Moves next := by
  unfold offer at offered
  split at offered
  · cases offered
  · rename_i buffer owned
    have spare : state.spareBuffer = none := placed.spare (by simp [owned])
    rw [Option.map_eq_some_iff] at offered
    obtain ⟨threads, -, rfl⟩ := offered
    dsimp only
    split
    · refine ⟨[buffer], ?_, rfl, rfl⟩
      simp only [live, owned, Option.toList_none, Option.toList_some]
      grind
    · rename_i room _
      refine moves_of_perm ?_ rfl rfl
      simp [live, owned, placed.queued room]
    · refine moves_of_perm ?_ rfl rfl
      simp [live, owned, spare]

/-- What a step does to the buffers. -/
theorem step_moves (placed : state.Placed)
    (taken : state.step label = some next) :
    state.Moves next ∨ state.Allocates next := by
  cases label with
  | takeBuffer => exact takeBuffer_cases taken
  | returnBuffer => exact .inl (moves_of_returnBuffer taken)
  | video label =>
      have relabelled : ∀ threads, state.Moves { state with threads } :=
        fun _ => moves_of_perm .rfl rfl rfl
      left
      cases label <;> simp only [step, Option.map_eq_some_iff] at taken
      case command command =>
        obtain ⟨threads, -, rfl⟩ := taken
        split
        · exact (relabelled threads).trans (moves_leave _)
        · exact relabelled threads
      case offer =>
        obtain ⟨middle, offered, rfl⟩ := taken
        exact (moves_of_offer placed offered).trans (moves_leaveIfJoined _)
      case dequeue =>
        obtain ⟨middle, returned, rfl⟩ := taken
        unfold onceReturned at returned
        split at returned
        · cases returned
        · rename_i encoding
          rw [Option.map_eq_some_iff] at returned
          obtain ⟨threads, -, rfl⟩ := returned
          exact moves_of_perm (by simp [live, encoding]) rfl rfl
      case finish =>
        obtain ⟨middle, returned, rfl⟩ := taken
        unfold onceReturned at returned
        split at returned
        · cases returned
        · rw [Option.map_eq_some_iff] at returned
          obtain ⟨threads, -, rfl⟩ := returned
          exact (relabelled threads).trans (moves_leaveIfJoined _)
      all_goals
        obtain ⟨threads, -, rfl⟩ := taken
        exact (relabelled threads).trans (moves_leaveIfJoined _)

/-- Only `encode_thread` takes commands out of the channel. -/
theorem channel_of_step {threads after : VideoThreads F Recorder}
    {label : VideoStep F Recorder} (taken : threads.step label = some after)
    (other : label ≠ .dequeue) (empty : after.channel = none) :
    threads.channel = none := by
  rcases VideoThreads.step_cases taken with moved | moved
  · cases moved <;> first | exact empty | exact ‹_› | cases empty
  · cases moved <;> first | exact empty | exact absurd rfl other

/-- An offer to a running thread leaves the channel full. -/
theorem channel_of_offer {threads after : VideoThreads F Recorder}
    (taken : threads.step .offer = some after)
    (running : threads.encode = .ended → False) : after.channel ≠ none := by
  simp only [VideoThreads.step, VideoThreads.captureStep] at taken
  split at taken
  · split at taken <;> cases taken
    · exact absurd ‹_› running
    · simp
    · rename_i full _
      simp [full]
  · cases taken

omit [F64 F] in
theorem placed_leave (placed : state.Placed) : state.leave.Placed :=
  ⟨fun _ => rfl, placed.queued⟩

omit [F64 F] in
theorem placed_leaveIfJoined (placed : state.Placed) :
    state.leaveIfJoined.Placed := by
  unfold leaveIfJoined
  split
  · exact placed_leave placed
  · exact placed

theorem placed_offer (placed : state.Placed)
    (offered : state.offer = some next) : next.Placed := by
  unfold offer at offered
  split at offered
  · cases offered
  · rw [Option.map_eq_some_iff] at offered
    obtain ⟨threads, stepped, rfl⟩ := offered
    have channel := channel_of_step stepped (by simp)
    dsimp only
    split
    · exact ⟨fun owned => absurd rfl owned, fun empty =>
        placed.queued (channel empty)⟩
    · rename_i running
      refine ⟨fun owned => absurd rfl owned, fun empty => ?_⟩
      exact absurd empty (channel_of_offer stepped running)
    · rename_i full _
      refine ⟨fun owned => absurd rfl owned, fun empty => ?_⟩
      rw [channel empty] at full
      cases full

theorem placed_step (placed : state.Placed)
    (taken : state.step label = some next) : next.Placed := by
  cases label with
  | takeBuffer =>
      simp only [step, takeBuffer] at taken
      split at taken
      · split at taken <;> cases taken
        · exact ⟨fun _ => rfl, placed.queued⟩
        · exact ⟨fun _ => ‹_›, placed.queued⟩
        · exact ⟨fun _ => ‹_›, placed.queued⟩
      · cases taken
  | returnBuffer =>
      simp only [step, returnBuffer] at taken
      split at taken
      · split at taken <;> cases taken <;> exact ⟨placed.spare, placed.queued⟩
      · cases taken
  | video label =>
      cases label <;> simp only [step, Option.map_eq_some_iff] at taken
      case command command =>
        obtain ⟨threads, stepped, rfl⟩ := taken
        have relabelled : Placed { state with threads } :=
          ⟨placed.spare, fun empty =>
            placed.queued (channel_of_step stepped (by simp) empty)⟩
        split
        · exact placed_leave relabelled
        · exact relabelled
      case offer =>
        obtain ⟨middle, offered, rfl⟩ := taken
        exact placed_leaveIfJoined (placed_offer placed offered)
      case dequeue =>
        obtain ⟨middle, returned, rfl⟩ := taken
        unfold onceReturned at returned
        split at returned
        · cases returned
        · rw [Option.map_eq_some_iff] at returned
          obtain ⟨threads, -, rfl⟩ := returned
          exact ⟨placed.spare, fun _ => rfl⟩
      case finish =>
        obtain ⟨middle, returned, rfl⟩ := taken
        unfold onceReturned at returned
        split at returned
        · cases returned
        · rw [Option.map_eq_some_iff] at returned
          obtain ⟨threads, stepped, rfl⟩ := returned
          exact placed_leaveIfJoined ⟨placed.spare, fun empty =>
            placed.queued (channel_of_step stepped (by simp) empty)⟩
      all_goals
        obtain ⟨threads, stepped, rfl⟩ := taken
        exact placed_leaveIfJoined ⟨placed.spare, fun empty =>
          placed.queued (channel_of_step stepped (by simp) empty)⟩

/-- Every buffer is in one place, at most three exist, and each one allocated
exists or has been freed. -/
structure Recycles (state : RecyclingThreads F Recorder) : Prop where
  distinct : state.live.Nodup
  numbered : ∀ buffer ∈ state.live, buffer < state.allocated
  few : state.live.length ≤ 3
  counted : state.allocated = state.live.length + state.freed

omit [F64 F] in
theorem recycles_of_moves (recycles : state.Recycles)
    (moved : state.Moves next) : next.Recycles := by
  obtain ⟨lost, same, freed, allocated⟩ := moved
  have length := same.length_eq
  rw [List.length_append] at length
  constructor
  · have distinct := same.nodup_iff.mp recycles.distinct
    exact (List.nodup_append.mp distinct).1
  · intro buffer member
    rw [allocated]
    exact recycles.numbered buffer (same.mem_iff.mpr (by simp [member]))
  · have few := recycles.few
    omega
  · rw [allocated, recycles.counted, freed]
    omega

omit [F64 F] in
/-- A buffer is allocated only while at most one waits in the channel and one
is being encoded. -/
theorem recycles_of_allocates (recycles : state.Recycles)
    (allocates : state.Allocates next) : next.Recycles := by
  have length := allocates.live.length_eq
  rw [List.length_cons] at length
  have others : state.live.length ≤ 2 := by
    simp only [live, allocates.spare, allocates.owned, allocates.returned]
    cases state.queued <;> cases state.encoding <;> simp
  constructor
  · refine allocates.live.nodup_iff.mpr (List.nodup_cons.mpr
      ⟨fun member => ?_, recycles.distinct⟩)
    exact absurd (recycles.numbered _ member) (lt_irrefl _)
  · intro buffer member
    rw [allocates.allocated]
    rcases List.mem_cons.mp (allocates.live.mem_iff.mp member) with
      rfl | earlier
    · exact Nat.lt_succ_self _
    · exact Nat.lt_succ_of_lt (recycles.numbered buffer earlier)
  · omega
  · rw [allocates.allocated, allocates.freed, recycles.counted]
    omega

omit [F64 F] in
@[simp]
theorem leave_receiverGone (state : RecyclingThreads F Recorder) :
    state.leave.receiverGone = true :=
  rfl

omit [F64 F] in
theorem freed_leaveIfJoined
    (stays : state.leaveIfJoined.receiverGone = false) :
    state.leaveIfJoined.freed = state.freed := by
  unfold leaveIfJoined at stays ⊢
  split at stays
  · cases stays
  · rename_i running
    rw [if_neg running]

/-- While `handle_video` runs, a buffer is freed only if it is given back to a
channel that is full already. -/
def FreesOnlySurplus (state : RecyclingThreads F Recorder)
    (label : RecyclingStep F Recorder) : Prop :=
  ∀ next, state.step label = some next → next.receiverGone = false →
    next.freed ≠ state.freed →
      label = .returnBuffer ∧ state.returned.length = bufferReturnCapacity

omit [F64 F] in
theorem surplus_of_returnBuffer (recycles : state.Recycles)
    (given : state.returnBuffer = some next)
    (stays : next.receiverGone = false) (changed : next.freed ≠ state.freed) :
    state.returned.length = bufferReturnCapacity := by
  unfold returnBuffer at given
  split at given
  · rename_i buffer _ encoding
    split at given <;> cases given
    · exact absurd rfl changed
    · rename_i noRoom
      have few := recycles.few
      simp only [live, encoding, List.length_append, Option.toList_some,
        List.length_singleton] at few
      have gone : state.receiverGone = false := stays
      simp only [gone, Bool.not_false, true_and, not_lt] at noRoom
      unfold bufferReturnCapacity at noRoom ⊢
      omega
  · cases given

/-- A frame is lost to an encode thread that has ended only by leaving. -/
theorem freed_offer (offered : state.offer = some next)
    (stays : next.leaveIfJoined.receiverGone = false) :
    next.freed = state.freed := by
  unfold offer at offered
  split at offered
  · cases offered
  · rw [Option.map_eq_some_iff] at offered
    obtain ⟨threads, stepped, rfl⟩ := offered
    dsimp only at stays ⊢
    split at stays
    · rename_i gone
      simp only [VideoThreads.step, VideoThreads.captureStep] at stepped
      split at stepped
      · simp only [gone, Option.some.injEq] at stepped
        subst stepped
        simp [leaveIfJoined, captureEnded, encodeEnded] at stays
      · cases stepped
    · rfl
    · rfl

theorem freesOnlySurplus (recycles : state.Recycles)
    (label : RecyclingStep F Recorder) : state.FreesOnlySurplus label := by
  intro next taken stays changed
  cases label with
  | takeBuffer =>
      rcases takeBuffer_cases taken with moved | allocates
      · simp only [step, takeBuffer] at taken
        split at taken
        · split at taken <;> cases taken <;> exact absurd rfl changed
        · cases taken
      · exact absurd allocates.freed changed
  | returnBuffer =>
      exact ⟨rfl, surplus_of_returnBuffer recycles taken stays changed⟩
  | video label =>
      exfalso
      cases label <;> simp only [step, Option.map_eq_some_iff] at taken
      case command command =>
        obtain ⟨threads, -, rfl⟩ := taken
        split at stays
        · cases stays
        · rename_i running
          rw [if_neg running] at changed
          exact changed rfl
      case offer =>
        obtain ⟨middle, offered, rfl⟩ := taken
        rw [freed_leaveIfJoined stays] at changed
        exact changed (freed_offer offered stays)
      case dequeue =>
        obtain ⟨middle, returned, rfl⟩ := taken
        unfold onceReturned at returned
        split at returned
        · cases returned
        · rw [Option.map_eq_some_iff] at returned
          obtain ⟨threads, -, rfl⟩ := returned
          exact changed rfl
      case finish =>
        obtain ⟨middle, returned, rfl⟩ := taken
        rw [freed_leaveIfJoined stays] at changed
        unfold onceReturned at returned
        split at returned
        · cases returned
        · rw [Option.map_eq_some_iff] at returned
          obtain ⟨threads, -, rfl⟩ := returned
          exact changed rfl
      all_goals
        obtain ⟨threads, -, rfl⟩ := taken
        rw [freed_leaveIfJoined stays] at changed
        exact changed rfl

/-- In every interleaving no buffer is in two places, at most three exist,
and while `handle_video` runs one is given up only if two others wait to be
used again. -/
theorem recycles_along
    (execution : Transition.Execution step
      (start : RecyclingThreads F Recorder)) :
    execution.Along Recycles ∧ execution.StepsMeet FreesOnlySurplus := by
  have kept : execution.Along fun state =>
      state.Placed ∧ state.Recycles := by
    refine execution.along_of_kept
      (fun state => state.Placed ∧ state.Recycles) ?_ ?_
    · constructor
      · exact ⟨fun _ => rfl, fun _ => rfl⟩
      · exact ⟨by simp [start, live], by simp [start, live],
          by simp [start, live], rfl⟩
    · rintro before label after ⟨placed, recycles⟩ taken
      refine ⟨placed_step placed taken, ?_⟩
      rcases step_moves placed taken with moved | allocates
      · exact recycles_of_moves recycles moved
      · exact recycles_of_allocates recycles allocates
  constructor
  · exact fun taken rest state split runs => (kept taken rest state split runs).2
  · intro taken label rest state split runs
    exact freesOnlySurplus (kept taken (label :: rest) state split runs).2 label

end RecyclingThreads

end Rylus
