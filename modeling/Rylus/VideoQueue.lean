import Rylus.DropOldest

/-!
# The video queue

The encode thread pushes chunks, the writer task drains them.  Pushing never
blocks: a full queue drops its oldest chunk.
-/

namespace Rylus

/-- `VIDEO_QUEUE_CAPACITY`. -/
def videoQueueCapacity : Nat := 4

/-- The one future the writer task creates with `notify.notified()`. -/
inductive Waiter where
  | none
  | registered
  | notified
  deriving DecidableEq

/-- `tokio::sync::Notify` with at most one waiter. -/
structure Notify where
  permit : Bool
  waiter : Waiter
  deriving DecidableEq

namespace Notify

def new : Notify := ⟨false, .none⟩

/-- Notify the registered waiter, or store the permit. -/
def notifyOne (notify : Notify) : Notify :=
  match notify.waiter with
  | .registered => { notify with waiter := .notified }
  | .none | .notified => { notify with permit := true }

/-- Poll the future: whether it is ready, and what it leaves behind. -/
def pollNotified (notify : Notify) : Bool × Notify :=
  match notify.waiter with
  | .none =>
      if notify.permit then (true, { notify with permit := false })
      else (false, { notify with waiter := .registered })
  | .registered => (false, notify)
  | .notified => (true, { notify with waiter := .none })

/-- Drop the future without having polled it to completion; a notification
it has received is passed on. -/
def dropNotified (notify : Notify) : Notify :=
  match notify.waiter with
  | .none => notify
  | .registered => { notify with waiter := .none }
  | .notified => { permit := true, waiter := .none }

end Notify

structure VideoQueue (Chunk : Type*) where
  inner : List Chunk
  notify : Notify
  dropped : Nat
  closed : Bool

namespace VideoQueue

variable {Chunk : Type*}

def new : VideoQueue Chunk := ⟨[], .new, 0, false⟩

def push (queue : VideoQueue Chunk) (bytes : Chunk) : VideoQueue Chunk :=
  let room := DropOldest.makeRoom videoQueueCapacity queue.inner
  { queue with
    inner := room ++ [bytes]
    dropped := queue.dropped + (queue.inner.length - room.length)
    notify := queue.notify.notifyOne }

def close (queue : VideoQueue Chunk) : VideoQueue Chunk :=
  { queue with closed := true, notify := queue.notify.notifyOne }

def drain (queue : VideoQueue Chunk) : List Chunk × VideoQueue Chunk :=
  (queue.inner, { queue with inner := [] })

theorem inner_push (queue : VideoQueue Chunk) (bytes : Chunk) :
    (queue.push bytes).inner =
      DropOldest.push videoQueueCapacity queue.inner bytes :=
  rfl

theorem mem_inner_push {queue : VideoQueue Chunk} {bytes chunk : Chunk}
    (member : chunk ∈ (queue.push bytes).inner) :
    chunk ∈ queue.inner ∨ chunk = bytes := by
  rw [inner_push, DropOldest.push, DropOldest.makeRoom_eq_drop] at member
  rcases List.mem_append.mp member with old | new
  · exact Or.inl (List.mem_of_mem_drop old)
  · exact Or.inr (List.mem_singleton.mp new)

end VideoQueue

end Rylus
