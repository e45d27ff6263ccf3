import Rylus.WriterTask

/-!
# The wake-ups of the writer task

Pushes and the reader's `close` both reach the writer through one `Notify`,
which stores at most one permit.  The writer drains the queue before it looks
at the `Notify`, and it looks at the closed flag only when notified.
-/

namespace Rylus

namespace Notify

/-- Wake-ups that have not been consumed. -/
def pending (notify : Notify) : Nat :=
  notify.permit.toNat + if notify.waiter = .notified then 1 else 0

/-- A future is registered only when there was no permit to take. -/
def IsExclusive (notify : Notify) : Prop :=
  notify.waiter = .registered → notify.permit = false

variable {notify : Notify}

theorem pending_pos :
    0 < notify.pending ↔ notify.permit = true ∨ notify.waiter = .notified := by
  obtain ⟨permit, waiter⟩ := notify
  cases permit <;> cases waiter <;> simp [pending]

theorem isExclusive_notifyOne (exclusive : notify.IsExclusive) :
    notify.notifyOne.IsExclusive := by
  obtain ⟨permit, waiter⟩ := notify
  cases waiter <;> simp_all [IsExclusive, notifyOne]

/-- Someone who notifies leaves a wake-up behind. -/
theorem pending_notifyOne (notify : Notify) : 0 < notify.notifyOne.pending := by
  obtain ⟨permit, waiter⟩ := notify
  cases waiter <;> simp [pending, notifyOne]

/-- It is a second one if a future was created and has one already. -/
theorem pending_notifyOne_of_ne_none (created : notify.waiter ≠ .none)
    (already : 0 < notify.pending) (exclusive : notify.IsExclusive) :
    1 < notify.notifyOne.pending := by
  obtain ⟨permit, waiter⟩ := notify
  cases waiter <;> simp_all [pending, notifyOne, IsExclusive]

theorem waiter_notifyOne :
    notify.notifyOne.waiter = .none ↔ notify.waiter = .none := by
  obtain ⟨permit, waiter⟩ := notify
  cases waiter <;> simp [notifyOne]

/-- A poll that is ready consumes one wake-up and the future. -/
theorem pollNotified_ready (ready : notify.pollNotified.1 = true) :
    notify.pollNotified.2.waiter = .none ∧
      notify.pending = notify.pollNotified.2.pending + 1 := by
  obtain ⟨permit, waiter⟩ := notify
  cases permit <;> cases waiter <;> simp_all [pending, pollNotified]

/-- A poll that is not ready registers the future; there was no wake-up. -/
theorem pollNotified_pending (notReady : notify.pollNotified.1 = false)
    (exclusive : notify.IsExclusive) :
    notify.pending = 0 ∧ notify.pollNotified.2 = ⟨false, .registered⟩ := by
  obtain ⟨permit, waiter⟩ := notify
  cases permit <;> cases waiter <;>
    simp_all [pending, pollNotified, IsExclusive]

/-- Dropping the future keeps a wake-up, if there was any. -/
theorem dropNotified_spec (notify : Notify) :
    notify.dropNotified.waiter = .none ∧
      (0 < notify.pending → 0 < notify.dropNotified.pending) := by
  obtain ⟨permit, waiter⟩ := notify
  cases waiter <;> simp [pending, dropNotified]

/-- Neither registering nor dropping the future makes a wake-up. -/
theorem pending_pollNotified_le (notify : Notify) :
    notify.pollNotified.2.pending ≤ notify.pending := by
  obtain ⟨permit, waiter⟩ := notify
  cases permit <;> cases waiter <;> simp [pending, pollNotified]

theorem pending_dropNotified_le (notify : Notify) :
    notify.dropNotified.pending ≤ notify.pending := by
  obtain ⟨permit, waiter⟩ := notify
  cases permit <;> cases waiter <;> simp [pending, dropNotified]

end Notify

/-- A step of a sender, of the reader's epilogue, or of the writer. -/
inductive ConnectionStep (Message Chunk : Type*) where
  | sendVideo (bytes : Chunk)
  | sendMessage (message : Message)
  | dropSenders
  | closeQueue
  | writer (label : WriterStep)

def ConnectionStep.IsWriter {Message Chunk : Type*} :
    ConnectionStep Message Chunk → Prop
  | .writer _ => True
  | .sendVideo _ | .sendMessage _ | .dropSenders | .closeQueue => False

/-- The writer is inside its `select!`. -/
def WriterTask.IsSelecting {Message Chunk : Type*} :
    WriterTask Message Chunk → Prop
  | .polling | .receiving | .parked => True
  | .draining | .sending _ _ | .writing _ | .ended => False

/-- The future of `notified()` has been polled, so that it is registered or
notified. -/
def WriterTask.HasPolled {Message Chunk : Type*} :
    WriterTask Message Chunk → Prop
  | .receiving | .parked => True
  | .draining | .sending _ _ | .polling | .writing _ | .ended => False

namespace Connection

variable {Message Chunk : Type*}

/-- Senders are dropped once, and the reader closes the queue once. -/
def interleave (connection : Connection Message Chunk) :
    ConnectionStep Message Chunk → Option (Connection Message Chunk)
  | .sendVideo bytes =>
      if connection.sendersAlive then some (connection.sendVideo bytes)
      else none
  | .sendMessage message =>
      if connection.sendersAlive then connection.sendMessage message
      else none
  | .dropSenders =>
      if connection.sendersAlive then
        some { connection with sendersAlive := false }
      else
        none
  | .closeQueue =>
      if connection.queue.closed then none
      else some { connection with queue := connection.queue.close }
  | .writer label => connection.step label

/-- What a step of the connection is. -/
inductive Interleaved (connection : Connection Message Chunk) :
    ConnectionStep Message Chunk → Connection Message Chunk → Prop
  | sendVideo {bytes : Chunk} (alive : connection.sendersAlive = true) :
      Interleaved connection (.sendVideo bytes) (connection.sendVideo bytes)
  | sendMessage {message : Message} {next : Connection Message Chunk}
      (sent : connection.sendMessage message = some next) :
      Interleaved connection (.sendMessage message) next
  | dropSenders :
      Interleaved connection .dropSenders
        { connection with sendersAlive := false }
  | closeQueue :
      Interleaved connection .closeQueue
        { connection with queue := connection.queue.close }
  | writer {label : WriterStep} {next : Connection Message Chunk}
      (taken : connection.step label = some next) :
      Interleaved connection (.writer label) next

theorem interleaved_of_interleave {connection next : Connection Message Chunk}
    {label : ConnectionStep Message Chunk}
    (moved : connection.interleave label = some next) :
    connection.Interleaved label next := by
  cases label with
  | sendVideo bytes =>
      simp only [interleave] at moved
      split at moved <;> cases moved
      exact .sendVideo ‹_›
  | sendMessage message =>
      simp only [interleave] at moved
      split at moved
      · exact .sendMessage moved
      · cases moved
  | dropSenders =>
      simp only [interleave] at moved
      split at moved <;> cases moved
      exact .dropSenders
  | closeQueue =>
      simp only [interleave] at moved
      split at moved <;> cases moved
      exact .closeQueue
  | writer label => exact .writer moved

/-- A parked writer with frames to send is about to be woken. -/
def LeavesNoFrame (connection : Connection Message Chunk) : Prop :=
  connection.writer = .parked → connection.queue.inner ≠ [] →
    connection.queue.notify.permit = true ∨
      connection.queue.notify.waiter = .notified

/-- A parked writer with nothing left to send after `close` is about to be
woken. -/
def ReleasesWriter (connection : Connection Message Chunk) : Prop :=
  connection.writer = .parked → connection.queue.closed = true →
    connection.queue.inner = [] →
      connection.queue.notify.permit = true ∨
        connection.queue.notify.waiter = .notified

/-- The writer has found the queue empty and has not polled `notified()`
since. -/
def IsUnregistered (connection : Connection Message Chunk) : Prop :=
  connection.writer = .polling ∧ connection.queue.notify.waiter = .none

/-- A push and `close` do not share the one permit of an unregistered
writer. -/
def KeepsWakeups (connection : Connection Message Chunk) :
    ConnectionStep Message Chunk → Prop
  | .sendVideo _ =>
      connection.queue.closed = true → ¬ connection.IsUnregistered
  | .closeQueue =>
      connection.sendersAlive = true → connection.IsUnregistered →
        connection.queue.inner = []
  | .sendMessage _ | .dropSenders | .writer _ => True

/-- What holds in every interleaving. -/
structure Notifying (connection : Connection Message Chunk) : Prop where
  exclusive : connection.queue.notify.IsExclusive
  dropped : ¬ connection.writer.IsSelecting →
    connection.queue.notify.waiter = .none
  polled : connection.writer.HasPolled →
    connection.queue.notify.waiter ≠ .none
  frames : connection.writer.IsSelecting → connection.queue.inner ≠ [] →
    0 < connection.queue.notify.pending

/-- After `close` a wake-up is left, also when the next one is consumed by
frames. -/
structure Releasing (connection : Connection Message Chunk) : Prop where
  notifying : connection.Notifying
  left : connection.queue.closed = true → connection.sendersAlive = true →
    connection.writer ≠ .ended →
      0 < connection.queue.notify.pending ∧
        (connection.writer.IsSelecting → connection.queue.inner ≠ [] →
          1 < connection.queue.notify.pending)
  parked : connection.queue.closed = true → connection.writer = .parked →
    0 < connection.queue.notify.pending

variable {connection next : Connection Message Chunk}

theorem leavesNoFrame_of_notifying (holds : connection.Notifying) :
    connection.LeavesNoFrame := by
  intro parked frames
  apply Notify.pending_pos.mp
  apply holds.frames _ frames
  rw [parked]
  trivial

theorem releasesWriter_of_releasing (holds : connection.Releasing) :
    connection.ReleasesWriter := by
  intro parked closed _
  exact Notify.pending_pos.mp (holds.parked closed parked)

theorem notifying_new : (new : Connection Message Chunk).Notifying where
  exclusive := by
    intro registered
    cases registered
  dropped := fun _ => rfl
  polled := False.elim
  frames := False.elim

theorem releasing_new : (new : Connection Message Chunk).Releasing where
  notifying := notifying_new
  left := by
    intro closed
    cases closed
  parked := by
    intro closed
    cases closed

/-- `notify_one` leaves a wake-up, whatever the queue holds by then. -/
theorem Notifying.notifyOne (holds : connection.Notifying)
    (same : next.writer = connection.writer)
    (notified : next.queue.notify = connection.queue.notify.notifyOne) :
    next.Notifying := by
  constructor
  · rw [notified]
    exact Notify.isExclusive_notifyOne holds.exclusive
  · intro leaves
    rw [same] at leaves
    rw [notified, Notify.waiter_notifyOne]
    exact holds.dropped leaves
  · intro polled
    rw [same] at polled
    rw [notified, Ne, Notify.waiter_notifyOne]
    exact holds.polled polled
  · intro _ _
    rw [notified]
    exact Notify.pending_notifyOne _

/-- A step that touches neither the writer nor the queue. -/
theorem Notifying.congr (holds : connection.Notifying)
    (writer : next.writer = connection.writer)
    (queue : next.queue = connection.queue) : next.Notifying := by
  constructor
  · rw [queue]
    exact holds.exclusive
  · rw [writer, queue]
    exact holds.dropped
  · rw [writer, queue]
    exact holds.polled
  · rw [writer, queue]
    exact holds.frames

/-- Outside its `select!` the writer has no future, and no wake-up is
needed. -/
theorem notifying_of_not_isSelecting
    (outside : ¬ next.writer.IsSelecting)
    (dropped : next.queue.notify.waiter = .none) : next.Notifying := by
  constructor
  · intro registered
    rw [dropped] at registered
    cases registered
  · exact fun _ => dropped
  · intro polled
    revert outside polled
    cases next.writer <;> simp [WriterTask.IsSelecting, WriterTask.HasPolled]
  · intro inside
    exact absurd inside outside

theorem Notifying.step (holds : connection.Notifying) {label : WriterStep}
    (moved : connection.step label = some next) : next.Notifying := by
  -- outside the `select!` there is no future to begin with
  have dropped {writer : WriterTask Message Chunk}
      (stands : connection.writer = writer) (outside : ¬ writer.IsSelecting) :
      connection.queue.notify.waiter = .none := by
    apply holds.dropped
    rw [stands]
    exact outside
  cases writerMove_of_step moved with
  | foundEmpty draining =>
      refine ⟨holds.exclusive, fun _ => dropped draining id, False.elim, ?_⟩
      intro _ frames
      exact absurd rfl frames
  | drained _ _ draining =>
      exact notifying_of_not_isSelecting id (dropped draining id)
  | wroteLast _ sending | wroteChunk _ _ _ sending =>
      exact notifying_of_not_isSelecting id (dropped sending id)
  | wroteText _ writing =>
      exact notifying_of_not_isSelecting id (dropped writing id)
  | failed writing =>
      refine notifying_of_not_isSelecting id (dropped rfl ?_)
      revert writing
      cases connection.writer <;>
        simp [WriterTask.IsWriting, WriterTask.IsSelecting]
  | notified _ ready | released _ ready =>
      obtain ⟨consumed, -⟩ := Notify.pollNotified_ready ready
      exact notifying_of_not_isSelecting id consumed
  | registered polling notReady =>
      obtain ⟨nonePending, registered⟩ :=
        Notify.pollNotified_pending notReady holds.exclusive
      constructor
      · intro _
        simp only [registered]
      · exact fun outside => absurd trivial outside
      · intro _
        simp [registered]
      · intro _ frames
        have pending := holds.frames (by rw [polling]; trivial) frames
        omega
  | received | disconnected =>
      obtain ⟨consumed, -⟩ := connection.queue.notify.dropNotified_spec
      exact notifying_of_not_isSelecting id consumed
  | parks receiving =>
      refine ⟨holds.exclusive, fun outside => absurd trivial outside,
        fun _ => ?_, fun _ => ?_⟩
      · apply holds.polled
        rw [receiving]
        trivial
      · apply holds.frames
        rw [receiving]
        trivial
  | wakes parked =>
      refine ⟨holds.exclusive, fun outside => absurd trivial outside,
        False.elim, fun _ => ?_⟩
      apply holds.frames
      rw [parked]
      trivial

theorem sendMessage_sendersAlive {message : Message}
    (sent : connection.sendMessage message = some next) :
    next.sendersAlive = connection.sendersAlive := by
  unfold sendMessage at sent
  split at sent
  · cases sent
    rfl
  · split at sent <;> cases sent
    rfl

theorem Notifying.interleave (holds : connection.Notifying)
    {label : ConnectionStep Message Chunk}
    (moved : connection.interleave label = some next) : next.Notifying := by
  cases interleaved_of_interleave moved with
  | sendVideo => exact holds.notifyOne rfl rfl
  | sendMessage sent =>
      obtain ⟨queue, writer, -⟩ := sendMessage_spec sent
      exact holds.congr writer queue
  | dropSenders => exact holds.congr rfl rfl
  | closeQueue => exact holds.notifyOne rfl rfl
  | writer taken => exact holds.step taken

/-- No frame is left behind, in every interleaving of the senders, the reader
and the writer. -/
theorem leavesNoFrame_along
    (execution : Transition.Execution interleave
      (new : Connection Message Chunk)) :
    execution.Along LeavesNoFrame := by
  intro taken rest connection _ runs
  apply leavesNoFrame_of_notifying
  have reached : Transition.Reachable interleave new connection := ⟨taken, runs⟩
  apply reached.invariant notifying_new
  exact fun before label after holds moved => holds.interleave moved

/-! ### Closing -/

/-- A future that was created and has not been dropped is there, unless the
writer has yet to poll it. -/
theorem Notifying.waiter_ne_none (holds : connection.Notifying)
    (inside : connection.writer.IsSelecting)
    (registered : ¬ connection.IsUnregistered) :
    connection.queue.notify.waiter ≠ .none := by
  by_cases polled : connection.writer.HasPolled
  · exact holds.polled polled
  · intro dropped
    apply registered
    refine ⟨?_, dropped⟩
    revert inside polled
    cases connection.writer <;>
      simp [WriterTask.IsSelecting, WriterTask.HasPolled]

/-- Only a poll of `recv()` parks the writer. -/
theorem parked_step {label : WriterStep}
    (moved : connection.step label = some next)
    (parks : next.writer = .parked) :
    connection.sendersAlive = true ∧ next.queue = connection.queue := by
  cases writerMove_of_step moved with
  | parks _ alive => exact ⟨alive, rfl⟩
  | foundEmpty | drained | wroteLast | wroteChunk | wroteText | failed
  | notified | released | registered | received | disconnected | wakes =>
      cases parks

/-- The writer neither closes the queue nor drops a sender. -/
theorem step_frame {label : WriterStep}
    (moved : connection.step label = some next) :
    connection.writer ≠ .ended ∧
      next.queue.closed = connection.queue.closed ∧
        next.sendersAlive = connection.sendersAlive := by
  constructor
  · intro gone
    rw [step_ended gone] at moved
    cases moved
  · cases writerMove_of_step moved <;> exact ⟨rfl, rfl⟩

theorem Releasing.step (holds : connection.Releasing) {label : WriterStep}
    (moved : connection.step label = some next) : next.Releasing := by
  obtain ⟨running, closed, senders⟩ := step_frame moved
  refine ⟨holds.notifying.step moved, ?_, ?_⟩
  · intro isClosed alive goesOn
    rw [closed] at isClosed
    rw [senders] at alive
    obtain ⟨pending, twice⟩ := holds.left isClosed alive running
    cases writerMove_of_step moved with
    | foundEmpty => exact ⟨pending, fun _ frames => absurd rfl frames⟩
    | drained | wroteLast | wroteChunk | wroteText =>
        exact ⟨pending, False.elim⟩
    | failed | released | disconnected => exact absurd rfl goesOn
    | notified polling ready notReleased =>
        obtain ⟨-, consumed⟩ := Notify.pollNotified_ready ready
        have frames : connection.queue.inner ≠ [] :=
          fun empty => notReleased ⟨isClosed, empty⟩
        have enough := twice (by rw [polling]; trivial) frames
        refine ⟨?_, False.elim⟩
        show 0 < connection.queue.notify.pollNotified.2.pending
        omega
    | registered _ notReady =>
        obtain ⟨nonePending, -⟩ := Notify.pollNotified_pending notReady
          holds.notifying.exclusive
        omega
    | received =>
        obtain ⟨-, passed⟩ := connection.queue.notify.dropNotified_spec
        exact ⟨passed pending, False.elim⟩
    | parks receiving =>
        refine ⟨pending, fun _ => twice ?_⟩
        rw [receiving]
        trivial
    | wakes parked =>
        refine ⟨pending, fun _ => twice ?_⟩
        rw [parked]
        trivial
  · intro isClosed parks
    obtain ⟨alive, queue⟩ := parked_step moved parks
    rw [queue] at isClosed ⊢
    exact (holds.left isClosed alive running).1

/-- A push or `close` leaves a wake-up, and two unless the writer has yet to
register. -/
theorem Releasing.notifyOne (holds : connection.Releasing)
    (writer : next.writer = connection.writer)
    (notified : next.queue.notify = connection.queue.notify.notifyOne)
    (enough : next.sendersAlive = true → connection.writer.IsSelecting →
      next.queue.inner ≠ [] → ¬ connection.IsUnregistered ∧
        0 < connection.queue.notify.pending) :
    next.Releasing := by
  refine ⟨holds.notifying.notifyOne writer notified, ?_, ?_⟩
  · intro _ alive _
    rw [writer, notified]
    refine ⟨Notify.pending_notifyOne _, fun inside frames => ?_⟩
    obtain ⟨registered, already⟩ := enough alive inside frames
    exact Notify.pending_notifyOne_of_ne_none
      (holds.notifying.waiter_ne_none inside registered) already
      holds.notifying.exclusive
  · intro _ _
    rw [notified]
    exact Notify.pending_notifyOne _

theorem Releasing.interleave (holds : connection.Releasing)
    {label : ConnectionStep Message Chunk}
    (keeps : connection.KeepsWakeups label)
    (moved : connection.interleave label = some next) : next.Releasing := by
  have notifying := holds.notifying.interleave moved
  cases interleaved_of_interleave moved with
  | sendVideo =>
      by_cases closed : connection.queue.closed = true
      · refine holds.notifyOne ?_ ?_ ?_
        · rfl
        · rfl
        intro alive inside _
        refine ⟨keeps closed, (holds.left closed alive ?_).1⟩
        intro ended
        rw [ended] at inside
        exact inside
      · exact ⟨notifying, fun isClosed => absurd isClosed closed,
          fun isClosed => absurd isClosed closed⟩
  | sendMessage sent =>
      obtain ⟨queue, writer, -⟩ := sendMessage_spec sent
      have alive := sendMessage_sendersAlive sent
      refine ⟨notifying, ?_, ?_⟩
      · rw [queue, writer, alive]
        exact holds.left
      · rw [queue, writer]
        exact holds.parked
  | dropSenders =>
      refine ⟨notifying, ?_, holds.parked⟩
      intro _ alive
      cases alive
  | closeQueue =>
      refine holds.notifyOne ?_ ?_ ?_
      · rfl
      · rfl
      intro alive inside frames
      refine ⟨?_, holds.notifying.frames inside frames⟩
      intro unregistered
      exact frames (keeps alive unregistered)
  | writer taken => exact holds.step taken

/-! ### The permit that is spent on a frame -/

/-- A drained batch can be written, back to the next drain. -/
theorem run_write_draining (connection : Connection Message Chunk)
    (data : Chunk) (frames : List Chunk)
    (sending : connection.writer = .sending data frames) :
    ∃ written, Transition.run step connection
        (List.replicate (frames.length + 1) (.write true)) =
      some { connection with writer := .draining, written := written } := by
  induction frames generalizing data connection with
  | nil =>
      refine ⟨connection.written ++ [.binary data], ?_⟩
      simp [step, sending]
  | cons first frames ih =>
      let following : Connection Message Chunk :=
        { connection with
          writer := .sending first frames
          written := connection.written ++ [.binary data] }
      obtain ⟨written, runs⟩ := ih following first rfl
      refine ⟨written, ?_⟩
      rw [List.length_cons, List.replicate_succ, Transition.run_cons]
      simpa [step, sending, following] using runs

/-- With no wake-up and no frame, the writer handles all control messages
and parks. -/
theorem exists_run_parked (connection : Connection Message Chunk)
    (polling : connection.writer = .polling)
    (quiet : connection.queue.notify = ⟨false, .none⟩)
    (empty : connection.queue.inner = [])
    (alive : connection.sendersAlive = true) :
    ∃ labels parked, Transition.run step connection labels = some parked ∧
      parked.writer = .parked ∧
      parked.queue = { connection.queue with notify := ⟨false, .registered⟩ } := by
  obtain ⟨queue, control, sendersAlive, writer, written⟩ := connection
  obtain ⟨inner, notify, dropped, closed⟩ := queue
  dsimp only at polling quiet empty alive
  subst polling quiet empty alive
  induction control generalizing written with
  | nil => exact ⟨[.pollNotified, .pollRecv], _, rfl, rfl, rfl⟩
  | cons message control ih =>
      obtain ⟨labels, parked, runs, isParked, queue⟩ :=
        ih (written ++ [.text message])
      refine ⟨.pollNotified :: .pollRecv :: .write true :: .drain :: labels,
        parked, ?_, isParked, queue⟩
      simpa [step, Notify.pollNotified, Notify.dropNotified,
        VideoQueue.drain] using runs

/-- A writer that finds the one permit and frames to send spends the permit
on the frames. -/
theorem exists_run_spent (polling : connection.writer = .polling)
    (single : connection.queue.notify = ⟨true, .none⟩)
    (frames : connection.queue.inner ≠ [])
    (closed : connection.queue.closed = true)
    (alive : connection.sendersAlive = true) :
    ∃ labels stuck, Transition.run step connection labels = some stuck ∧
      ¬ stuck.ReleasesWriter := by
  obtain ⟨queue, control, sendersAlive, writer, written⟩ := connection
  obtain ⟨inner, notify, dropped, isClosed⟩ := queue
  dsimp only at polling single frames closed alive
  subst polling single closed alive
  obtain ⟨data, rest, rfl⟩ := List.exists_cons_of_ne_nil frames
  let drained : VideoQueue Chunk := ⟨[], ⟨false, .none⟩, dropped, true⟩
  obtain ⟨written', sent⟩ := run_write_draining
    ⟨drained, control, true, .sending data rest, written⟩ data rest rfl
  obtain ⟨labels, parked, parks, isParked, queue⟩ := exists_run_parked
    ⟨drained, control, true, .polling, written'⟩ rfl rfl rfl rfl
  refine ⟨[.pollNotified, .drain] ++
    (List.replicate (rest.length + 1) (.write true) ++ .drain :: labels),
    parked, ?_, ?_⟩
  · have drains : Transition.run step
        (⟨⟨data :: rest, ⟨true, .none⟩, dropped, true⟩, control, true,
          .polling, written⟩ : Connection Message Chunk)
        [.pollNotified, .drain] =
          some ⟨drained, control, true, .sending data rest, written⟩ := rfl
    rw [Transition.run_append, drains, Option.bind_some,
      Transition.run_append, sent, Option.bind_some, Transition.run_cons]
    exact parks
  · intro releases
    have woken := releases isParked (by rw [queue]) (by rw [queue])
    rw [queue] at woken
    simp at woken

/-- After any other push or `close` the writer can park for good. -/
theorem exists_run_of_not_keepsWakeups
    {label : ConnectionStep Message Chunk}
    (moved : connection.interleave label = some next)
    (shares : ¬ connection.KeepsWakeups label) :
    ∃ labels stuck, Transition.run step next labels = some stuck ∧
      ¬ stuck.ReleasesWriter := by
  have single (unregistered : connection.IsUnregistered) :
      connection.queue.notify.notifyOne = ⟨true, .none⟩ := by
    simp [Notify.notifyOne, unregistered.2]
  cases interleaved_of_interleave moved with
  | sendVideo alive =>
      simp only [KeepsWakeups, Classical.not_imp, not_not] at shares
      obtain ⟨closed, unregistered⟩ := shares
      apply exists_run_spent
      · exact unregistered.1
      · exact single unregistered
      · simp [sendVideo, VideoQueue.push]
      · exact closed
      · exact alive
  | closeQueue =>
      simp only [KeepsWakeups, Classical.not_imp] at shares
      obtain ⟨alive, unregistered, frames⟩ := shares
      apply exists_run_spent
      · exact unregistered.1
      · exact single unregistered
      · exact frames
      · rfl
      · exact alive
  | sendMessage | dropSenders | writer => exact absurd trivial shares

/-- Closing takes effect along an execution, wherever the writer gets from
there on its own, exactly if no push or `close` shares the permit of an
unregistered writer. -/
theorem releasesWriter_iff_keepsWakeups
    (execution : Transition.Execution interleave
      (new : Connection Message Chunk)) :
    execution.AlongContinuations ConnectionStep.IsWriter ReleasesWriter ↔
      execution.StepsMeet KeepsWakeups := by
  refine execution.alongContinuations_iff_stepsMeet Releasing releasing_new
    (fun _ => releasesWriter_of_releasing)
    (fun _ _ _ holds keeps moved => holds.interleave keeps moved) ?_ ?_
  · intro connection label isWriter
    cases label with
    | writer => trivial
    | sendVideo | sendMessage | dropSenders | closeQueue => cases isWriter
  · intro before label after _ moved shares
    obtain ⟨labels, stuck, runs, broken⟩ :=
      exists_run_of_not_keepsWakeups moved shares
    refine ⟨labels.map .writer, stuck, ?_, ?_, broken⟩
    · intro label member
      obtain ⟨writerLabel, -, rfl⟩ := List.mem_map.mp member
      trivial
    · have lifted := Transition.run_component interleave step id
        (.writer : WriterStep → ConnectionStep Message Chunk)
        (fun _ _ => by simp [Connection.interleave]) after labels
      rw [runs] at lifted
      exact lifted

/-- A chunk is pushed after the writer has drained, and the reader closes the
queue before the writer polls. -/
def closeAfterPush : List (ConnectionStep Nat Nat) :=
  [.writer .drain, .sendVideo 0, .closeQueue, .writer .pollNotified,
    .writer .drain, .writer (.write true), .writer .drain,
    .writer .pollNotified, .writer .pollRecv]

/-- The only wake-up is spent on the chunk, and the writer parks. -/
theorem closeAfterPush_not_releasesWriter :
    ∃ connection, Transition.run interleave new closeAfterPush =
      some connection ∧ ¬ connection.ReleasesWriter := by
  refine ⟨_, rfl, fun releases => ?_⟩
  have woken := releases rfl rfl rfl
  simp at woken

/-! ### Room for a control message -/

/-- A message can be sent, or is discarded. -/
def HasRoom (connection : Connection Message Chunk) : Prop :=
  connection.writer = .ended ∨ connection.control.length < controlBufferSize

theorem exists_sendMessage (room : connection.HasRoom) (message : Message) :
    ∃ next, connection.sendMessage message = some next ∧
      next.control.length ≤ connection.control.length + 1 := by
  unfold sendMessage
  split
  · exact ⟨connection, rfl, Nat.le_succ _⟩
  · rename_i alive
    rw [if_pos (room.resolve_left alive)]
    exact ⟨_, rfl, by simp⟩

end Connection

/-- How far the writer is from its next poll of `recv()`. -/
def WriterTask.distance {Message Chunk : Type*} :
    WriterTask Message Chunk → Nat
  | .ended | .receiving => 0
  | .polling => 1
  | .parked | .sending _ _ => 2
  | .draining => 3
  | .writing _ => 4

namespace Connection

variable {Message Chunk : Type*}

/-- What the writer has left to do while nobody sends. -/
def remaining (connection : Connection Message Chunk) : Nat :=
  8 * connection.control.length + 3 * connection.queue.notify.pending +
    2 * (connection.queue.inner.length + connection.unsent.length) +
      connection.writer.distance

/-- A writer whose writes succeed gets on as long as the channel is full. -/
theorem exists_step_of_not_hasRoom (connection : Connection Message Chunk)
    (full : ¬ connection.HasRoom) :
    ∃ label next, label ≠ .write false ∧
      connection.step label = some next ∧
        next.remaining < connection.remaining := by
  obtain ⟨alive, long⟩ := not_or.mp full
  obtain ⟨queue, control, sendersAlive, writer, written⟩ := connection
  obtain ⟨inner, notify, dropped, closed⟩ := queue
  dsimp only at alive long
  obtain ⟨message, rest, rfl⟩ : ∃ message rest, control = message :: rest := by
    apply List.exists_cons_of_ne_nil
    rintro rfl
    simp [controlBufferSize] at long
  cases writer with
  | ended => exact absurd rfl alive
  | draining =>
      cases inner with
      | nil =>
          refine ⟨.drain, _, by simp, rfl, ?_⟩
          simp [remaining, unsent, WriterTask.distance]
      | cons data frames =>
          refine ⟨.drain, _, by simp, rfl, ?_⟩
          simp [remaining, unsent, WriterTask.distance]
  | sending data frames =>
      refine ⟨.write true, _, by simp, rfl, ?_⟩
      cases frames with
      | nil =>
          simp only [remaining, unsent, WriterTask.distance,
            List.length_singleton, List.length_nil]
          omega
      | cons first frames =>
          simp only [remaining, unsent, WriterTask.distance,
            List.length_cons]
          omega
  | writing other =>
      refine ⟨.write true, _, by simp, rfl, ?_⟩
      simp [remaining, unsent, WriterTask.distance]
  | polling =>
      cases ready : notify.pollNotified.1 with
      | true =>
          obtain ⟨-, consumed⟩ := Notify.pollNotified_ready ready
          cases released : closed && inner.isEmpty with
          | true =>
              refine ⟨.pollNotified, _, by simp,
                by simp only [step, ready, released]; rfl, ?_⟩
              simp only [remaining, unsent, WriterTask.distance]
              omega
          | false =>
              refine ⟨.pollNotified, _, by simp,
                by simp only [step, ready, released]; rfl, ?_⟩
              simp only [remaining, unsent, WriterTask.distance]
              omega
      | false =>
          have fewer := notify.pending_pollNotified_le
          refine ⟨.pollNotified, _, by simp,
            by simp only [step, ready]; rfl, ?_⟩
          simp only [remaining, unsent, WriterTask.distance]
          omega
  | receiving =>
      have fewer := notify.pending_dropNotified_le
      refine ⟨.pollRecv, _, by simp, rfl, ?_⟩
      simp only [remaining, unsent, WriterTask.distance, List.length_cons]
      omega
  | parked =>
      refine ⟨.wake, _, by simp, if_pos (Or.inr (Or.inl (by simp))), ?_⟩
      simp [remaining, unsent, WriterTask.distance]

/-- A writer whose writes succeed makes room in the channel. -/
theorem canReach_hasRoom (connection : Connection Message Chunk) :
    Transition.CanReach step (· ≠ .write false) HasRoom connection := by
  refine Transition.canReach_of_measure (fun _ => True) remaining ?_ trivial
  intro connection _ full
  obtain ⟨label, next, succeeds, moved, less⟩ :=
    connection.exists_step_of_not_hasRoom full
  exact ⟨[label], next, by simpa using succeeds, by simp [moved], trivial, less⟩

end Connection

end Rylus
