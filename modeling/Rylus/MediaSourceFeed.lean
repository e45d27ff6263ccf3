import Mathlib.Algebra.Order.Field.Rat
import Mathlib.Tactic.Linarith
import Rylus.LabelledExecution

/-!
# Feeding a media source

Without WebCodecs the page plays the stream through a `MediaSource`, a new one
at each `NewVideo`.  Frames wait in a queue until its source buffer is there
and idle; `upd_buf` hands it one at a time, or makes room first.  What the
browser does in between, and whether it takes a frame, is not up to the page.

A source is open before its `sourceopen` event fires.  The listener adds a
buffer to the newest source, of whichever source the event is; if that of an
older one comes late, the newest gets a second buffer.
-/

namespace Rylus

inductive MediaReadyState where
  | closed
  | open
  | ended
  deriving DecidableEq

/-- `given` are the frames that `appendBuffer` was called with, and whether it
took them. -/
structure SourceBuffer (Frame : Type*) where
  mediaSource : Nat
  updating : Bool
  buffered : Option (ℚ × ℚ)
  given : List (Frame × Bool)

/-- The variables of `handle_messages` that concern the media source, which is
numbered, with the sources whose `sourceopen` is still to fire, the source
buffers no longer in use, the frames that came for each source, and what was
sent: buffer healths, and the times of restarts. -/
structure MediaFeed (Frame : Type*) where
  webcodecsPipe : Bool
  mediaSource : Nat
  readyState : MediaReadyState
  opening : List Nat
  sourceBuffer : Option (SourceBuffer Frame)
  retired : List (SourceBuffer Frame)
  queue : List Frame
  received : Nat → List Frame
  frames : Nat
  healthFrameCount : Nat
  health : List ℚ
  lastOnerrorRestart : ℚ
  restarts : List ℚ

/-- What the browser answers to the calls of `upd_buf`. -/
structure BufferAnswer where
  accepts : Bool
  removes : Bool

/-- The pipe comes up or goes; `NewVideo` or a frame arrives; the browser opens
the newest source, and fires the event of that or an older one; the newest is
done with; a source buffer in use, or an older one, has updated or reports an
error. -/
inductive MediaEvent (Frame : Type*) where
  | pipe (up : Bool)
  | newVideo
  | frame (data : Frame) (answer : BufferAnswer) (currentTime : ℚ)
  | opens
  | sourceOpen (source : Nat) (adds : Bool)
  | sourceEnded
  | updateEnd (buffered : Option (ℚ × ℚ)) (answer : BufferAnswer)
  | staleUpdateEnd (answer : BufferAnswer)
  | error (now : ℚ)

/-- `MAX_BUFFER_LENGTH`, in seconds. -/
def maxBufferLength : ℚ := 1

/-- `ONERROR_DEBOUNCE_MS`. -/
def onerrorDebounceMs : ℚ := 5000

namespace MediaFeed

variable {Frame : Type*}

def start : MediaFeed Frame where
  webcodecsPipe := false
  mediaSource := 0
  readyState := .closed
  opening := []
  sourceBuffer := none
  retired := []
  queue := []
  received _ := []
  frames := 0
  healthFrameCount := 0
  health := []
  lastOnerrorRestart := 0
  restarts := []

/-- How much is buffered, in its one range. -/
def bufferLength (buffer : SourceBuffer Frame) : ℚ :=
  match buffer.buffered with
  | none => 0
  | some (first, last) => last - first

def updBuf (feed : MediaFeed Frame) (answer : BufferAnswer) :
    MediaFeed Frame :=
  match feed.sourceBuffer, feed.queue with
  | none, _ | some _, [] => feed
  | some buffer, frame :: rest =>
      if buffer.updating = false ∧ feed.readyState = .open then
        if maxBufferLength < bufferLength buffer then
          { feed with sourceBuffer := some { buffer with updating := true } }
        else
          -- what `appendBuffer` does not take is dropped, and the buffer
          -- emptied if that can be done
          { feed with
            queue := rest
            sourceBuffer := some { buffer with
              given := buffer.given ++ [(frame, answer.accepts)]
              updating := answer.accepts || answer.removes } }
      else
        feed

/-- `NewVideo`, which is for the pipe if there is one. -/
def onNewVideo (feed : MediaFeed Frame) : MediaFeed Frame :=
  if feed.webcodecsPipe then feed
  else
    { feed with
      mediaSource := feed.mediaSource + 1
      readyState := .closed
      sourceBuffer := none
      retired := feed.retired ++ feed.sourceBuffer.toList
      queue := []
      healthFrameCount := 0 }

/-- The listener of `sourceopen`, which uses the newest source; a source that
is not open, or takes no buffer, makes it throw. -/
def onSourceOpen (feed : MediaFeed Frame) (adds : Bool) : MediaFeed Frame :=
  if feed.readyState = .open ∧ adds then
    { feed with
      sourceBuffer := some ⟨feed.mediaSource, false, none, []⟩
      retired := feed.retired ++ feed.sourceBuffer.toList }
  else
    feed

/-- The end of the buffer is reported as it is from where the video plays. -/
def bufferHealth (feed : MediaFeed Frame) (currentTime : ℚ) : Option ℚ :=
  if feed.readyState = .open then
    (feed.sourceBuffer.bind SourceBuffer.buffered).map fun range =>
      range.2 - currentTime
  else
    none

def reportHealth (feed : MediaFeed Frame) (health : Option ℚ) :
    MediaFeed Frame :=
  if 30 ≤ feed.healthFrameCount + 1 then
    { feed with
      healthFrameCount := 0
      health := feed.health ++ health.toList }
  else
    { feed with healthFrameCount := feed.healthFrameCount + 1 }

/-- A binary message. -/
def onFrame (feed : MediaFeed Frame) (data : Frame) (answer : BufferAnswer)
    (currentTime : ℚ) : MediaFeed Frame :=
  let feed := { feed with frames := feed.frames + 1 }
  if feed.webcodecsPipe then
    feed.reportHealth (some (1 / 20))
  else
    let feed := updBuf { feed with
      queue := feed.queue ++ [data]
      received := Function.update feed.received feed.mediaSource
        (feed.received feed.mediaSource ++ [data]) } answer
    feed.reportHealth (feed.bufferHealth currentTime)

/-- `sourceBuffer.onerror`. -/
def onError (feed : MediaFeed Frame) (now : ℚ) : MediaFeed Frame :=
  if onerrorDebounceMs < now - feed.lastOnerrorRestart then
    { feed with
      lastOnerrorRestart := now
      restarts := feed.restarts ++ [now] }
  else
    feed

def step (feed : MediaFeed Frame) : MediaEvent Frame → Option (MediaFeed Frame)
  | .pipe up => some { feed with webcodecsPipe := up }
  | .newVideo => some feed.onNewVideo
  | .frame data answer currentTime =>
      some (feed.onFrame data answer currentTime)
  | .opens =>
      if feed.mediaSource ≠ 0 ∧ feed.readyState = .closed then
        some { feed with
          readyState := .open
          opening := feed.opening ++ [feed.mediaSource] }
      else
        none
  | .sourceOpen source adds =>
      if source ∈ feed.opening then
        some (onSourceOpen
          { feed with opening := feed.opening.erase source } adds)
      else
        none
  | .sourceEnded =>
      if feed.readyState = .open then
        some { feed with readyState := .ended }
      else
        none
  | .updateEnd buffered answer =>
      match feed.sourceBuffer with
      | none => none
      | some buffer =>
          if buffer.updating then
            some (updBuf { feed with
              sourceBuffer := some { buffer with
                updating := false
                buffered := buffered } } answer)
          else
            none
  | .staleUpdateEnd answer =>
      if feed.retired = [] then none else some (feed.updBuf answer)
  | .error now =>
      if feed.sourceBuffer.isSome || !feed.retired.isEmpty then
        some (feed.onError now)
      else
        none

end MediaFeed

/-- The frames that a source buffer was given. -/
def SourceBuffer.frames {Frame : Type*} (buffer : SourceBuffer Frame) :
    List Frame :=
  buffer.given.map Prod.fst

namespace MediaFeed

variable {Frame : Type*} {feed next : MediaFeed Frame}

/-- What the buffers of a source were given, one buffer after the other. -/
def givenBy (buffers : List (SourceBuffer Frame)) (source : Nat) :
    List Frame :=
  (buffers.filter fun buffer => buffer.mediaSource = source).flatMap
    SourceBuffer.frames

/-- All buffers in the order in which they were added. -/
def buffers (feed : MediaFeed Frame) : List (SourceBuffer Frame) :=
  feed.retired ++ feed.sourceBuffer.toList

/-- The buffers of a source were given the first frames that came for it, each
to one of them; what came for the newest source and was not given yet waits in
the queue. -/
structure FedInOrder (feed : MediaFeed Frame) : Prop where
  current : ∀ buffer, feed.sourceBuffer = some buffer →
    buffer.mediaSource = feed.mediaSource
  newest : givenBy feed.buffers feed.mediaSource ++ feed.queue =
    feed.received feed.mediaSource
  past : ∀ source, source < feed.mediaSource →
    givenBy feed.buffers source <+: feed.received source
  future : ∀ source, feed.mediaSource < source →
    givenBy feed.buffers source = [] ∧ feed.received source = []

/-- One report of the buffer for thirty frames. -/
def Paced (feed : MediaFeed Frame) : Prop :=
  30 * feed.health.length + feed.healthFrameCount ≤ feed.frames

/-- Restarts are more than five seconds apart. -/
structure Debounced (feed : MediaFeed Frame) : Prop where
  apart : feed.restarts.Pairwise fun first second =>
    onerrorDebounceMs < second - first
  last : ∀ restart ∈ feed.restarts, restart ≤ feed.lastOnerrorRestart

theorem updBuf_eq (feed : MediaFeed Frame) (answer : BufferAnswer) :
    ∃ queue sourceBuffer, feed.updBuf answer =
      { feed with queue := queue, sourceBuffer := sourceBuffer } := by
  unfold updBuf
  split
  · exact ⟨_, _, rfl⟩
  · exact ⟨_, _, rfl⟩
  · split
    · split
      · exact ⟨_, _, rfl⟩
      · exact ⟨_, _, rfl⟩
    · exact ⟨_, _, rfl⟩

theorem givenBy_append (first second : List (SourceBuffer Frame))
    (source : Nat) :
    givenBy (first ++ second) source =
      givenBy first source ++ givenBy second source := by
  simp [givenBy]

theorem givenBy_singleton (buffer : SourceBuffer Frame) (source : Nat) :
    givenBy [buffer] source =
      if buffer.mediaSource = source then buffer.frames else [] := by
  unfold givenBy
  split_ifs with same <;> simp [same]

/-- Steps that neither give nor bring anything. -/
theorem FedInOrder.congr (fed : feed.FedInOrder)
    (current : ∀ buffer, next.sourceBuffer = some buffer →
      buffer.mediaSource = feed.mediaSource)
    (given : ∀ source,
      givenBy next.buffers source = givenBy feed.buffers source)
    (mediaSource : next.mediaSource = feed.mediaSource)
    (queue : next.queue = feed.queue)
    (received : next.received = feed.received) : next.FedInOrder := by
  constructor
  · rw [mediaSource]
    exact current
  · rw [given, mediaSource, queue, received]
    exact fed.newest
  · simpa only [given, mediaSource, received] using fed.past
  · simpa only [given, mediaSource, received] using fed.future

/-- A buffer that is updated is in the same place, with the same frames. -/
theorem givenBy_setBuffer {buffer after : SourceBuffer Frame}
    (isBuffer : feed.sourceBuffer = some buffer)
    (mediaSource : after.mediaSource = buffer.mediaSource)
    (frames : after.frames = buffer.frames) (source : Nat) :
    givenBy { feed with sourceBuffer := some after }.buffers source =
      givenBy feed.buffers source := by
  unfold buffers
  rw [isBuffer]
  simp [givenBy_append, givenBy_singleton, mediaSource, frames]

/-- `upd_buf` takes the first frame of the queue, if it takes any. -/
theorem FedInOrder.updBuf (fed : feed.FedInOrder) (answer : BufferAnswer) :
    (feed.updBuf answer).FedInOrder := by
  unfold MediaFeed.updBuf
  split
  · exact fed
  · exact fed
  · rename_i buffer frame rest isBuffer isQueue
    have isNewest := fed.current buffer isBuffer
    split
    · split
      · refine fed.congr ?_ (givenBy_setBuffer isBuffer rfl rfl) rfl rfl rfl
        intro current isCurrent
        cases isCurrent
        exact isNewest
      · -- only the newest source is given anything
        have given : ∀ source updating,
            givenBy (feed.retired ++
              [{ buffer with
                given := buffer.given ++ [(frame, answer.accepts)]
                updating := updating }]) source =
              givenBy feed.buffers source ++
                if feed.mediaSource = source then [frame] else [] := by
          intro source updating
          unfold buffers
          rw [isBuffer]
          simp only [givenBy_append, givenBy_singleton, Option.toList_some,
            isNewest, List.append_assoc]
          split_ifs <;> simp [SourceBuffer.frames]
        refine ⟨?_, ?_, ?_, ?_⟩
        · intro current isCurrent
          cases isCurrent
          exact isNewest
        · refine Eq.trans ?_ fed.newest
          unfold buffers
          rw [Option.toList_some, given, isQueue]
          simp [buffers]
        · intro source earlier
          unfold buffers
          rw [Option.toList_some, given, if_neg earlier.ne', List.append_nil]
          exact fed.past source earlier
        · intro source later
          unfold buffers
          rw [Option.toList_some, given, if_neg later.ne, List.append_nil]
          exact fed.future source later
    · exact fed

theorem FedInOrder.onNewVideo (fed : feed.FedInOrder) :
    feed.onNewVideo.FedInOrder := by
  unfold MediaFeed.onNewVideo
  split
  · exact fed
  · have given : ∀ source, givenBy ((feed.retired ++
        feed.sourceBuffer.toList) ++ (none : Option _).toList) source =
          givenBy feed.buffers source := by
      simp [buffers]
    refine ⟨?_, ?_, ?_, ?_⟩
    · intro buffer isBuffer
      cases isBuffer
    · obtain ⟨none, nothing⟩ := fed.future _ (Nat.lt_succ_self _)
      exact (congrArg (· ++ []) ((given _).trans none)).trans nothing.symm
    · intro source earlier
      refine (given source).symm ▸ ?_
      rcases Nat.lt_succ_iff_lt_or_eq.mp earlier with older | rfl
      · exact fed.past source older
      · exact fed.newest ▸ List.prefix_append _ _
    · intro source later
      exact (given source).symm ▸ fed.future source (Nat.lt_of_succ_lt later)

/-- The buffer in use before is one of the others now. -/
theorem FedInOrder.onSourceOpen (fed : feed.FedInOrder) (adds : Bool) :
    (feed.onSourceOpen adds).FedInOrder := by
  unfold MediaFeed.onSourceOpen
  split
  · refine fed.congr ?_ ?_ rfl rfl rfl
    · intro buffer isBuffer
      cases isBuffer
      rfl
    · intro source
      unfold buffers
      rw [Option.toList_some, givenBy_append, givenBy_singleton]
      simp [SourceBuffer.frames]
  · exact fed

theorem FedInOrder.reportHealth (fed : feed.FedInOrder)
    (health : Option ℚ) : (feed.reportHealth health).FedInOrder := by
  unfold MediaFeed.reportHealth
  split <;> exact fed.congr fed.current (fun _ => rfl) rfl rfl rfl

theorem FedInOrder.onFrame (fed : feed.FedInOrder) (data : Frame)
    (answer : BufferAnswer) (currentTime : ℚ) :
    (feed.onFrame data answer currentTime).FedInOrder := by
  unfold MediaFeed.onFrame
  dsimp only
  split
  · refine FedInOrder.reportHealth ?_ _
    exact fed.congr fed.current (fun _ => rfl) rfl rfl rfl
  · refine FedInOrder.reportHealth (FedInOrder.updBuf ?_ answer) _
    refine ⟨fed.current, ?_, ?_, ?_⟩
    · simp only [Function.update_self]
      rw [← fed.newest, List.append_assoc]
      rfl
    · intro source earlier
      simp only [Function.update_of_ne earlier.ne]
      exact fed.past source earlier
    · intro source later
      simp only [Function.update_of_ne later.ne']
      exact fed.future source later

theorem FedInOrder.step {event : MediaEvent Frame} (fed : feed.FedInOrder)
    (taken : feed.step event = some next) : next.FedInOrder := by
  cases event with
  | pipe up =>
      cases taken
      exact fed.congr fed.current (fun _ => rfl) rfl rfl rfl
  | newVideo =>
      cases taken
      exact fed.onNewVideo
  | frame data answer currentTime =>
      cases taken
      exact fed.onFrame data answer currentTime
  | opens =>
      simp only [MediaFeed.step] at taken
      split at taken
      · cases taken
        exact fed.congr fed.current (fun _ => rfl) rfl rfl rfl
      · cases taken
  | sourceOpen source adds =>
      simp only [MediaFeed.step] at taken
      split at taken
      · cases taken
        refine FedInOrder.onSourceOpen ?_ adds
        exact fed.congr fed.current (fun _ => rfl) rfl rfl rfl
      · cases taken
  | sourceEnded =>
      simp only [MediaFeed.step] at taken
      split at taken
      · cases taken
        exact fed.congr fed.current (fun _ => rfl) rfl rfl rfl
      · cases taken
  | updateEnd buffered answer =>
      simp only [MediaFeed.step] at taken
      split at taken
      · cases taken
      · rename_i buffer isBuffer
        split at taken
        · cases taken
          refine FedInOrder.updBuf ?_ answer
          refine fed.congr ?_ (givenBy_setBuffer isBuffer rfl rfl) rfl rfl rfl
          intro current isCurrent
          cases isCurrent
          exact fed.current buffer isBuffer
        · cases taken
  | staleUpdateEnd answer =>
      simp only [MediaFeed.step] at taken
      split at taken
      · cases taken
      · cases taken
        exact fed.updBuf answer
  | error now =>
      simp only [MediaFeed.step] at taken
      split at taken
      · cases taken
        unfold onError
        split
        · exact fed.congr fed.current (fun _ => rfl) rfl rfl rfl
        · exact fed
      · cases taken

theorem Paced.step {event : MediaEvent Frame} (paced : feed.Paced)
    (taken : feed.step event = some next) : next.Paced := by
  have updated : ∀ (before : MediaFeed Frame) (answer : BufferAnswer),
      before.Paced → (before.updBuf answer).Paced := by
    intro before answer paced
    obtain ⟨queue, sourceBuffer, same⟩ := before.updBuf_eq answer
    rw [same]
    exact paced
  have reported : ∀ (before : MediaFeed Frame) (health : Option ℚ),
      30 * before.health.length + before.healthFrameCount + 1 ≤
        before.frames → (before.reportHealth health).Paced := by
    intro before health room
    have few : health.toList.length ≤ 1 := by cases health <;> simp
    unfold MediaFeed.reportHealth
    split
    · unfold Paced
      rw [List.length_append]
      dsimp only
      omega
    · unfold Paced
      dsimp only
      omega
  unfold Paced at paced
  cases event with
  | pipe up =>
      cases taken
      exact paced
  | newVideo =>
      cases taken
      unfold MediaFeed.onNewVideo
      split
      · exact paced
      · unfold Paced
        dsimp only
        omega
  | frame data answer currentTime =>
      cases taken
      unfold MediaFeed.onFrame
      dsimp only
      split
      · refine reported _ _ ?_
        dsimp only
        omega
      · refine reported _ _ ?_
        obtain ⟨queue, sourceBuffer, same⟩ := updBuf_eq { feed with
          frames := feed.frames + 1
          queue := feed.queue ++ [data]
          received := Function.update feed.received feed.mediaSource
            (feed.received feed.mediaSource ++ [data]) } answer
        rw [same]
        dsimp only
        omega
  | opens =>
      simp only [MediaFeed.step] at taken
      split at taken
      · cases taken
        exact paced
      · cases taken
  | sourceOpen source adds =>
      simp only [MediaFeed.step] at taken
      split at taken
      · cases taken
        unfold onSourceOpen
        split <;> exact paced
      · cases taken
  | sourceEnded =>
      simp only [MediaFeed.step] at taken
      split at taken
      · cases taken
        exact paced
      · cases taken
  | updateEnd buffered answer =>
      simp only [MediaFeed.step] at taken
      split at taken
      · cases taken
      · split at taken
        · cases taken
          exact updated _ answer paced
        · cases taken
  | staleUpdateEnd answer =>
      simp only [MediaFeed.step] at taken
      split at taken
      · cases taken
      · cases taken
        exact updated _ answer paced
  | error now =>
      simp only [MediaFeed.step] at taken
      split at taken
      · cases taken
        unfold onError
        split <;> exact paced
      · cases taken

/-- Nothing but an error restarts the video. -/
theorem restarts_of_step {event : MediaEvent Frame}
    (taken : feed.step event = some next) :
    (next.restarts = feed.restarts ∧
        next.lastOnerrorRestart = feed.lastOnerrorRestart) ∨
      ∃ now, onerrorDebounceMs < now - feed.lastOnerrorRestart ∧
        next.restarts = feed.restarts ++ [now] ∧
        next.lastOnerrorRestart = now := by
  have updated : ∀ (before : MediaFeed Frame) (answer : BufferAnswer),
      (before.updBuf answer).restarts = before.restarts ∧
        (before.updBuf answer).lastOnerrorRestart =
          before.lastOnerrorRestart := by
    intro before answer
    obtain ⟨queue, sourceBuffer, same⟩ := before.updBuf_eq answer
    rw [same]
    exact ⟨rfl, rfl⟩
  cases event with
  | pipe up =>
      cases taken
      exact .inl ⟨rfl, rfl⟩
  | newVideo =>
      cases taken
      unfold MediaFeed.onNewVideo
      split <;> exact .inl ⟨rfl, rfl⟩
  | frame data answer currentTime =>
      cases taken
      unfold MediaFeed.onFrame MediaFeed.reportHealth
      dsimp only
      split
      · split <;> exact .inl ⟨rfl, rfl⟩
      · split <;> exact .inl (updated _ answer)
  | opens =>
      simp only [MediaFeed.step] at taken
      split at taken
      · cases taken
        exact .inl ⟨rfl, rfl⟩
      · cases taken
  | sourceOpen source adds =>
      simp only [MediaFeed.step] at taken
      split at taken
      · cases taken
        unfold onSourceOpen
        split <;> exact .inl ⟨rfl, rfl⟩
      · cases taken
  | sourceEnded =>
      simp only [MediaFeed.step] at taken
      split at taken
      · cases taken
        exact .inl ⟨rfl, rfl⟩
      · cases taken
  | updateEnd buffered answer =>
      simp only [MediaFeed.step] at taken
      split at taken
      · cases taken
      · split at taken
        · cases taken
          exact .inl (updated _ answer)
        · cases taken
  | staleUpdateEnd answer =>
      simp only [MediaFeed.step] at taken
      split at taken
      · cases taken
      · cases taken
        exact .inl (updated _ answer)
  | error now =>
      simp only [MediaFeed.step] at taken
      split at taken
      · cases taken
        unfold onError
        split
        · rename_i late
          exact .inr ⟨now, late, rfl, rfl⟩
        · exact .inl ⟨rfl, rfl⟩
      · cases taken

theorem Debounced.step {event : MediaEvent Frame} (debounced : feed.Debounced)
    (taken : feed.step event = some next) : next.Debounced := by
  rcases restarts_of_step taken with ⟨restarts, last⟩ |
    ⟨now, late, restarts, last⟩
  · constructor
    · rw [restarts]
      exact debounced.apart
    · rw [restarts, last]
      exact debounced.last
  · have later : ∀ restart ∈ feed.restarts,
        onerrorDebounceMs < now - restart := by
      intro restart member
      have before := debounced.last restart member
      linarith
    constructor
    · rw [restarts, List.pairwise_append]
      refine ⟨debounced.apart, List.pairwise_singleton _ _, ?_⟩
      intro first member second isNow
      rw [List.mem_singleton.mp isNow]
      exact later first member
    · rw [restarts, last]
      intro restart member
      rcases List.mem_append.mp member with old | isNow
      · have apart := later restart old
        have positive : 0 < onerrorDebounceMs := by norm_num [onerrorDebounceMs]
        linarith
      · exact (List.mem_singleton.mp isNow).le

/-- However messages arrive, sources open and close, events of older ones come
late, and buffers take frames or not: each frame is given to one source buffer
at most, in order, and of the source that it came for; buffer healths come at
most every thirty frames, and restarts after errors are more than five seconds
apart. -/
theorem fedInOrder_along
    (execution : Transition.Execution step (start : MediaFeed Frame)) :
    execution.Along fun feed =>
      feed.FedInOrder ∧ feed.Paced ∧ feed.Debounced := by
  refine execution.along_of_kept _ ⟨?_, ?_, ?_⟩ ?_
  · refine ⟨?_, rfl, fun _ _ => List.nil_prefix, fun _ _ => ⟨rfl, rfl⟩⟩
    intro buffer isBuffer
    cases isBuffer
  · exact Nat.le_refl 0
  · refine ⟨List.Pairwise.nil, ?_⟩
    intro restart member
    cases member
  · rintro before event after ⟨fed, paced, debounced⟩ taken
    exact ⟨fed.step taken, paced.step taken, debounced.step taken⟩

/-- The event of the first source fires when the second one is open: that gets
two buffers, and the frames go to both in turn. -/
example : ((Transition.run step (start : MediaFeed Nat)
    [.newVideo, .opens, .newVideo, .opens, .sourceOpen 1 true,
      .frame 7 ⟨true, true⟩ 0, .sourceOpen 2 true,
      .frame 8 ⟨true, true⟩ 0]).map fun feed =>
        feed.buffers.map fun buffer => (buffer.mediaSource, buffer.frames)) =
    some [(2, [7]), (2, [8])] := by
  decide

end MediaFeed

end Rylus
