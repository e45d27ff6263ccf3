import Rylus.StreamOrder

/-!
# The calls of the encode thread on its sender

The encode thread announces a generation and creates its encoder while the
encoder before it is still alive; the assignment to `video_encoder` drops the
old one, and its `Drop` writes the trailer of a stream that is over.
-/

namespace Rylus

/-- A call of the encode thread on its sender.  A chunk is known by the
generation of the encoder that wrote it. -/
inductive SenderCall where
  | newVideo (generation : Nat)
  | videoInit (generation : Nat)
  | sendVideo (generation : Nat)
  deriving DecidableEq

/-- A stream, with all calls the encode thread has made on its sender. -/
structure SenderCalls (Number : Type*) where
  stream : StreamState Number
  calls : List SenderCall

namespace StreamState

variable {Number : Type*}

/-- The call that a step of the encode thread makes. -/
def senderCall? (state : StreamState Number) :
    StreamStep Number → Option SenderCall
  | .sendNewVideo => some (.newVideo state.generation)
  | .headerChunk => some (.sendVideo state.generation)
  | .sendVideoInit => some (.videoInit state.generation)
  | .trailerChunk =>
      match state.encode with
      | .dropping old _ | .finishing old => some (.sendVideo old)
      | _ => none
  | .encodeChunk =>
      match state.encode with
      | .idle (some live) => some (.sendVideo live)
      | _ => none
  | .beginRestart | .created _ | .dropped | .stop | .sendOther _
  | .dropSenders | .closeQueue | .writer _ => none

end StreamState

namespace SenderCalls

variable {Number : Type*}

def start : SenderCalls Number where
  stream := .start
  calls := []

def step (state : SenderCalls Number) (label : StreamStep Number) :
    Option (SenderCalls Number) :=
  (state.stream.step label).map fun stream =>
    { stream := stream
      calls := state.calls ++ (state.stream.senderCall? label).toList }

/-- No encoder writes after the next generation has been announced. -/
def InOrder (state : SenderCalls Number) : Prop :=
  state.calls.Pairwise fun earlier later =>
    ∀ generation, later = .sendVideo generation →
      earlier ≠ .newVideo (generation + 1)

/-- The trailer of an encoder that another one replaces has no bytes. -/
def DropsSilently (state : SenderCalls Number) : StreamStep Number → Prop
  | .trailerChunk => ∀ old live, state.stream.encode ≠ .dropping old live
  | _ => True

/-- The live encoder is that of the last announced generation, save that an
encoder in the course of being replaced is of the one before. -/
def EncodesLatest (generation : Nat) : EncodePhase → Prop
  | .idle live => ∀ current ∈ live, current = generation
  | .sendingNewVideo live | .creating live | .sendingVideoInit live _ =>
      ∀ current ∈ live, current + 1 = generation
  | .dropping old live =>
      old + 1 = generation ∧ ∀ current ∈ live, current = generation
  | .finishing old => old = generation
  | .ended => True

/-- The generation has been begun and not announced. -/
def IsUnannounced : EncodePhase → Prop
  | .sendingNewVideo _ => True
  | _ => False

/-- Which announcements have been made. -/
structure Numbered (state : SenderCalls Number) : Prop where
  latest : EncodesLatest state.stream.generation state.stream.encode
  begun : IsUnannounced state.stream.encode → 0 < state.stream.generation
  announced : ∀ generation, .newVideo generation ∈ state.calls ↔
    0 < generation ∧ generation ≤ state.stream.generation ∧
      (IsUnannounced state.stream.encode →
        generation < state.stream.generation)

variable {state next : SenderCalls Number}

/-- One more call keeps the order unless it is a chunk of an encoder whose
successor has been announced. -/
theorem pairwise_append_iff (holds : state.InOrder)
    (call : Option SenderCall) :
    ((state.calls ++ call.toList).Pairwise fun earlier later =>
      ∀ generation, later = .sendVideo generation →
        earlier ≠ .newVideo (generation + 1)) ↔
      ∀ generation, call = some (.sendVideo generation) →
        .newVideo (generation + 1) ∉ state.calls := by
  cases call with
  | none => simpa [InOrder] using holds
  | some call =>
      rw [Option.toList_some, List.pairwise_append]
      constructor
      · rintro ⟨-, -, cross⟩ generation same member
        cases same
        exact cross _ member _ (List.mem_singleton_self _) generation rfl rfl
      · intro fresh
        refine ⟨holds, List.pairwise_singleton _ _, ?_⟩
        intro earlier member later isLast generation same isAnnounced
        rw [List.mem_singleton.mp isLast] at same
        rw [isAnnounced] at member
        exact fresh generation (congrArg some same) member

theorem Numbered.not_announced_next (numbered : state.Numbered) :
    .newVideo (state.stream.generation + 1) ∉ state.calls := by
  intro member
  have known := ((numbered.announced _).mp member).2.1
  omega

theorem numbered_start : (start : SenderCalls Number).Numbered where
  latest := by
    intro current none
    cases none
  begun := False.elim
  announced := by
    intro generation
    constructor
    · intro member
      cases member
    · rintro ⟨positive, known, -⟩
      exact absurd known (Nat.not_le.mpr positive)

/-- The encode thread moves on without an announcement. -/
theorem Numbered.setEncode (numbered : state.Numbered)
    (generation : next.stream.generation = state.stream.generation)
    (latest : EncodesLatest state.stream.generation next.stream.encode)
    (before : ¬ IsUnannounced state.stream.encode)
    (after : ¬ IsUnannounced next.stream.encode)
    (calls : ∀ generation, .newVideo generation ∈ next.calls ↔
      .newVideo generation ∈ state.calls) : next.Numbered := by
  constructor
  · rw [generation]
    exact latest
  · exact fun unannounced => absurd unannounced after
  · intro number
    rw [calls, numbered.announced, generation]
    simp only [before, after, false_implies, and_true]

/-- Steps of other threads. -/
theorem Numbered.congr (numbered : state.Numbered)
    (generation : next.stream.generation = state.stream.generation)
    (encode : next.stream.encode = state.stream.encode)
    (calls : ∀ generation, .newVideo generation ∈ next.calls ↔
      .newVideo generation ∈ state.calls) : next.Numbered := by
  constructor
  · rw [generation, encode]
    exact numbered.latest
  · rw [generation, encode]
    exact numbered.begun
  · intro number
    rw [calls, numbered.announced, generation, encode]

theorem encodesLatest_replace {generation : Nat} {old live : Option Nat}
    (replaced : ∀ current ∈ old, current + 1 = generation)
    (latest : ∀ current ∈ live, current = generation) :
    EncodesLatest generation (.replace old live) := by
  cases old with
  | none => exact latest
  | some old => exact ⟨replaced old rfl, latest⟩

theorem not_isUnannounced_replace (old live : Option Nat) :
    ¬ IsUnannounced (.replace old live) := by
  cases old <;> exact id

theorem Numbered.step (numbered : state.Numbered)
    {label : StreamStep Number}
    (moved : state.step label = some next) : next.Numbered := by
  obtain ⟨stream, taken, rfl⟩ := Option.map_eq_some_iff.mp moved
  have latest := numbered.latest
  cases StreamState.streamMove_of_step taken with
  | restartBegun live phase =>
      rw [phase] at latest
      constructor
      · intro current isLive
        exact congrArg (· + 1) (latest current isLive)
      · exact fun _ => Nat.succ_pos _
      · intro number
        simp only [StreamState.senderCall?, Option.toList_none,
          List.append_nil, numbered.announced, phase, IsUnannounced,
          false_implies, true_implies, and_true]
        omega
  | newVideoSent live connection phase sent =>
      rw [phase] at latest
      have positive := numbered.begun (by rw [phase]; trivial)
      constructor
      · exact latest
      · exact False.elim
      · intro number
        simp only [StreamState.senderCall?, Option.toList_some,
          List.mem_append, List.mem_singleton, numbered.announced, phase,
          IsUnannounced, true_implies, false_implies, and_true,
          SenderCall.newVideo.injEq]
        omega
  | opened live codec phase =>
      rw [phase] at latest
      exact numbered.setEncode rfl latest (by rw [phase]; exact id) id
        (by simp [StreamState.senderCall?])
  | openFailed live phase =>
      rw [phase] at latest
      exact numbered.setEncode rfl
        (encodesLatest_replace latest (by simp)) (by rw [phase]; exact id)
        (not_isUnannounced_replace _ _) (by simp [StreamState.senderCall?])
  | videoInitSent live codec connection phase sent =>
      rw [phase] at latest
      refine numbered.setEncode rfl (encodesLatest_replace latest ?_)
        (by rw [phase]; exact id) (not_isUnannounced_replace _ _)
        (by simp [StreamState.senderCall?])
      rintro current ⟨⟩
      rfl
  | replacedTrailer _ _ phase | lastTrailer _ phase | encoded _ phase =>
      exact numbered.congr rfl rfl (by simp [StreamState.senderCall?, phase])
  | replacedDropped old live phase =>
      rw [phase] at latest
      exact numbered.setEncode rfl latest.2 (by rw [phase]; exact id) id
        (by simp [StreamState.senderCall?])
  | finishes live phase =>
      rw [phase] at latest
      exact numbered.setEncode rfl (latest live rfl)
        (by rw [phase]; exact id) id (by simp [StreamState.senderCall?])
  | lastDropped _ phase | stopped phase =>
      exact numbered.setEncode rfl trivial (by rw [phase]; exact id) id
        (by simp [StreamState.senderCall?])
  | headerWritten | otherSent | sendersDropped | queueClosed | wrote =>
      exact numbered.congr rfl rfl (by simp [StreamState.senderCall?])

/-- Only the trailer of a replaced encoder comes too late. -/
theorem Numbered.inOrder_step (numbered : state.Numbered)
    (holds : state.InOrder) {label : StreamStep Number}
    (moved : state.step label = some next) :
    next.InOrder ↔ state.DropsSilently label := by
  obtain ⟨stream, taken, rfl⟩ := Option.map_eq_some_iff.mp moved
  refine (pairwise_append_iff holds _).trans ?_
  have latest := numbered.latest
  have notNext := numbered.not_announced_next
  cases StreamState.streamMove_of_step taken with
  | headerWritten =>
      refine iff_of_true ?_ trivial
      intro generation same
      cases same
      exact notNext
  | replacedTrailer old live phase =>
      rw [phase] at latest
      -- the successor of a replaced encoder has been announced
      have replaced : old + 1 = state.stream.generation := latest.1
      have announced : .newVideo (old + 1) ∈ state.calls := by
        rw [numbered.announced, phase]
        exact ⟨Nat.succ_pos _, Nat.le_of_eq replaced, False.elim⟩
      refine iff_of_false ?_ fun silent => silent old live phase
      intro fresh
      exact fresh old (by simp [StreamState.senderCall?, phase]) announced
  | lastTrailer old phase =>
      rw [phase] at latest
      have isLatest : old = state.stream.generation := latest
      refine iff_of_true ?_ (by simp [DropsSilently, phase])
      intro generation same
      simp only [StreamState.senderCall?, phase, Option.some.injEq,
        SenderCall.sendVideo.injEq] at same
      rw [← same, isLatest]
      exact notNext
  | encoded live phase =>
      refine iff_of_true ?_ trivial
      rw [phase] at latest
      intro generation same
      simp only [StreamState.senderCall?, phase, Option.some.injEq,
        SenderCall.sendVideo.injEq] at same
      rw [← same, latest live rfl]
      exact notNext
  | restartBegun | newVideoSent | opened | openFailed | videoInitSent
  | replacedDropped | lastDropped | finishes | stopped | otherSent
  | sendersDropped | queueClosed | wrote =>
      refine iff_of_true ?_ trivial
      intro generation same
      cases same

/-- No old encoder writes into a new stream along an execution, exactly if
no replaced encoder has a trailer to write. -/
theorem inOrder_along_iff_dropsSilently
    (execution : Transition.Execution step (start : SenderCalls Number)) :
    execution.Along InOrder ↔ execution.StepsMeet DropsSilently := by
  apply execution.along_iff_stepsMeet List.Pairwise.nil
  intro before label after reached holds moved
  have numbered : before.Numbered := by
    apply reached.invariant numbered_start
    exact fun _ _ _ numbered moved => numbered.step moved
  exact numbered.inOrder_step holds moved

/-- Two restarts; the encoder of the first writes its trailer when the second
replaces it. -/
def restartTwice : List (StreamStep Nat) :=
  [.beginRestart, .sendNewVideo, .headerChunk, .created "avc1.4D0028",
    .sendVideoInit, .beginRestart, .sendNewVideo, .headerChunk,
    .created "avc1.4D0028", .sendVideoInit, .trailerChunk]

/-- The trailer of the first stream comes after the second `NewVideo`. -/
theorem restartTwice_not_inOrder :
    ∃ state, Transition.run step start restartTwice = some state ∧
      ¬ state.InOrder := by
  refine ⟨_, rfl, ?_⟩
  unfold InOrder
  intro ordered
  have pairs := List.pairwise_iff_getElem.mp ordered 3 6 (by decide)
    (by decide) (by decide)
  exact pairs 1 rfl rfl

end SenderCalls

end Rylus
