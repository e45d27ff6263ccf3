import Rylus.Protocol
import Rylus.WriterTask

/-!
# The order of a stream on the wire

Every `EncodeCommand::Restart` begins an encoder generation.  The encode
thread announces a generation with `NewVideo` on the control channel and
writes its chunks, from the init segment on, to the video queue; the writer
merges the two.  The order that the encode thread produced is lost at a drain
or not at all.
-/

namespace Rylus

/-- A control message; stream messages carry their generation. -/
inductive ControlMessage (Number : Type*) where
  | newVideo (generation : Nat)
  | videoInit (generation : Nat) (codecString : String)
  | other (message : MessageOutbound Number)

/-- Where the encode thread stands, with the generation of `video_encoder`:
at `encode_rx.recv()` or encoding a frame, about to send `NewVideo`, inside
`VideoEncoder::new`, about to send `VideoInit`, dropping the encoder it has
replaced, dropping its encoder on return, or gone. -/
inductive EncodePhase where
  | idle (live : Option Nat)
  | sendingNewVideo (live : Option Nat)
  | creating (live : Option Nat)
  | sendingVideoInit (live : Option Nat) (codecString : String)
  | dropping (old : Nat) (live : Option Nat)
  | finishing (old : Nat)
  | ended

/-- `video_encoder = live`: an encoder that is replaced is dropped. -/
def EncodePhase.replace (old live : Option Nat) : EncodePhase :=
  match old with
  | some old => .dropping old live
  | none => .idle live

structure StreamState (Number : Type*) where
  generation : Nat
  encode : EncodePhase
  connection : Connection (ControlMessage Number) Nat

/-- One step of the encode thread, of another sender, of the reader's
epilogue, or of the writer.  `VideoEncoder::new` hands its header to the
write callback as any number of chunks, an encoded frame likewise, and so
does `av_write_trailer` in the encoder's `Drop`. -/
inductive StreamStep (Number : Type*) where
  | beginRestart
  | sendNewVideo
  | headerChunk
  | created (codecString : Option String)
  | sendVideoInit
  | trailerChunk
  | dropped
  | encodeChunk
  | stop
  | sendOther (message : MessageOutbound Number)
  | dropSenders
  | closeQueue
  | writer (label : WriterStep)

/-- The writer writes what it holds. -/
def StreamStep.IsWrite {Number : Type*} : StreamStep Number → Prop
  | .writer (.write _) => True
  | _ => False

namespace StreamState

variable {Number : Type*}

def start : StreamState Number where
  generation := 0
  encode := .idle none
  connection := .new

/-- A chunk is known by the generation of the encoder that wrote it. -/
def step (state : StreamState Number) :
    StreamStep Number → Option (StreamState Number)
  | .beginRestart =>
      match state.encode with
      | .idle live =>
          some { state with
            generation := state.generation + 1
            encode := .sendingNewVideo live }
      | _ => none
  | .sendNewVideo =>
      match state.encode with
      | .sendingNewVideo live =>
          (state.connection.sendMessage (.newVideo state.generation)).map
            fun connection =>
              { state with connection := connection, encode := .creating live }
      | _ => none
  | .headerChunk =>
      match state.encode with
      | .creating _ =>
          some { state with
            connection := state.connection.sendVideo state.generation }
      | _ => none
  | .created codecString =>
      match state.encode with
      | .creating live =>
          match codecString with
          | some codec =>
              some { state with encode := .sendingVideoInit live codec }
          | none => some { state with encode := .replace live none }
      | _ => none
  | .sendVideoInit =>
      match state.encode with
      | .sendingVideoInit live codec =>
          (state.connection.sendMessage
            (.videoInit state.generation codec)).map fun connection =>
              { state with
                connection := connection
                encode := .replace live (some state.generation) }
      | _ => none
  | .trailerChunk =>
      match state.encode with
      | .dropping old _ | .finishing old =>
          some { state with connection := state.connection.sendVideo old }
      | _ => none
  | .dropped =>
      match state.encode with
      | .dropping _ live => some { state with encode := .idle live }
      | .finishing _ => some { state with encode := .ended }
      | _ => none
  | .encodeChunk =>
      match state.encode with
      | .idle (some live) =>
          some { state with connection := state.connection.sendVideo live }
      | _ => none
  | .stop =>
      match state.encode with
      | .idle (some live) => some { state with encode := .finishing live }
      | .idle none => some { state with encode := .ended }
      | _ => none
  | .sendOther message =>
      (state.connection.sendMessage (.other message)).map fun connection =>
        { state with connection := connection }
  | .dropSenders =>
      match state.encode with
      | .ended =>
          some { state with
            connection := { state.connection with sendersAlive := false } }
      | _ => none
  | .closeQueue =>
      some { state with
        connection := { state.connection with
          queue := state.connection.queue.close } }
  | .writer label =>
      (state.connection.step label).map fun connection =>
        { state with connection := connection }

/-- What a step does, and where the encode thread stood. -/
inductive StreamMove (state : StreamState Number) :
    StreamStep Number → StreamState Number → Prop
  | restartBegun (live : Option Nat) (phase : state.encode = .idle live) :
      StreamMove state .beginRestart
        { state with
          generation := state.generation + 1
          encode := .sendingNewVideo live }
  | newVideoSent (live : Option Nat)
      (connection : Connection (ControlMessage Number) Nat)
      (phase : state.encode = .sendingNewVideo live)
      (sent : state.connection.sendMessage (.newVideo state.generation) =
        some connection) :
      StreamMove state .sendNewVideo
        { state with connection := connection, encode := .creating live }
  | headerWritten (live : Option Nat) (phase : state.encode = .creating live) :
      StreamMove state .headerChunk
        { state with
          connection := state.connection.sendVideo state.generation }
  | opened (live : Option Nat) (codec : String)
      (phase : state.encode = .creating live) :
      StreamMove state (.created (some codec))
        { state with encode := .sendingVideoInit live codec }
  | openFailed (live : Option Nat) (phase : state.encode = .creating live) :
      StreamMove state (.created none)
        { state with encode := .replace live none }
  | videoInitSent (live : Option Nat) (codec : String)
      (connection : Connection (ControlMessage Number) Nat)
      (phase : state.encode = .sendingVideoInit live codec)
      (sent : state.connection.sendMessage
        (.videoInit state.generation codec) = some connection) :
      StreamMove state .sendVideoInit
        { state with
          connection := connection
          encode := .replace live (some state.generation) }
  | replacedTrailer (old : Nat) (live : Option Nat)
      (phase : state.encode = .dropping old live) :
      StreamMove state .trailerChunk
        { state with connection := state.connection.sendVideo old }
  | lastTrailer (old : Nat) (phase : state.encode = .finishing old) :
      StreamMove state .trailerChunk
        { state with connection := state.connection.sendVideo old }
  | replacedDropped (old : Nat) (live : Option Nat)
      (phase : state.encode = .dropping old live) :
      StreamMove state .dropped { state with encode := .idle live }
  | lastDropped (old : Nat) (phase : state.encode = .finishing old) :
      StreamMove state .dropped { state with encode := .ended }
  | encoded (live : Nat) (phase : state.encode = .idle (some live)) :
      StreamMove state .encodeChunk
        { state with connection := state.connection.sendVideo live }
  | finishes (live : Nat) (phase : state.encode = .idle (some live)) :
      StreamMove state .stop { state with encode := .finishing live }
  | stopped (phase : state.encode = .idle none) :
      StreamMove state .stop { state with encode := .ended }
  | otherSent (message : MessageOutbound Number)
      (connection : Connection (ControlMessage Number) Nat)
      (sent : state.connection.sendMessage (.other message) =
        some connection) :
      StreamMove state (.sendOther message)
        { state with connection := connection }
  | sendersDropped (phase : state.encode = .ended) :
      StreamMove state .dropSenders
        { state with
          connection := { state.connection with sendersAlive := false } }
  | queueClosed :
      StreamMove state .closeQueue
        { state with
          connection := { state.connection with
            queue := state.connection.queue.close } }
  | wrote (label : WriterStep)
      (connection : Connection (ControlMessage Number) Nat)
      (moved : state.connection.step label = some connection) :
      StreamMove state (.writer label) { state with connection := connection }

theorem streamMove_of_step {state next : StreamState Number}
    {label : StreamStep Number} (moved : state.step label = some next) :
    state.StreamMove label next := by
  cases label with
  | beginRestart =>
      simp only [step] at moved
      split at moved <;> cases moved
      exact .restartBegun _ ‹_›
  | sendNewVideo =>
      simp only [step] at moved
      split at moved
      · obtain ⟨connection, sent, rfl⟩ := Option.map_eq_some_iff.mp moved
        exact .newVideoSent _ connection ‹_› sent
      · cases moved
  | headerChunk =>
      simp only [step] at moved
      split at moved <;> cases moved
      exact .headerWritten _ ‹_›
  | created codecString =>
      simp only [step] at moved
      split at moved
      · split at moved <;> cases moved
        · exact .opened _ _ ‹_›
        · exact .openFailed _ ‹_›
      · cases moved
  | sendVideoInit =>
      simp only [step] at moved
      split at moved
      · obtain ⟨connection, sent, rfl⟩ := Option.map_eq_some_iff.mp moved
        exact .videoInitSent _ _ connection ‹_› sent
      · cases moved
  | trailerChunk =>
      simp only [step] at moved
      split at moved <;> cases moved
      · exact .replacedTrailer _ _ ‹_›
      · exact .lastTrailer _ ‹_›
  | dropped =>
      simp only [step] at moved
      split at moved <;> cases moved
      · exact .replacedDropped _ _ ‹_›
      · exact .lastDropped _ ‹_›
  | encodeChunk =>
      simp only [step] at moved
      split at moved <;> cases moved
      exact .encoded _ ‹_›
  | stop =>
      simp only [step] at moved
      split at moved <;> cases moved
      · exact .finishes _ ‹_›
      · exact .stopped ‹_›
  | sendOther message =>
      obtain ⟨connection, sent, rfl⟩ := Option.map_eq_some_iff.mp moved
      exact .otherSent message connection sent
  | dropSenders =>
      simp only [step] at moved
      split at moved <;> cases moved
      exact .sendersDropped ‹_›
  | closeQueue =>
      cases moved
      exact .queueClosed
  | writer label =>
      obtain ⟨connection, wrote, rfl⟩ := Option.map_eq_some_iff.mp moved
      exact .wrote label connection wrote

end StreamState

/-! ### Announcements -/

/-- The generation that a control message announces. -/
def ControlMessage.newVideo? {Number : Type*} :
    ControlMessage Number → Option Nat
  | .newVideo generation => some generation
  | .videoInit _ _ | .other _ => none

/-- The generations announced by the frames on the wire, in order. -/
def announcedOnWire {Number : Type*}
    (written : List (WsFrame (ControlMessage Number) Nat)) : List Nat :=
  (textsOf written).filterMap ControlMessage.newVideo?

/-- The chunk of a generation comes after the `NewVideo` of this generation
and before that of any later one. -/
def InStreamOrder {Number : Type*}
    (written : List (WsFrame (ControlMessage Number) Nat)) : Prop :=
  ∀ before chunk after, written = before ++ .binary chunk :: after →
    chunk ∈ announcedOnWire before ∧
      ∀ generation ∈ announcedOnWire before, generation ≤ chunk

section InStreamOrder

variable {Number : Type*}
  {written : List (WsFrame (ControlMessage Number) Nat)}

@[simp]
theorem announcedOnWire_append_binary
    (written : List (WsFrame (ControlMessage Number) Nat))
    (chunks : List Nat) :
    announcedOnWire (written ++ chunks.map .binary) =
      announcedOnWire written := by
  simp [announcedOnWire]

theorem inStreamOrder_nil :
    InStreamOrder ([] : List (WsFrame (ControlMessage Number) Nat)) := by
  intro before chunk after split
  simp at split

/-- One more frame keeps the order if it is a message, or a chunk of the
generation announced last. -/
theorem inStreamOrder_append (ordered : InStreamOrder written)
    (frame : WsFrame (ControlMessage Number) Nat)
    (latest : ∀ chunk, frame = .binary chunk →
      chunk ∈ announcedOnWire written ∧
        ∀ generation ∈ announcedOnWire written, generation ≤ chunk) :
    InStreamOrder (written ++ [frame]) := by
  intro before chunk after split
  rcases List.eq_nil_or_concat after with rfl | ⟨rest, last, rfl⟩
  · obtain ⟨rfl, same⟩ := List.append_inj' split rfl
    exact latest chunk (List.singleton_inj.mp same)
  · have shorter : written = before ++ .binary chunk :: rest := by
      rw [List.concat_eq_append, ← List.cons_append,
        ← List.append_assoc] at split
      exact (List.append_inj' split rfl).1
    exact ordered before chunk rest shorter

/-- Writing a queue keeps the order only if each of its chunks is of the
generation announced last. -/
theorem latest_of_inStreamOrder {chunks : List Nat}
    (ordered : InStreamOrder (written ++ chunks.map .binary))
    {chunk : Nat} (member : chunk ∈ chunks) :
    chunk ∈ announcedOnWire written ∧
      ∀ generation ∈ announcedOnWire written, generation ≤ chunk := by
  obtain ⟨ahead, behind, rfl⟩ := List.append_of_mem member
  have latest := ordered (written ++ ahead.map .binary) chunk
    (behind.map .binary) (by simp)
  rwa [announcedOnWire_append_binary] at latest

end InStreamOrder

namespace EncodePhase

/-- The encoders that exist and may still write chunks. -/
def encoders : EncodePhase → List Nat
  | .idle live | .sendingNewVideo live | .creating live
  | .sendingVideoInit live _ => live.toList
  | .dropping old live => old :: live.toList
  | .finishing old => [old]
  | .ended => []

/-- A new encoder has been announced and is not in `video_encoder` yet. -/
def IsOpening : EncodePhase → Prop
  | .creating _ | .sendingVideoInit _ _ => True
  | _ => False

theorem encoders_replace (old live : Option Nat) :
    (replace old live).encoders = old.toList ++ live.toList := by
  cases old <;> rfl

@[simp]
theorem not_isOpening_replace (old live : Option Nat) :
    ¬ (replace old live).IsOpening := by
  cases old <;> exact id

@[simp]
theorem replace_ne_sendingNewVideo (old live other : Option Nat) :
    replace old live ≠ .sendingNewVideo other := by
  cases old <;> simp [replace]

end EncodePhase

namespace StreamState

variable {Number : Type*} {state next : StreamState Number}

/-- Announcements the writer has received, oldest first. -/
def taken (state : StreamState Number) : List Nat :=
  state.connection.received.filterMap ControlMessage.newVideo?

/-- Announcements still in the control channel. -/
def waiting (state : StreamState Number) : List Nat :=
  state.connection.control.filterMap ControlMessage.newVideo?

/-- All announcements sent to a writer that is there. -/
def announced (state : StreamState Number) : List Nat :=
  state.connection.messages.filterMap ControlMessage.newVideo?

/-- The wire is in stream order so far. -/
def KeepsOrder (state : StreamState Number) : Prop :=
  InStreamOrder state.connection.written

/-- The writer drains the queue only when no chunk in it belongs to a
generation whose announcement is still in the control channel, or to a
generation before one whose announcement the writer has received. -/
def DrainsLatest (state : StreamState Number) :
    StreamStep Number → Prop
  | .writer .drain => ∀ chunk ∈ state.connection.queue.inner,
      chunk ∉ state.waiting ∧
        ∀ generation ∈ state.taken, generation ≤ chunk
  | _ => True

/-- What holds, order or not, while the writer is there. -/
structure Announcing (state : StreamState Number) : Prop where
  increasing : state.announced.Pairwise (· < ·)
  known : ∀ generation ∈ state.announced, generation ≤ state.generation
  pending : ∀ live, state.encode = .sendingNewVideo live →
    ∀ generation ∈ state.announced, generation < state.generation
  opening : state.encode.IsOpening → state.generation ∈ state.announced
  encoders : ∀ generation ∈ state.encode.encoders,
    generation ∈ state.announced
  queued : ∀ chunk ∈ state.connection.queue.inner, chunk ∈ state.announced

/-- The invariant of guarded runs: what has been drained can be written. -/
structure Ordered (state : StreamState Number) : Prop where
  wire : state.KeepsOrder
  announcing : state.connection.writer ≠ .ended → state.Announcing
  unsent : ∀ chunk ∈ state.connection.unsent,
    chunk ∈ announcedOnWire state.connection.written ∧
      ∀ generation ∈ announcedOnWire state.connection.written,
        generation ≤ chunk

theorem taken_append_waiting (state : StreamState Number) :
    state.taken ++ state.waiting = state.announced :=
  (List.filterMap_append ..).symm

/-- Before a drain no message is in hand. -/
theorem taken_eq (empty : state.connection.inHand = []) :
    state.taken = announcedOnWire state.connection.written := by
  simp [taken, Connection.received, announcedOnWire, empty]

theorem announcing_start : (start : StreamState Number).Announcing where
  increasing := List.Pairwise.nil
  known := by simp [announced, start, Connection.messages,
    Connection.received, Connection.new, Connection.inHand, textsOf]
  pending := by simp [start]
  opening := False.elim
  encoders := by simp [start, EncodePhase.encoders]
  queued := by simp [start, Connection.new, VideoQueue.new]

/-- A chunk of an announced generation may join the queue. -/
theorem Announcing.sendVideo (holds : state.Announcing) {generation : Nat}
    (isAnnounced : generation ∈ state.announced) :
    { state with
      connection := state.connection.sendVideo generation }.Announcing where
  increasing := holds.increasing
  known := holds.known
  pending := holds.pending
  opening := holds.opening
  encoders := holds.encoders
  queued := by
    intro chunk member
    rcases VideoQueue.mem_inner_push member with old | rfl
    · exact holds.queued chunk old
    · exact isAnnounced

/-- The encode thread moves on with the same announcements. -/
theorem Announcing.setEncode (holds : state.Announcing) (encode : EncodePhase)
    (pending : ∀ live, encode ≠ .sendingNewVideo live)
    (opening : encode.IsOpening → state.encode.IsOpening)
    (encoders : ∀ generation ∈ encode.encoders,
      generation ∈ state.announced) :
    { state with encode := encode }.Announcing where
  increasing := holds.increasing
  known := holds.known
  pending := fun live same => absurd same (pending live)
  opening := fun isOpening => holds.opening (opening isOpening)
  encoders := encoders
  queued := holds.queued

/-- A message that announces nothing may join the channel. -/
theorem Announcing.sendMessage (holds : state.Announcing)
    {message : ControlMessage Number} (silent : message.newVideo? = none)
    (alive : state.connection.writer ≠ .ended)
    {connection : Connection (ControlMessage Number) Nat}
    (sent : state.connection.sendMessage message = some connection) :
    { state with connection := connection }.Announcing := by
  obtain ⟨queue, writer, written, control⟩ :=
    Connection.sendMessage_spec sent
  have same : { state with connection := connection }.announced =
      state.announced := by
    simp [announced, Connection.messages, Connection.received,
      Connection.inHand, writer, written, control alive, silent]
  refine ⟨?_, ?_, ?_, ?_, ?_, ?_⟩
  · rw [same]
    exact holds.increasing
  · rw [same]
    exact holds.known
  · rw [same]
    exact holds.pending
  · rw [same]
    exact holds.opening
  · rw [same]
    exact holds.encoders
  · rw [same]
    simp only [queue]
    exact holds.queued

theorem Announcing.sendNewVideo (holds : state.Announcing) {live : Option Nat}
    (phase : state.encode = .sendingNewVideo live)
    (alive : state.connection.writer ≠ .ended)
    {connection : Connection (ControlMessage Number) Nat}
    (sent : state.connection.sendMessage (.newVideo state.generation) =
      some connection) :
    { state with
      connection := connection
      encode := .creating live }.Announcing := by
  obtain ⟨queue, writer, written, control⟩ :=
    Connection.sendMessage_spec sent
  have longer : { state with
      connection := connection
      encode := EncodePhase.creating live }.announced =
        state.announced ++ [state.generation] := by
    simp [announced, Connection.messages, Connection.received,
      Connection.inHand, writer, written, control alive,
      ControlMessage.newVideo?]
  have earlier := holds.pending live phase
  refine ⟨?_, ?_, ?_, ?_, ?_, ?_⟩
  · rw [longer]
    refine List.pairwise_append.mpr
      ⟨holds.increasing, List.pairwise_singleton _ _, ?_⟩
    intro generation member last isLast
    cases List.mem_singleton.mp isLast
    exact earlier generation member
  · rw [longer]
    intro generation member
    rcases List.mem_append.mp member with old | new
    · exact holds.known generation old
    · exact (List.mem_singleton.mp new).le
  · simp
  · rw [longer]
    simp
  · rw [longer]
    intro generation member
    refine List.mem_append_left _ (holds.encoders generation ?_)
    rw [phase]
    exact member
  · rw [longer]
    simp only [queue]
    exact fun chunk member =>
      List.mem_append_left _ (holds.queued chunk member)

theorem announcing_of_step {label : StreamStep Number}
    (holds : state.Announcing) (moved : state.step label = some next)
    (alive : next.connection.writer ≠ .ended) : next.Announcing := by
  -- encoders that a phase has had been announced before it
  have encoders {encode : EncodePhase} (phase : state.encode = encode) :
      ∀ generation ∈ encode.encoders, generation ∈ state.announced := by
    rw [← phase]
    exact holds.encoders
  cases streamMove_of_step moved with
  | restartBegun live phase =>
      have older := holds.known
      refine ⟨holds.increasing, ?_, ?_, False.elim,
        fun _ member => encoders phase _ member, holds.queued⟩
      · exact fun generation member =>
          (older generation member).trans (Nat.le_succ _)
      · exact fun _ _ generation member =>
          Nat.lt_succ_of_le (older generation member)
  | newVideoSent live connection phase sent =>
      have same := (Connection.sendMessage_spec sent).2.1
      exact holds.sendNewVideo phase (same ▸ alive) sent
  | headerWritten live phase =>
      apply holds.sendVideo
      apply holds.opening
      rw [phase]
      trivial
  | opened live codec phase =>
      refine holds.setEncode _ (by simp) ?_ fun _ member =>
        encoders phase _ member
      intro _
      rw [phase]
      trivial
  | openFailed live phase =>
      refine holds.setEncode _ (by simp) (by simp) ?_
      have known : ∀ generation ∈ live.toList, generation ∈ state.announced :=
        encoders phase
      simpa [EncodePhase.encoders_replace] using known
  | videoInitSent live codec connection phase sent =>
      have same := (Connection.sendMessage_spec sent).2.1
      have kept : { state with connection := connection }.Announcing :=
        holds.sendMessage rfl (same ▸ alive) sent
      refine kept.setEncode _ (by simp) (by simp) ?_
      intro generation member
      rw [EncodePhase.encoders_replace] at member
      rcases List.mem_append.mp member with old | new
      · apply kept.encoders
        rw [phase]
        exact old
      · have isNew : generation = state.generation := by simpa using new
        rw [isNew]
        apply kept.opening
        rw [phase]
        trivial
  | replacedTrailer _ _ phase | lastTrailer _ phase | encoded _ phase =>
      apply holds.sendVideo
      exact encoders phase _ (by simp [EncodePhase.encoders])
  | replacedDropped old live phase =>
      refine holds.setEncode _ (by simp) False.elim ?_
      intro generation member
      exact encoders phase generation (List.mem_cons_of_mem _ member)
  | finishes live phase =>
      exact holds.setEncode _ (by simp) False.elim fun _ member =>
        encoders phase _ member
  | lastDropped | stopped =>
      exact holds.setEncode _ (by simp) False.elim
        (by simp [EncodePhase.encoders])
  | otherSent message connection sent =>
      have same := (Connection.sendMessage_spec sent).2.1
      exact holds.sendMessage rfl (same ▸ alive) sent
  | sendersDropped | queueClosed =>
      exact ⟨holds.increasing, holds.known, holds.pending, holds.opening,
        holds.encoders, holds.queued⟩
  | wrote label connection wrote =>
      obtain ⟨messages, fewer⟩ := Connection.step_spec wrote alive
      have same : { state with connection := connection }.announced =
          state.announced := by
        simp [announced, messages]
      refine ⟨?_, ?_, ?_, ?_, ?_, ?_⟩ <;> rw [same]
      · exact holds.increasing
      · exact holds.known
      · exact holds.pending
      · exact holds.opening
      · exact holds.encoders
      · exact fun chunk member => holds.queued chunk (fewer chunk member)

/-- Only the writer moves the writer. -/
theorem writer_of_step {label : StreamStep Number}
    (moved : state.step label = some next)
    (notWriter : ∀ label', label ≠ .writer label') :
    next.connection.writer = state.connection.writer ∧
      next.connection.written = state.connection.written := by
  cases streamMove_of_step moved with
  | wrote label => exact absurd rfl (notWriter label)
  | newVideoSent _ _ _ sent | videoInitSent _ _ _ _ sent
  | otherSent _ _ sent =>
      obtain ⟨-, writer, written, -⟩ := Connection.sendMessage_spec sent
      exact ⟨writer, written⟩
  | restartBegun | headerWritten | opened | openFailed | replacedTrailer
  | lastTrailer | replacedDropped | lastDropped | encoded | finishes | stopped
  | sendersDropped | queueClosed => exact ⟨rfl, rfl⟩

theorem alive_of_step {label : StreamStep Number}
    (moved : state.step label = some next)
    (alive : next.connection.writer ≠ .ended) :
    state.connection.writer ≠ .ended := by
  intro gone
  by_cases isWriter : ∃ label', label = .writer label'
  · obtain ⟨label', rfl⟩ := isWriter
    rw [step, Connection.step_ended gone] at moved
    cases moved
  · have same := writer_of_step moved
      fun label' isLabel => isWriter ⟨label', isLabel⟩
    exact alive (same.1.trans gone)

/-- A guarded step keeps the wire, and what is about to be written, in stream
order. -/
theorem ordered_of_step {label : StreamStep Number}
    (holds : state.Ordered) (latest : state.DrainsLatest label)
    (moved : state.step label = some next) : next.Ordered := by
  have announcing (alive : next.connection.writer ≠ .ended) :
      next.Announcing :=
    announcing_of_step (holds.announcing (alive_of_step moved alive))
      moved alive
  by_cases isWriter : ∃ label', label = .writer label'
  · obtain ⟨label', rfl⟩ := isWriter
    obtain ⟨connection, wrote, rfl⟩ := Option.map_eq_some_iff.mp moved
    rcases Connection.written_step wrote with
      ⟨written, empty | ⟨rfl, noneInHand, drained⟩⟩ |
        ⟨data, unsent, written⟩ | ⟨message, empty, written⟩
    · refine ⟨?_, announcing, by simp [empty]⟩
      simp only [KeepsOrder, written]
      exact holds.wire
    · refine ⟨?_, announcing, ?_⟩
      · simp only [KeepsOrder, written]
        exact holds.wire
      · intro chunk member
        simp only [drained] at member
        obtain ⟨notWaiting, upToDate⟩ := latest chunk member
        have isAnnounced : chunk ∈ state.announced := by
          refine (holds.announcing ?_).queued chunk member
          intro gone
          rw [Connection.step_ended gone] at wrote
          cases wrote
        rw [← taken_append_waiting] at isAnnounced
        have isTaken : chunk ∈ state.taken :=
          (List.mem_append.mp isAnnounced).resolve_right notWaiting
        simp only [written]
        rw [taken_eq noneInHand] at isTaken upToDate
        exact ⟨isTaken, upToDate⟩
    · have ready := holds.unsent data (by simp [unsent])
      refine ⟨?_, announcing, ?_⟩
      · simp only [KeepsOrder, written]
        refine inStreamOrder_append holds.wire _ fun chunk same => ?_
        cases same
        exact ready
      · intro chunk member
        have same : announcedOnWire (state.connection.written ++
            [.binary data]) = announcedOnWire state.connection.written :=
          announcedOnWire_append_binary _ [data]
        simp only [written, same]
        exact holds.unsent chunk (by simp [unsent, show chunk ∈ _ from member])
    · refine ⟨?_, announcing, by simp [empty]⟩
      simp only [KeepsOrder, written]
      exact inStreamOrder_append holds.wire _ fun chunk same => by cases same
  · obtain ⟨writer, written⟩ := writer_of_step moved
      fun label' isLabel => isWriter ⟨label', isLabel⟩
    have unsent : next.connection.unsent = state.connection.unsent := by
      simp [Connection.unsent, writer]
    refine ⟨?_, announcing, ?_⟩
    · rw [KeepsOrder, written]
      exact holds.wire
    · rw [unsent, written]
      exact holds.unsent

/-- After any other drain, writing the drained chunks breaks the order. -/
theorem exists_run_breaks_order
    (announcing : state.connection.writer ≠ .ended → state.Announcing)
    (moved : state.step (.writer .drain) = some next)
    (outdated : ¬ state.DrainsLatest (.writer .drain)) :
    ∃ count final,
      Transition.run step next
        ((List.replicate count (.write true)).map .writer) = some final ∧
          ¬ final.KeepsOrder := by
  obtain ⟨connection, drains, rfl⟩ := Option.map_eq_some_iff.mp moved
  obtain ⟨draining, unsent, written⟩ :
      state.connection.writer = .draining ∧
        connection.unsent = state.connection.queue.inner ∧
          connection.written = state.connection.written := by
    cases Connection.writerMove_of_step drains with
    | foundEmpty draining empty => exact ⟨draining, empty.symm, rfl⟩
    | drained _ _ draining queued => exact ⟨draining, queued.symm, rfl⟩
  have noneInHand : state.connection.inHand = [] := by
    simp [Connection.inHand, draining]
  obtain ⟨final, finished, wrote⟩ := Connection.run_write connection
  refine ⟨connection.unsent.length, { state with connection := final }, ?_, ?_⟩
  · have lifted := Transition.run_component step Connection.step
      (fun connection => { state with connection := connection })
      (.writer : WriterStep → StreamStep Number) (fun _ _ => rfl)
      connection (List.replicate connection.unsent.length (.write true))
    rw [lifted, finished]
    rfl
  · intro ordered
    simp only [KeepsOrder, wrote, unsent, written] at ordered
    apply outdated
    intro chunk member
    obtain ⟨isTaken, upToDate⟩ := latest_of_inStreamOrder ordered member
    rw [← taken_eq noneInHand] at isTaken upToDate
    refine ⟨fun isWaiting => ?_, upToDate⟩
    have increasing := (announcing (by simp [draining])).increasing
    rw [← taken_append_waiting] at increasing
    exact Nat.lt_irrefl chunk ((List.pairwise_append.mp increasing).2.2
      chunk isTaken chunk isWaiting)

theorem announcing_of_reachable
    (reached : Transition.Reachable step (start : StreamState Number) state) :
    state.connection.writer ≠ .ended → state.Announcing := by
  apply reached.invariant
  · exact fun _ => announcing_start
  · intro before label after holds moved alive
    exact announcing_of_step (holds (alive_of_step moved alive)) moved alive

theorem ordered_start : (start : StreamState Number).Ordered where
  wire := inStreamOrder_nil
  announcing := fun _ => announcing_start
  unsent := by simp [start, Connection.new, Connection.unsent]

/-- Frames leave in stream order along an execution, however much of what the
writer holds is still written, exactly if the writer drains only chunks of
the generation announced to it last. -/
theorem keepsOrder_iff_drainsLatest
    (execution : Transition.Execution step (start : StreamState Number)) :
    execution.AlongContinuations StreamStep.IsWrite KeepsOrder ↔
      execution.StepsMeet DrainsLatest := by
  refine execution.alongContinuations_iff_stepsMeet Ordered ordered_start
    (fun _ => Ordered.wire) (fun _ _ _ => ordered_of_step) ?_ ?_
  · intro state label isWrite
    match label with
    | .writer (.write _) => trivial
  · intro before label after reached moved outdated
    have announcing := announcing_of_reachable reached
    match label with
    | .writer .drain =>
        obtain ⟨count, final, runs, broken⟩ :=
          exists_run_breaks_order announcing moved outdated
        refine ⟨_, final, ?_, runs, broken⟩
        intro label member
        obtain ⟨write, isWrite, rfl⟩ := List.mem_map.mp member
        rw [List.eq_of_mem_replicate isWrite]
        trivial
    | .writer (.write _) | .writer .pollNotified | .writer .pollRecv
    | .writer .wake | .beginRestart | .sendNewVideo | .headerChunk
    | .created _ | .sendVideoInit | .trailerChunk | .dropped | .encodeChunk
    | .stop | .sendOther _ | .dropSenders | .closeQueue =>
        exact absurd trivial outdated

/-- The writer starts a drain after `NewVideo` and the init segment have both
been sent. -/
def initBeforeNewVideo : List (StreamStep Nat) :=
  [.beginRestart, .sendNewVideo, .headerChunk, .writer .drain,
    .writer (.write true)]

/-- The init segment reaches the wire before the `NewVideo` of its
generation. -/
theorem initBeforeNewVideo_breaks_order :
    ∃ state, Transition.run step start initBeforeNewVideo = some state ∧
      ¬ state.KeepsOrder := by
  refine ⟨_, rfl, fun ordered => ?_⟩
  have announced := (ordered [] 1 [] rfl).1
  cases announced

end StreamState

end Rylus
