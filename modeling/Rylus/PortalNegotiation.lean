import Mathlib.Data.List.Infix
import Mathlib.Data.List.Nodup
import Mathlib.Tactic.IntervalCases

/-!
# Negotiating a portal session

`request_remote_desktop` asks xdg-desktop-portal for a capture session.  Each
request to the portal is answered by a signal; the handler of one answer makes
the next request.  The function waits for the last answer, a failure, or the
end of thirty seconds.

What the portal answers to a call is part of the answer whose handler makes
the call.
-/

namespace Rylus

/-- What `RefArg` shows of a D-Bus value.  A dictionary is iterated over as
its keys and values in turn. -/
inductive RefArg where
  | number (value : Nat)
  | string (text : String)
  | variant (inner : RefArg)
  | container (items : List RefArg)
  | other

namespace RefArg

def asU64 : RefArg → Option Nat
  | .number value => some value
  | .variant inner => inner.asU64
  | .string _ | .container _ | .other => none

def asStr : RefArg → Option String
  | .string text => some text
  | .variant inner => inner.asStr
  | .number _ | .container _ | .other => none

def asIter : RefArg → Option (List RefArg)
  | .container items => some items
  | .variant inner => some [inner]
  | .number _ | .string _ | .other => none

end RefArg

structure PwStreamInfo where
  path : Nat
  sourceType : Nat
  deriving DecidableEq

/-- The items with even and with odd positions. -/
def partitionParity : List RefArg → List RefArg × List RefArg
  | [] => ([], [])
  | [key] => ([key], [])
  | key :: value :: rest =>
      let (keys, values) := partitionParity rest
      (key :: keys, value :: values)

/-- A later entry of a `HashMap` replaces an earlier one. -/
def latest (attributes : List (String × RefArg)) (name : String) :
    Option RefArg :=
  attributes.reverse.lookup name

/-- One stream of the answer to `Start`. -/
def streamInfo (stream : RefArg) : Option PwStreamInfo := do
  let items ← stream.asIter
  let path ← (← items[0]?).asU64
  let (keys, values) := partitionParity (← (← items[1]?).asIter)
  let attributes := (keys.filterMap RefArg.asStr).zip values
  let sourceType ←
    match latest attributes "source_type" with
    | none => some 0
    | some value => value.asU64
  return ⟨path, sourceType⟩

def streamsFromResponse (results : List (String × RefArg)) :
    List PwStreamInfo :=
  let streams := do
    let items ← (← results.lookup "streams").asIter
    let streams ← (← items[0]?).asIter
    return streams.filterMap streamInfo
  streams.getD []

/-- A stream as the portal lists it, its attributes named differently. -/
structure PortalStream where
  node : Nat
  attributes : List (String × RefArg)
  named : (attributes.map Prod.fst).Nodup

namespace PortalStream

/-- The pair of the node and the dictionary of attributes. -/
def arg (stream : PortalStream) : RefArg :=
  .container [.number stream.node, .container (stream.attributes.flatMap
    fun entry => [.string entry.1, .variant entry.2])]

/-- A stream of unknown type has type 0; one whose type is no number is not
understood. -/
def info (stream : PortalStream) : Option PwStreamInfo :=
  match stream.attributes.lookup "source_type" with
  | none => some ⟨stream.node, 0⟩
  | some value => value.asU64.map fun sourceType => ⟨stream.node, sourceType⟩

end PortalStream

theorem partitionParity_dictionary (attributes : List (String × RefArg)) :
    partitionParity (attributes.flatMap fun entry =>
        [.string entry.1, .variant entry.2]) =
      (attributes.map fun entry => .string entry.1,
        attributes.map fun entry => .variant entry.2) := by
  induction attributes with
  | nil => rfl
  | cons entry rest ih =>
      rw [List.flatMap_cons]
      simp only [List.cons_append, List.nil_append, partitionParity, ih,
        List.map_cons]

theorem latest_of_nodup (attributes : List (String × RefArg))
    (named : (attributes.map Prod.fst).Nodup) (name : String) :
    latest attributes name = attributes.lookup name := by
  induction attributes with
  | nil => rfl
  | cons entry rest ih =>
      obtain ⟨absent, later⟩ := List.nodup_cons.mp named
      have earlier : latest (entry :: rest) name =
          (latest rest name).or (List.lookup name [entry]) := by
        unfold latest
        rw [List.reverse_cons, List.lookup_append]
      rw [earlier, ih later]
      by_cases same : name = entry.1
      · have missing : rest.lookup name = none := by
          rw [List.lookup_eq_none_iff]
          intro other member
          have apart : entry.1 ≠ other.1 := fun equal =>
            absent (equal ▸ List.mem_map_of_mem member)
          rw [same]
          exact bne_iff_ne.mpr apart
        rw [missing, Option.none_or, List.lookup_cons, List.lookup_cons]
        simp [same]
      · have skips : ∀ others : List (String × RefArg),
            List.lookup name (entry :: others) =
              others.lookup name := by
          intro others
          rw [List.lookup_cons, beq_false_of_ne same]
        rw [skips, skips, List.lookup_nil, Option.or_none]

theorem lookup_variants (attributes : List (String × RefArg))
    (name : String) :
    (attributes.map fun entry =>
        (entry.1, RefArg.variant entry.2)).lookup name =
      (attributes.lookup name).map .variant := by
  induction attributes with
  | nil => rfl
  | cons entry rest ih =>
      rw [List.map_cons, List.lookup_cons, List.lookup_cons, ih]
      split <;> rfl

theorem streamInfo_arg (stream : PortalStream) :
    streamInfo stream.arg = stream.info := by
  have attributes : ((stream.attributes.map fun entry =>
        RefArg.string entry.1).filterMap RefArg.asStr).zip
        (stream.attributes.map fun entry =>
          RefArg.variant entry.2) =
      stream.attributes.map fun entry =>
        (entry.1, RefArg.variant entry.2) := by
    rw [List.filterMap_map]
    have names : stream.attributes.filterMap (RefArg.asStr ∘ fun entry =>
        RefArg.string entry.1) = stream.attributes.map Prod.fst :=
      congrFun (List.filterMap_eq_map (f := Prod.fst)) _
    rw [names, List.zip_map']
  have named : ((stream.attributes.map fun entry =>
      (entry.1, RefArg.variant entry.2)).map Prod.fst).Nodup := by
    rw [List.map_map]
    exact stream.named
  simp only [streamInfo, PortalStream.arg, RefArg.asIter, RefArg.asU64,
    List.getElem?_cons_zero, List.getElem?_cons_succ, Option.bind_eq_bind,
    Option.bind_some, partitionParity_dictionary, attributes,
    latest_of_nodup _ named, lookup_variants, PortalStream.info]
  cases stream.attributes.lookup "source_type" with
  | none => rfl
  | some value =>
      simp only [Option.map_some, RefArg.asU64]
      cases value.asU64 <;> rfl

/-- Every list of streams is read back, with the node and the type of each
stream that is understood, whatever its other attributes. -/
theorem streamsFromResponse_listed (streams : List PortalStream)
    (results : List (String × RefArg))
    (listed : results.lookup "streams" =
      some (.variant (.container (streams.map PortalStream.arg)))) :
    streamsFromResponse results = streams.filterMap PortalStream.info := by
  have read : (streams.map PortalStream.arg).filterMap streamInfo =
      streams.filterMap PortalStream.info := by
    rw [List.filterMap_map]
    congr 1
    funext stream
    exact streamInfo_arg stream
  simp only [streamsFromResponse, listed, RefArg.asIter,
    List.getElem?_cons_zero, Option.bind_eq_bind, Option.bind_some, read]
  rfl

theorem streamsFromResponse_listed_two :
    let monitor : PortalStream :=
      ⟨42, [("position", .other), ("source_type", .number 1)], by decide⟩
    let unnamed : PortalStream := ⟨43, [], by decide⟩
    let results := [("streams", RefArg.variant
      (.container [monitor.arg, unnamed.arg]))]
    results.lookup "streams" =
        some (.variant (.container ([monitor, unnamed].map
          PortalStream.arg))) ∧
      streamsFromResponse results = [⟨42, 1⟩, ⟨43, 0⟩] := by
  intro monitor unnamed results
  exact ⟨rfl, streamsFromResponse_listed [monitor, unnamed] results rfl⟩

/-- Requests whose answers are awaited. -/
inductive PortalRequest where
  | createSession
  | selectDevices
  | selectSources
  | start
  deriving DecidableEq

inductive PortalCall where
  | createSession (remoteDesktop : Bool)
  | selectDevices (session : String) (types : Nat)
  | selectSources (session : String) (types cursorMode : Nat)
  | start (remoteDesktop : Bool) (session : String)
  | openPipeWireRemote (session : String)
  deriving DecidableEq

/-- `CallBackContext`, with the handlers registered for answers and the calls
made so far. -/
structure CallBackContext where
  captureCursor : Bool
  session : String
  streams : List PwStreamInfo
  fd : Option Nat
  restoreToken : Option String
  hasRemoteDesktop : Bool
  failure : Bool
  handlers : List PortalRequest
  calls : List PortalCall

/-- How the portal and the bus answer the calls of one handler: the
properties it reads, `add_match`, and the call itself. -/
structure CallOutcome where
  types : Except String Nat
  cursorModes : Except String Nat
  registers : Except String Unit
  accepts : Except String Unit
  fd : Except String Nat

/-- A `Response` signal. -/
structure PortalResponse where
  request : PortalRequest
  response : Nat
  results : List (String × RefArg)
  outcome : CallOutcome

/-- The mode in which the cursor is captured, by the modes available. -/
def cursorMode (captureCursor : Bool) (available : Except String Nat) : Nat :=
  if captureCursor then
    let available := available.toOption.getD 0
    if available &&& 4 ≠ 0 then 4
    else if available &&& 2 ≠ 0 then 2
    else 1
  else
    1

namespace CallBackContext

/-- Register the handler of an answer, then make the call. -/
def request (context : CallBackContext) (outcome : CallOutcome)
    (request : PortalRequest) (call : PortalCall) :
    CallBackContext × Except String Unit :=
  match outcome.registers with
  | .error err => (context, .error err)
  | .ok () =>
      ({ context with
        handlers := context.handlers ++ [request]
        calls := context.calls ++ [call] }, outcome.accepts)

def selectSources (context : CallBackContext) (outcome : CallOutcome) :
    CallBackContext × Except String Unit :=
  match outcome.types with
  | .error err => (context, .error err)
  | .ok sourceTypes =>
      let mode := cursorMode context.captureCursor outcome.cursorModes
      context.request outcome .selectSources
        (.selectSources context.session sourceTypes mode)

def selectDevices (context : CallBackContext) (outcome : CallOutcome) :
    CallBackContext × Except String Unit :=
  match outcome.types with
  | .error err => (context, .error err)
  | .ok deviceTypes =>
      context.request outcome .selectDevices
        (.selectDevices context.session deviceTypes)

def onCreateSessionResponse (context : CallBackContext)
    (r : PortalResponse) : CallBackContext × Except String Unit :=
  match r.results.lookup "session_handle" with
  | none =>
      (context, .error "Failed to obtain session_handle from response")
  | some handle =>
      match handle.asStr with
      | none =>
          (context, .error "Failed to convert session_handle to string.")
      | some session =>
          let context := { context with session := session }
          if context.hasRemoteDesktop then context.selectDevices r.outcome
          else context.selectSources r.outcome

def onSelectSourcesResponse (context : CallBackContext)
    (r : PortalResponse) : CallBackContext × Except String Unit :=
  context.request r.outcome .start
    (.start context.hasRemoteDesktop context.session)

def onStartResponse (context : CallBackContext) (r : PortalResponse) :
    CallBackContext × Except String Unit :=
  let context := { context with
    streams := context.streams ++ streamsFromResponse r.results
    calls := context.calls ++ [.openPipeWireRemote context.session] }
  match r.outcome.fd with
  | .error err => (context, .error err)
  | .ok fd =>
      let token := (r.results.lookup "restore_token").bind RefArg.asStr
      ({ context with
        fd := some fd
        restoreToken := token.or context.restoreToken }, .ok ())

/-- What the handler of an answer does. -/
def respond (context : CallBackContext) (r : PortalResponse) :
    CallBackContext × Except String Unit :=
  match r.request with
  | .createSession => context.onCreateSessionResponse r
  | .selectDevices => context.selectSources r.outcome
  | .selectSources => context.onSelectSourcesResponse r
  | .start => context.onStartResponse r

/-- The closure of `register_response_handler`, for a signal that has a
handler. -/
def handle (context : CallBackContext) (r : PortalResponse) :
    CallBackContext :=
  if r.request ∈ context.handlers then
    if r.response = 0 then
      match context.respond r with
      | (context, .ok ()) => context
      | (context, .error _) => { context with failure := true }
    else
      { context with failure := true }
  else
    context

/-- The first request, `CreateSession`. -/
def opening (captureCursor hasRemoteDesktop : Bool) : CallBackContext where
  captureCursor := captureCursor
  session := ""
  streams := []
  fd := none
  restoreToken := none
  hasRemoteDesktop := hasRemoteDesktop
  failure := false
  handlers := [.createSession]
  calls := [.createSession hasRemoteDesktop]

/-- The loop that processes messages until the descriptor is there or the
negotiation has failed; a round is what one `conn.process` delivers. -/
def await (rounds : Nat → Except String (List PortalResponse)) :
    Nat → Nat → CallBackContext → Except String CallBackContext
  | _, 0, context => .ok context
  | round, left + 1, context =>
      match rounds round with
      | .error err => .error err
      | .ok responses =>
          let context := responses.foldl handle context
          if context.fd.isSome || context.failure then .ok context
          else await rounds (round + 1) left context

/-- What is returned after the loop. -/
def outcome (context : CallBackContext) :
    Except String (String × Nat × List PwStreamInfo) :=
  if context.failure then
    .error ("Portal request failed: user cancelled or an error occurred " ++
      "during the D-Bus screen capture negotiation.")
  else
    match context.fd with
    | some fd =>
        if context.streams.isEmpty then
          .error ("Portal returned a file descriptor but no PipeWire " ++
            "streams. The compositor may not support screen casting.")
        else
          .ok (context.session, fd, context.streams)
    | none =>
        .error ("Timed out (30s) waiting for the portal screen capture " ++
          "dialog. Please respond to the dialog or check that " ++
          "xdg-desktop-portal is running.")

end CallBackContext

/-- `timeout_iters`. -/
def timeoutIters : Nat := 300

def requestRemoteDesktop (captureCursor hasRemoteDesktop : Bool)
    (connects registers accepts : Except String Unit)
    (rounds : Nat → Except String (List PortalResponse)) :
    Except String (String × Nat × List PwStreamInfo) := do
  connects
  registers
  accepts
  let context ← CallBackContext.await rounds 0 timeoutIters
    (.opening captureCursor hasRemoteDesktop)
  context.outcome

/-- The requests of a negotiation, in their order. -/
def portalRequests (hasRemoteDesktop : Bool) : List PortalRequest :=
  if hasRemoteDesktop then
    [.createSession, .selectDevices, .selectSources, .start]
  else
    [.createSession, .selectSources, .start]

namespace PortalCall

/-- The request that a call makes; opening the remote is none. -/
def request? : PortalCall → Option PortalRequest
  | .createSession _ => some .createSession
  | .selectDevices _ _ => some .selectDevices
  | .selectSources _ _ _ => some .selectSources
  | .start _ _ => some .start
  | .openPipeWireRemote _ => none

/-- The call is made to the interface chosen, and for this session. -/
def IsFor (hasRemoteDesktop : Bool) (session : String) : PortalCall → Prop
  | .createSession remoteDesktop => remoteDesktop = hasRemoteDesktop
  | .start remoteDesktop handle =>
      remoteDesktop = hasRemoteDesktop ∧ handle = session
  | .selectDevices handle _ | .selectSources handle _ _
  | .openPipeWireRemote handle => handle = session

end PortalCall

/-- All calls of a negotiation that succeeds. -/
def allCalls (hasRemoteDesktop : Bool) : List (Option PortalRequest) :=
  (portalRequests hasRemoteDesktop).map some ++ [none]

namespace CallBackContext

variable {context : CallBackContext} {r : PortalResponse}

/-- The request that the handler of an answer makes. -/
def following (hasRemoteDesktop : Bool) : PortalRequest → Option PortalRequest
  | .createSession =>
      some (if hasRemoteDesktop then .selectDevices else .selectSources)
  | .selectDevices => some .selectSources
  | .selectSources => some .start
  | .start => none

/-- What an answer that is handled does to the context. -/
inductive Responds (context : CallBackContext) (r : PortalResponse) :
    CallBackContext → Prop
  | stays (next : CallBackContext)
      (handlers : next.handlers = context.handlers)
      (calls : next.calls = context.calls) (fd : next.fd = context.fd)
      (streams : next.streams = context.streams)
      (session : r.request ≠ .createSession →
        next.session = context.session) : Responds context r next
  | requests (next : CallBackContext) (request : PortalRequest)
      (call : PortalCall)
      (follows : following context.hasRemoteDesktop r.request = some request)
      (makes : call.request? = some request)
      (isFor : call.IsFor context.hasRemoteDesktop next.session)
      (handlers : next.handlers = context.handlers ++ [request])
      (calls : next.calls = context.calls ++ [call])
      (fd : next.fd = context.fd)
      (streams : next.streams = context.streams)
      (session : r.request ≠ .createSession →
        next.session = context.session) : Responds context r next
  | opens (next : CallBackContext) (isStart : r.request = .start)
      (handlers : next.handlers = context.handlers)
      (calls : next.calls = context.calls ++
        [.openPipeWireRemote context.session])
      (streams : next.streams =
        context.streams ++ streamsFromResponse r.results)
      (session : next.session = context.session) : Responds context r next

/-- A context that is the same up to its session. -/
theorem responds_request {middle : CallBackContext} {outcome : CallOutcome}
    {request : PortalRequest} {call : PortalCall}
    (follows : following context.hasRemoteDesktop r.request = some request)
    (makes : call.request? = some request)
    (isFor : call.IsFor context.hasRemoteDesktop middle.session)
    (handlers : middle.handlers = context.handlers)
    (calls : middle.calls = context.calls) (fd : middle.fd = context.fd)
    (streams : middle.streams = context.streams)
    (session : r.request ≠ .createSession →
      middle.session = context.session) :
    context.Responds r (middle.request outcome request call).1 := by
  unfold CallBackContext.request
  split
  · exact .stays _ handlers calls fd streams session
  · exact .requests _ request call follows makes isFor (by simp [handlers])
      (by simp [calls]) fd streams session

theorem responds_selectSources {middle : CallBackContext}
    {outcome : CallOutcome}
    (follows : following context.hasRemoteDesktop r.request =
      some .selectSources)
    (handlers : middle.handlers = context.handlers)
    (calls : middle.calls = context.calls) (fd : middle.fd = context.fd)
    (streams : middle.streams = context.streams)
    (session : r.request ≠ .createSession →
      middle.session = context.session) :
    context.Responds r (middle.selectSources outcome).1 := by
  unfold selectSources
  split
  · exact .stays _ handlers calls fd streams session
  · exact responds_request follows rfl rfl handlers calls fd streams session

theorem responds_respond (context : CallBackContext) (r : PortalResponse) :
    context.Responds r (context.respond r).1 := by
  unfold respond
  split
  · rename_i isCreate
    have first : ∀ handle : String, r.request ≠ .createSession →
        handle = context.session := fun _ other => absurd isCreate other
    unfold onCreateSessionResponse
    split
    · exact .stays _ rfl rfl rfl rfl fun _ => rfl
    · split
      · exact .stays _ rfl rfl rfl rfl fun _ => rfl
      · rename_i session _
        dsimp only
        split
        · rename_i remoteDesktop
          unfold selectDevices
          split
          · exact .stays _ rfl rfl rfl rfl (first session)
          · refine responds_request ?_ rfl rfl rfl rfl rfl rfl (first session)
            simp [following, isCreate, remoteDesktop]
        · rename_i screenCast
          refine responds_selectSources ?_ rfl rfl rfl rfl (first session)
          simp [following, isCreate, screenCast]
  · rename_i isDevices
    refine responds_selectSources ?_ rfl rfl rfl rfl fun _ => rfl
    simp [following, isDevices]
  · rename_i isSources
    unfold onSelectSourcesResponse
    refine responds_request ?_ rfl ⟨rfl, rfl⟩ rfl rfl rfl rfl fun _ => rfl
    simp [following, isSources]
  · rename_i isStart
    unfold onStartResponse
    dsimp only
    split
    · exact .opens _ isStart rfl rfl rfl rfl
    · exact .opens _ isStart rfl rfl rfl rfl

theorem request_hasRemoteDesktop (context : CallBackContext)
    (outcome : CallOutcome) (request : PortalRequest) (call : PortalCall) :
    (context.request outcome request call).1.hasRemoteDesktop =
      context.hasRemoteDesktop := by
  unfold CallBackContext.request
  split <;> rfl

theorem selectSources_hasRemoteDesktop (context : CallBackContext)
    (outcome : CallOutcome) :
    (context.selectSources outcome).1.hasRemoteDesktop =
      context.hasRemoteDesktop := by
  unfold selectSources
  split
  · rfl
  · exact request_hasRemoteDesktop _ _ _ _

theorem respond_hasRemoteDesktop (context : CallBackContext)
    (r : PortalResponse) :
    (context.respond r).1.hasRemoteDesktop = context.hasRemoteDesktop := by
  unfold respond
  split
  · unfold onCreateSessionResponse
    split
    · rfl
    · split
      · rfl
      · dsimp only
        split
        · unfold selectDevices
          split
          · rfl
          · exact request_hasRemoteDesktop _ _ _ _
        · exact selectSources_hasRemoteDesktop _ _
  · exact selectSources_hasRemoteDesktop _ _
  · exact request_hasRemoteDesktop _ _ _ _
  · unfold onStartResponse
    dsimp only
    split <;> rfl

/-- How far a negotiation is whose first `stage` requests have been made; the
answers to all but the last of them have come. -/
structure Stage (context : CallBackContext) (answered : List PortalRequest)
    (stage : Nat) : Prop where
  positive : 0 < stage
  bounded : stage ≤ (portalRequests context.hasRemoteDesktop).length
  handlers : context.handlers =
    (portalRequests context.hasRemoteDesktop).take stage
  earlier : ∀ request ∈
    (portalRequests context.hasRemoteDesktop).take (stage - 1),
    request ∈ answered
  isFor : ∀ call ∈ context.calls,
    call.IsFor context.hasRemoteDesktop context.session

/-- Either the last request made is the last call, or everything has been
called. -/
inductive Negotiating (context : CallBackContext)
    (answered : List PortalResponse) : Prop
  | asking (stage : Nat)
      (isAt : context.Stage (answered.map PortalResponse.request) stage)
      (calls : context.calls.map PortalCall.request? =
        ((portalRequests context.hasRemoteDesktop).take stage).map some)
      (unopened : context.fd = none) (unlisted : context.streams = [])
  | opened (start : PortalResponse) (came : start ∈ answered)
      (isStart : start.request = .start) (accepted : start.response = 0)
      (isAt : context.Stage (answered.map PortalResponse.request)
        (portalRequests context.hasRemoteDesktop).length)
      (calls : context.calls.map PortalCall.request? =
        allCalls context.hasRemoteDesktop)
      (streams : context.streams = streamsFromResponse start.results)

/-- A request whose answer has not come yet is the last one made. -/
theorem unanswered {answered : List PortalRequest} {stage : Nat}
    (isAt : context.Stage answered stage)
    (registered : r.request ∈ context.handlers)
    (fresh : r.request ∉ answered) :
    (portalRequests context.hasRemoteDesktop)[stage - 1]? =
      some r.request := by
  obtain ⟨positive, bounded, handlers, earlier, -⟩ := isAt
  rw [handlers] at registered
  have last : stage - 1 < (portalRequests context.hasRemoteDesktop).length := by
    omega
  have split : (portalRequests context.hasRemoteDesktop).take stage =
      (portalRequests context.hasRemoteDesktop).take (stage - 1) ++
        [(portalRequests context.hasRemoteDesktop)[stage - 1]] := by
    rw [List.take_append_getElem last]
    congr 1
    omega
  rw [split, List.mem_append, List.mem_singleton] at registered
  rw [List.getElem?_eq_getElem last]
  rcases registered with before | isLast
  · exact absurd (earlier _ before) fresh
  · rw [isLast]

/-- The request that follows one in the order is the next in the list. -/
theorem following_getElem (hasRemoteDesktop : Bool) (index : Nat)
    (request : PortalRequest)
    (isAt : (portalRequests hasRemoteDesktop)[index]? = some request) :
    following hasRemoteDesktop request =
      (portalRequests hasRemoteDesktop)[index + 1]? := by
  have bound : index < (portalRequests hasRemoteDesktop).length :=
    (List.getElem?_eq_some_iff.mp isAt).1
  cases hasRemoteDesktop
  · have few : index < 3 := bound
    interval_cases index <;> cases isAt <;> rfl
  · have few : index < 4 := bound
    interval_cases index <;> cases isAt <;> rfl

/-- An answer to `CreateSession` is the first one, and `CreateSession` is for
no session yet. -/
theorem isFor_next {answered : List PortalRequest} {stage : Nat}
    {next : CallBackContext} (isAt : context.Stage answered stage)
    (isLast : (portalRequests context.hasRemoteDesktop)[stage - 1]? =
      some r.request)
    (calls : context.calls.map PortalCall.request? =
      ((portalRequests context.hasRemoteDesktop).take stage).map some)
    (session : r.request ≠ .createSession →
      next.session = context.session) :
    ∀ call ∈ context.calls,
      call.IsFor context.hasRemoteDesktop next.session := by
  intro call member
  have isFor := isAt.isFor call member
  by_cases isCreate : r.request = .createSession
  · have first : stage = 1 := by
      have bound : stage - 1 < (portalRequests
          context.hasRemoteDesktop).length :=
        (List.getElem?_eq_some_iff.mp isLast).1
      have positive := isAt.positive
      rw [isCreate] at isLast
      cases remote : context.hasRemoteDesktop <;>
        simp only [remote, portalRequests] at isLast bound
      · have few : stage - 1 < 3 := bound
        interval_cases index : stage - 1 <;> first | omega | cases isLast
      · have few : stage - 1 < 4 := bound
        interval_cases index : stage - 1 <;> first | omega | cases isLast
    have requests : call.request? ∈ [some PortalRequest.createSession] := by
      have only : ((portalRequests context.hasRemoteDesktop).take
          stage).map some = [some PortalRequest.createSession] := by
        rw [first]
        cases context.hasRemoteDesktop <;> rfl
      rw [← only, ← calls]
      exact List.mem_map_of_mem member
    rw [List.mem_singleton] at requests
    cases call <;> first | exact isFor | cases requests
  · rw [session isCreate]
    exact isFor

/-- An answer to the last request made leaves none of them unanswered. -/
theorem Stage.answered_of_last {answered : List PortalRequest} {stage : Nat}
    (isAt : context.Stage answered stage)
    (isLast : (portalRequests context.hasRemoteDesktop)[stage - 1]? =
      some r.request) :
    ∀ request ∈ (portalRequests context.hasRemoteDesktop).take stage,
      request ∈ answered ++ [r.request] := by
  have split : (portalRequests context.hasRemoteDesktop).take stage =
      (portalRequests context.hasRemoteDesktop).take (stage - 1) ++
        [r.request] := by
    obtain ⟨bound, same⟩ := List.getElem?_eq_some_iff.mp isLast
    rw [← same, List.take_append_getElem bound,
      Nat.sub_add_cancel isAt.positive]
  intro request member
  rw [split, List.mem_append] at member
  rcases member with before | last
  · exact List.mem_append_left _ (isAt.earlier request before)
  · exact List.mem_append_right _ last

/-- When everything has been called, no answer is awaited any more. -/
theorem answered_of_opened {answered : List PortalResponse}
    {start : PortalResponse} (came : start ∈ answered)
    (isStart : start.request = .start)
    (isAt : context.Stage (answered.map PortalResponse.request)
      (portalRequests context.hasRemoteDesktop).length)
    (registered : r.request ∈ context.handlers) :
    r.request ∈ answered.map PortalResponse.request := by
  by_contra fresh
  have isLast := unanswered isAt registered fresh
  have again : r.request = .start := by
    cases remoteDesktop : context.hasRemoteDesktop <;>
      rw [remoteDesktop] at isLast <;>
      exact (Option.some.inj isLast).symm
  have started := List.mem_map_of_mem (f := PortalResponse.request) came
  rw [isStart, ← again] at started
  exact fresh started

section

/-! The last request made is answered. -/

variable {next : CallBackContext} {answered : List PortalResponse}
  {stage : Nat}
  (isAt : context.Stage (answered.map PortalResponse.request) stage)
  (isLast : (portalRequests context.hasRemoteDesktop)[stage - 1]? =
    some r.request)
  (calls : context.calls.map PortalCall.request? =
    ((portalRequests context.hasRemoteDesktop).take stage).map some)
  (unlisted : context.streams = [])
  (remote : next.hasRemoteDesktop = context.hasRemoteDesktop)

include isAt isLast calls unlisted remote

/-- Its handler makes no call. -/
theorem negotiating_stays (unopened : context.fd = none)
    (handlers : next.handlers = context.handlers)
    (sameCalls : next.calls = context.calls) (fd : next.fd = context.fd)
    (streams : next.streams = context.streams)
    (session : r.request ≠ .createSession →
      next.session = context.session) :
    next.Negotiating (answered ++ [r]) := by
  refine .asking stage ⟨isAt.positive, ?_, ?_, ?_, ?_⟩ ?_ ?_ ?_
  · rw [remote]
    exact isAt.bounded
  · rw [handlers, remote]
    exact isAt.handlers
  · rw [remote, List.map_append]
    exact fun request member =>
      List.mem_append_left _ (isAt.earlier request member)
  · rw [sameCalls, remote]
    exact isFor_next isAt isLast calls session
  · rw [sameCalls, remote]
    exact calls
  · exact fd.trans unopened
  · exact streams.trans unlisted

/-- Its handler makes the next request. -/
theorem negotiating_requests (unopened : context.fd = none)
    {request : PortalRequest} {call : PortalCall}
    (follows : following context.hasRemoteDesktop r.request = some request)
    (makes : call.request? = some request)
    (isFor : call.IsFor context.hasRemoteDesktop next.session)
    (handlers : next.handlers = context.handlers ++ [request])
    (moreCalls : next.calls = context.calls ++ [call])
    (fd : next.fd = context.fd) (streams : next.streams = context.streams)
    (session : r.request ≠ .createSession →
      next.session = context.session) :
    next.Negotiating (answered ++ [r]) := by
  rw [following_getElem _ _ _ isLast,
    Nat.sub_add_cancel isAt.positive] at follows
  obtain ⟨bound, same⟩ := List.getElem?_eq_some_iff.mp follows
  have split : (portalRequests context.hasRemoteDesktop).take (stage + 1) =
      (portalRequests context.hasRemoteDesktop).take stage ++ [request] := by
    rw [← same, List.take_append_getElem bound]
  refine .asking (stage + 1) ⟨Nat.succ_pos _, ?_, ?_, ?_, ?_⟩ ?_ ?_ ?_
  · rw [remote]
    exact bound
  · rw [handlers, remote, split, isAt.handlers]
  · rw [remote, List.map_append]
    exact isAt.answered_of_last isLast
  · rw [moreCalls, remote]
    intro made member
    rcases List.mem_append.mp member with before | isNew
    · exact isFor_next isAt isLast calls session made before
    · rw [List.mem_singleton.mp isNew]
      exact isFor
  · rw [moreCalls, remote, split]
    simp [calls, makes]
  · exact fd.trans unopened
  · exact streams.trans unlisted

/-- It is `Start`, and its handler opens the remote. -/
theorem negotiating_opens (isStart : r.request = .start)
    (accepted : r.response = 0)
    (handlers : next.handlers = context.handlers)
    (moreCalls : next.calls = context.calls ++
      [.openPipeWireRemote context.session])
    (streams : next.streams =
      context.streams ++ streamsFromResponse r.results)
    (session : next.session = context.session) :
    next.Negotiating (answered ++ [r]) := by
  have whole : stage = (portalRequests context.hasRemoteDesktop).length := by
    have follows := following_getElem _ _ _ isLast
    rw [Nat.sub_add_cancel isAt.positive, isStart] at follows
    exact le_antisymm isAt.bounded
      (List.getElem?_eq_none_iff.mp follows.symm)
  refine .opened r (by simp) isStart accepted ⟨?_, le_rfl, ?_, ?_, ?_⟩ ?_ ?_
  · rw [remote, ← whole]
    exact isAt.positive
  · rw [handlers, remote, isAt.handlers, whole]
  · rw [remote, ← whole, List.map_append]
    exact fun request member =>
      List.mem_append_left _ (isAt.earlier request member)
  · rw [moreCalls, remote, session]
    intro made member
    rcases List.mem_append.mp member with before | isNew
    · exact isAt.isFor made before
    · rw [List.mem_singleton.mp isNew]
      rfl
  · rw [moreCalls, remote, allCalls, List.map_append, calls, whole,
      List.take_length]
    rfl
  · rw [streams, unlisted, List.nil_append]

end

theorem negotiating_respond {answered : List PortalResponse}
    (negotiating : context.Negotiating answered)
    (registered : r.request ∈ context.handlers)
    (fresh : r.request ∉ answered.map PortalResponse.request)
    (accepted : r.response = 0) :
    (context.respond r).1.Negotiating (answered ++ [r]) := by
  have remote := respond_hasRemoteDesktop context r
  have responds := responds_respond context r
  generalize (context.respond r).1 = next at remote responds
  cases negotiating with
  | opened start came isStart _ isAt =>
      exact absurd (answered_of_opened came isStart isAt registered) fresh
  | asking stage isAt calls unopened unlisted =>
      have isLast := unanswered isAt registered fresh
      cases responds with
      | stays handlers sameCalls fd streams session =>
          exact negotiating_stays isAt isLast calls unlisted remote unopened
            handlers sameCalls fd streams session
      | requests request call follows makes isFor handlers moreCalls fd
          streams session =>
          exact negotiating_requests isAt isLast calls unlisted remote
            unopened follows makes isFor handlers moreCalls fd streams session
      | opens isStart handlers moreCalls streams session =>
          exact negotiating_opens isAt isLast calls unlisted remote isStart
            accepted handlers moreCalls streams session

theorem Negotiating.failed {answered : List PortalResponse}
    (negotiating : context.Negotiating answered) :
    { context with failure := true }.Negotiating answered := by
  cases negotiating with
  | asking stage isAt calls unopened unlisted =>
      exact .asking stage ⟨isAt.positive, isAt.bounded, isAt.handlers,
        isAt.earlier, isAt.isFor⟩ calls unopened unlisted
  | opened start came isStart accepted isAt calls streams =>
      exact .opened start came isStart accepted ⟨isAt.positive, isAt.bounded,
        isAt.handlers, isAt.earlier, isAt.isFor⟩ calls streams

/-- An answer that nobody handles changes nothing. -/
theorem Negotiating.ignored {answered : List PortalResponse}
    (negotiating : context.Negotiating answered) (r : PortalResponse) :
    context.Negotiating (answered ++ [r]) := by
  have more : ∀ request ∈ answered.map PortalResponse.request,
      request ∈ (answered ++ [r]).map PortalResponse.request := by
    intro request member
    rw [List.map_append]
    exact List.mem_append_left _ member
  cases negotiating with
  | asking stage isAt calls unopened unlisted =>
      exact .asking stage ⟨isAt.positive, isAt.bounded, isAt.handlers,
        fun request member => more _ (isAt.earlier request member),
        isAt.isFor⟩ calls unopened unlisted
  | opened start came isStart accepted isAt calls streams =>
      exact .opened start (List.mem_append_left _ came) isStart accepted
        ⟨isAt.positive, isAt.bounded, isAt.handlers,
          fun request member => more _ (isAt.earlier request member),
          isAt.isFor⟩ calls streams

theorem negotiating_handle {answered : List PortalResponse}
    (negotiating : context.Negotiating answered)
    (fresh : r.request ∉ answered.map PortalResponse.request) :
    (context.handle r).Negotiating (answered ++ [r]) := by
  unfold handle
  split
  · rename_i registered
    split
    · rename_i accepted
      have responded := negotiating_respond negotiating registered fresh
        accepted
      split
      · rename_i next answer
        rw [answer] at responded
        exact responded
      · rename_i next err answer
        rw [answer] at responded
        exact responded.failed
    · exact (negotiating.ignored r).failed
  · exact negotiating.ignored r

theorem handle_hasRemoteDesktop (context : CallBackContext)
    (r : PortalResponse) :
    (context.handle r).hasRemoteDesktop = context.hasRemoteDesktop := by
  have remote := respond_hasRemoteDesktop context r
  unfold handle
  split
  · split
    · split <;> rename_i answer <;> rw [answer] at remote <;> exact remote
    · rfl
  · rfl

theorem negotiating_foldl (responses : List PortalResponse) :
    ∀ (context : CallBackContext) (answered : List PortalResponse),
      context.Negotiating answered →
      ((answered ++ responses).map PortalResponse.request).Nodup →
      (responses.foldl handle context).Negotiating (answered ++ responses) ∧
        (responses.foldl handle context).hasRemoteDesktop =
          context.hasRemoteDesktop := by
  induction responses with
  | nil =>
      intro context answered negotiating _
      rw [List.append_nil]
      exact ⟨negotiating, rfl⟩
  | cons r rest ih =>
      intro context answered negotiating once
      rw [List.append_cons] at once ⊢
      have fresh : r.request ∉ answered.map PortalResponse.request := by
        rw [List.map_append, List.map_append] at once
        have apart := (List.nodup_append.mp once).1
        intro member
        exact (List.nodup_append.mp apart).2.2 _ member _
          (List.mem_singleton.mpr rfl) rfl
      obtain ⟨kept, remote⟩ := ih (context.handle r) (answered ++ [r])
        (negotiating_handle negotiating fresh) once
      exact ⟨kept, remote.trans (handle_hasRemoteDesktop context r)⟩

/-- What the rounds from one on deliver. -/
def delivered (rounds : Nat → Except String (List PortalResponse))
    (round left : Nat) : List PortalResponse :=
  (List.range' round left).flatMap fun index =>
    ((rounds index).toOption).getD []

theorem negotiating_await
    (rounds : Nat → Except String (List PortalResponse)) (left : Nat) :
    ∀ (round : Nat) (context next : CallBackContext)
      (answered : List PortalResponse), context.Negotiating answered →
      ((answered ++ delivered rounds round left).map
        PortalResponse.request).Nodup →
      await rounds round left context = .ok next →
      next.hasRemoteDesktop = context.hasRemoteDesktop ∧
        ∃ came, came <+: delivered rounds round left ∧
          next.Negotiating (answered ++ came) := by
  induction left with
  | zero =>
      intro round context next answered negotiating _ waits
      cases waits
      refine ⟨rfl, [], List.nil_prefix, ?_⟩
      rw [List.append_nil]
      exact negotiating
  | succ left ih =>
      intro round context next answered negotiating once waits
      unfold await at waits
      split at waits
      · cases waits
      · rename_i responses answer
        have split : delivered rounds round (left + 1) =
            responses ++ delivered rounds (round + 1) left := by
          unfold delivered
          rw [List.range'_succ, List.flatMap_cons, answer]
          rfl
        rw [split] at once ⊢
        rw [← List.append_assoc] at once
        have onceHere : ((answered ++ responses).map
            PortalResponse.request).Nodup := by
          rw [List.map_append] at once
          exact (List.nodup_append.mp once).1
        obtain ⟨kept, remote⟩ :=
          negotiating_foldl responses context answered negotiating onceHere
        dsimp only at waits
        split at waits
        · cases waits
          exact ⟨remote, responses, List.prefix_append _ _, kept⟩
        · obtain ⟨same, came, before, negotiates⟩ :=
            ih (round + 1) _ next _ kept once waits
          refine ⟨same.trans remote, responses ++ came, ?_, ?_⟩
          · exact (List.prefix_append_right_inj responses).mpr before
          · rw [← List.append_assoc]
            exact negotiates

theorem negotiating_opening (captureCursor hasRemoteDesktop : Bool) :
    (opening captureCursor hasRemoteDesktop).Negotiating [] := by
  refine .asking 1 ⟨Nat.one_pos, ?_, ?_, ?_, ?_⟩ ?_ rfl rfl
  · cases hasRemoteDesktop <;> exact Nat.le_add_left 1 _
  · cases hasRemoteDesktop <;> rfl
  · intro request member
    cases member
  · intro call member
    rw [List.mem_singleton.mp member]
    rfl
  · cases hasRemoteDesktop <;> rfl

/-- The calls made so far are the first ones of all. -/
theorem Negotiating.prefix_allCalls {answered : List PortalResponse}
    (negotiating : context.Negotiating answered) :
    context.calls.map PortalCall.request? <+:
      allCalls context.hasRemoteDesktop := by
  cases negotiating with
  | asking stage _ calls _ _ =>
      rw [calls, allCalls, List.map_take]
      exact (List.take_prefix _ _).trans (List.prefix_append _ _)
  | opened _ _ _ _ _ calls _ => rw [calls]

theorem Negotiating.isFor {answered : List PortalResponse}
    (negotiating : context.Negotiating answered) :
    ∀ call ∈ context.calls,
      call.IsFor context.hasRemoteDesktop context.session := by
  cases negotiating with
  | asking stage isAt _ _ _ => exact isAt.isFor
  | opened _ _ _ _ isAt _ _ => exact isAt.isFor

theorem Negotiating.registered {answered : List PortalResponse}
    (negotiating : context.Negotiating answered) {call : PortalCall}
    (made : call ∈ context.calls) {request : PortalRequest}
    (makes : call.request? = some request) : request ∈ context.handlers := by
  have member : some request ∈ context.calls.map PortalCall.request? := by
    rw [← makes]
    exact List.mem_map_of_mem made
  cases negotiating with
  | asking stage isAt calls _ _ =>
      rw [isAt.handlers]
      rw [calls, List.mem_map_of_injective (Option.some_injective _)] at member
      exact member
  | opened _ _ _ _ isAt calls _ =>
      rw [isAt.handlers, List.take_length]
      rw [calls] at member
      simpa [allCalls] using member

/-- A negotiation succeeds with a descriptor and streams only. -/
theorem outcome_ok {session : String} {fd : Nat}
    {streams : List PwStreamInfo}
    (succeeds : context.outcome = .ok (session, fd, streams)) :
    context.session = session ∧ context.fd = some fd ∧
      context.streams = streams ∧ streams ≠ [] := by
  unfold outcome at succeeds
  split at succeeds
  · cases succeeds
  · split at succeeds
    · rename_i opened
      split at succeeds
      · cases succeeds
      · rename_i listed
        cases succeeds
        refine ⟨rfl, opened, rfl, ?_⟩
        intro none
        rw [none] at listed
        exact listed rfl
    · cases succeeds

/-- Streams are those of an accepted answer to `Start`, after all calls. -/
theorem Negotiating.of_outcome {answered : List PortalResponse}
    (negotiates : context.Negotiating answered) {session : String} {fd : Nat}
    {streams : List PwStreamInfo}
    (succeeds : context.outcome = .ok (session, fd, streams)) :
    context.calls.map PortalCall.request? =
        allCalls context.hasRemoteDesktop ∧
      session = context.session ∧ streams ≠ [] ∧
      ∃ start ∈ answered, start.request = .start ∧ start.response = 0 ∧
        streams = streamsFromResponse start.results := by
  obtain ⟨sameSession, isOpen, sameStreams, listed⟩ := outcome_ok succeeds
  cases negotiates with
  | asking _ _ _ unopened _ =>
      rw [unopened] at isOpen
      cases isOpen
  | opened start answered isStart accepted _ calls streamsOf =>
      exact ⟨calls, sameSession.symm, listed, start, answered, isStart,
        accepted, sameStreams.symm.trans streamsOf⟩

/-- The portal answers a request at most once.  Then its calls are made in
order, for one session and with the handler of each answer registered; and
the streams that a capture gets are those of the answer to `Start`, all calls
having been made. -/
theorem await_inOrder (captureCursor hasRemoteDesktop : Bool)
    (rounds : Nat → Except String (List PortalResponse))
    (once : ((delivered rounds 0 timeoutIters).map
      PortalResponse.request).Nodup)
    (waits : await rounds 0 timeoutIters
      (opening captureCursor hasRemoteDesktop) = .ok context) :
    context.calls.map PortalCall.request? <+: allCalls hasRemoteDesktop ∧
      (∀ call ∈ context.calls,
        call.IsFor hasRemoteDesktop context.session ∧
          ∀ request, call.request? = some request →
            request ∈ context.handlers) ∧
      ∀ session fd streams, context.outcome = .ok (session, fd, streams) →
        context.calls.map PortalCall.request? = allCalls hasRemoteDesktop ∧
          session = context.session ∧ streams ≠ [] ∧
          ∃ start ∈ delivered rounds 0 timeoutIters,
            start.request = .start ∧ start.response = 0 ∧
              streams = streamsFromResponse start.results := by
  obtain ⟨remote, came, before, negotiates⟩ := negotiating_await rounds
    timeoutIters 0 _ context [] (negotiating_opening _ _) once waits
  replace remote : context.hasRemoteDesktop = hasRemoteDesktop := remote
  rw [← remote]
  refine ⟨negotiates.prefix_allCalls, ?_, ?_⟩
  · intro call made
    exact ⟨negotiates.isFor call made,
      fun request makes => negotiates.registered made makes⟩
  · intro session fd streams succeeds
    obtain ⟨calls, same, listed, start, answered, isAccepted⟩ :=
      negotiates.of_outcome succeeds
    exact ⟨calls, same, listed, start, before.subset answered, isAccepted⟩

/-- A portal that offers remote desktop, and answers each round. -/
theorem await_inOrder_remoteDesktop :
    let agreed : CallOutcome := ⟨.ok 1, .ok 4, .ok (), .ok (), .ok 7⟩
    let stream : RefArg := .container [.number 42,
      .container [.string "source_type", .variant (.number 1)]]
    let answers : List PortalResponse :=
      [⟨.createSession, 0, [("session_handle", .variant (.string "s"))],
          agreed⟩,
        ⟨.selectDevices, 0, [], agreed⟩, ⟨.selectSources, 0, [], agreed⟩,
        ⟨.start, 0,
          [("streams", .variant (.container [stream]))], agreed⟩]
    let rounds : Nat → Except String (List PortalResponse) :=
      fun round => .ok (answers[round]?.toList)
    ∃ context, await rounds 0 timeoutIters (opening true true) = .ok context ∧
      context.outcome = .ok ("s", 7, [⟨42, 1⟩]) ∧
      context.calls.map PortalCall.request? = allCalls true ∧
      ∀ call ∈ context.calls, call.IsFor true context.session := by
  intro agreed stream answers rounds
  obtain ⟨context, waits, succeeds⟩ : ∃ context,
      await rounds 0 timeoutIters (opening true true) = .ok context ∧
        context.outcome = .ok ("s", 7, [⟨42, 1⟩]) := ⟨_, rfl, rfl⟩
  obtain ⟨-, calls, succeeding⟩ :=
    await_inOrder true true rounds (by decide +kernel) waits
  exact ⟨context, waits, succeeds, (succeeding _ _ _ succeeds).1,
    fun call made => (calls call made).1⟩

/-- A capture is started with the streams of an accepted answer to `Start`
only, and there is one at least. -/
theorem streams_of_requestRemoteDesktop
    {captureCursor hasRemoteDesktop : Bool}
    {connects registers accepts : Except String Unit}
    {rounds : Nat → Except String (List PortalResponse)}
    (once : ((delivered rounds 0 timeoutIters).map
      PortalResponse.request).Nodup)
    {session : String} {fd : Nat} {streams : List PwStreamInfo}
    (succeeds : requestRemoteDesktop captureCursor hasRemoteDesktop connects
      registers accepts rounds = .ok (session, fd, streams)) :
    streams ≠ [] ∧ ∃ start ∈ delivered rounds 0 timeoutIters,
      start.request = .start ∧ start.response = 0 ∧
        streams = streamsFromResponse start.results := by
  unfold requestRemoteDesktop at succeeds
  cases connects with
  | error err => cases succeeds
  | ok _ =>
      cases registers with
      | error err => cases succeeds
      | ok _ =>
          cases accepts with
          | error err => cases succeeds
          | ok _ =>
              cases waits : await rounds 0 timeoutIters
                  (opening captureCursor hasRemoteDesktop) with
              | error err =>
                  simp [waits, bind, Except.bind] at succeeds
              | ok context =>
                  simp only [waits, bind, Except.bind] at succeeds
                  obtain ⟨-, came, before, negotiates⟩ := negotiating_await
                    rounds timeoutIters 0 _ context []
                    (negotiating_opening _ _) once waits
                  obtain ⟨-, -, listed, start, answered, isAccepted⟩ :=
                    negotiates.of_outcome succeeds
                  exact ⟨listed, start, before.subset answered, isAccepted⟩

end CallBackContext

end Rylus
