import Mathlib.Data.List.DropRight
import Rylus.ServeStaleLogin
import Rylus.SplitText

/-!
# Who is let in on `/ws`

`serve` answers a `GET /ws` from its headers and the session store.  Header
values are bytes; a token of the session store is given by its bytes too.
The list of issued sessions, forgotten when the sessions are cleared,
influences no step.
-/

namespace Rylus

open SplitText

/-- Names are in lower case, values are in the order received. -/
structure WsRequest where
  headers : List (String × List UInt8)

def ascii (text : String) : List UInt8 :=
  text.toList.map fun char => UInt8.ofNat char.toNat

/-- The bytes that `HeaderValue::to_str` lets through. -/
def isVisibleAscii (byte : UInt8) : Bool :=
  32 ≤ byte && byte < 127 || byte == 9

def isAsciiWhitespace (byte : UInt8) : Bool :=
  byte == 32 || 9 ≤ byte && byte ≤ 13

def trim (text : List UInt8) : List UInt8 :=
  (text.dropWhile isAsciiWhitespace).rdropWhile isAsciiWhitespace

def toStr (value : List UInt8) : Option (List UInt8) :=
  if value.all isVisibleAscii then some value else none

/-- `split(',')`, `split(';')` and `split('/')` cut here. -/
def comma : UInt8 := 44

def semicolon : UInt8 := 59

def slash : UInt8 := 47

namespace WsRequest

/-- `HeaderMap::get`: the first value of a header. -/
def get (request : WsRequest) (name : String) : Option (List UInt8) :=
  request.headers.lookup name

/-- `get` and `to_str`. -/
def getStr (request : WsRequest) (name : String) : Option (List UInt8) :=
  (request.get name).bind toStr

def extractSessionToken (request : WsRequest) : Option (List UInt8) :=
  (request.getStr "cookie").bind fun header =>
    (header.splitOn semicolon).findSome? fun part =>
      stripPrefix (ascii "rylus_session=") (trim part)

/-- What follows the scheme, up to the path. -/
def originAuthority (origin : List UInt8) : List UInt8 :=
  let rest := ((splitOnce (ascii "://") origin).map Prod.snd).getD origin
  (rest.splitOn slash).headD []

def wsOriginMatchesHost (request : WsRequest) : Bool :=
  match request.getStr "origin" with
  | none | some [] => true
  | some origin =>
      let host := (request.getStr "host").getD []
      !host.isEmpty && !(originAuthority origin).isEmpty &&
        originAuthority origin == host

def versionOk (request : WsRequest) : Bool :=
  (request.getStr "sec-websocket-version").any fun header =>
    (header.splitOn comma).any fun version => trim version == ascii "13"

end WsRequest

structure WebResponse where
  status : Nat
  headers : List (String × String)
  body : String
  deriving DecidableEq

/-- `deriveAcceptKey` is tungstenite's. -/
def wsHandshakeResponse (deriveAcceptKey : List UInt8 → String)
    (request : WsRequest) : Except WebResponse WebResponse :=
  if !request.versionOk then
    .error ⟨426, [("sec-websocket-version", "13")],
      "unsupported websocket version"⟩
  else
    match request.get "sec-websocket-key" with
    | none => .error ⟨400, [("content-type", "text/plain; charset=utf-8")],
        "missing Sec-WebSocket-Key"⟩
    | some key => .ok ⟨101, [("upgrade", "websocket"),
        ("connection", "Upgrade"),
        ("sec-websocket-accept", deriveAcceptKey key)], ""⟩

variable {Req IpAddr Salt Hash : Type*}

/-- `is_authed`, which forgets a session it finds expired. -/
def ServeContext.isAuthed {Token : Type*} [DecidableEq Token]
    (context : ServeContext IpAddr Token Hash) (cookie : Option Token)
    (now : Nat) : Bool × ServeContext IpAddr Token Hash :=
  match context.startIsAuthed cookie with
  | .admitted => (true, context)
  | .refused => (false, context)
  | .lookUp token =>
      let (valid, store) := context.sessionStore.isValid token now
      (valid, { context with sessionStore := store })

/-- The server whose session tokens are given by their bytes. -/
abbrev ByteServer (Req IpAddr Hash : Type*) :=
  ServeState Req IpAddr (List UInt8) Hash

/-- `serve` on `GET /ws`, which asks `is_authed` twice. -/
def serveWebSocket (deriveAcceptKey : List UInt8 → String)
    (state : ByteServer Req IpAddr Hash) (request : WsRequest) :
    WebResponse × ByteServer Req IpAddr Hash :=
  let cookie := request.extractSessionToken
  let (_, context) := state.context.isAuthed cookie state.now
  let (authed, context) := context.isAuthed cookie state.now
  let state := state.setContext context
  if !authed then (⟨401, [], "unauthorized"⟩, state)
  else if !request.wsOriginMatchesHost then
    (⟨403, [], "forbidden origin"⟩, state)
  else
    match wsHandshakeResponse deriveAcceptKey request with
    | .ok response => (response, state)
    | .error reject => (reject, state)

/-- The server and the sessions issued since they were last cleared. -/
structure IssuedSessions (Req IpAddr Hash : Type*) where
  serve : ByteServer Req IpAddr Hash
  issued : List (List UInt8 × Nat)

/-- A step of the other handlers, or a `GET /ws`. -/
inductive GateStep (Req Salt : Type*) where
  | serve (label : ServeStep Req (List UInt8) Salt)
  | webSocket (request : WsRequest)

namespace IssuedSessions

def start (accessCodeHash : Option Hash) (secureCookies : Bool)
    (configFile : Option Config) (now : Nat) :
    IssuedSessions Req IpAddr Hash where
  serve := ServeState.start accessCodeHash secureCookies configFile now
  issued := []

/-- The sessions issued and not cleared after a step. -/
def note (state : IssuedSessions Req IpAddr Hash) :
    ServeStep Req (List UInt8) Salt → List (List UInt8 × Nat)
  | .createSession _ token => state.issued ++ [(token, state.serve.now)]
  | .clearSessions _ => []
  | _ => state.issued

def step [DecidableEq Req] [DecidableEq IpAddr]
    (env : ServeEnv Req IpAddr Salt Hash)
    (deriveAcceptKey : List UInt8 → String)
    (state : IssuedSessions Req IpAddr Hash) :
    GateStep Req Salt → Option (IssuedSessions Req IpAddr Hash)
  | .serve label =>
      (serveStep env state.serve label).map fun serve =>
        { serve := serve, issued := state.note label }
  | .webSocket request =>
      some { state with
        serve := (serveWebSocket deriveAcceptKey state.serve request).2 }

end IssuedSessions

/-! ### What the gate should look at -/

namespace WsRequest

/-- Every value of a header, which may stand on several lines. -/
def lines (request : WsRequest) (name : String) : List (List UInt8) :=
  (request.headers.filter fun header => name == header.1).map Prod.snd

/-- The first `rylus_session` on the Cookie lines carries the token. -/
def NamesSession (cookies : List (List UInt8)) (token : List UInt8) : Prop :=
  ∃ earlier part later,
    cookies.flatMap (fun cookie => cookie.splitOn semicolon) =
        earlier ++ part :: later ∧
      trim part = ascii "rylus_session=" ++ token ∧
      ∀ other ∈ earlier, ∀ rest,
        trim other ≠ ascii "rylus_session=" ++ rest

/-- What an origin has between its scheme, if any, and its path, if any. -/
def HasAuthority (origin authority : List UInt8) : Prop :=
  authority ≠ [] ∧ ∃ rest, IsFirstPart slash rest authority ∧
    (rest = origin ∧ ¬ ascii "://" <:+: origin ∨
      ∃ scheme, origin = scheme ++ ascii "://" ++ rest ∧
        IsLeftmost (ascii "://") origin scheme)

/-- The authority of the origin is what each Host line says. -/
def IsFromHost (hosts : List (List UInt8)) (origin : List UInt8) : Prop :=
  ∃ authority, HasAuthority origin authority ∧ hosts ≠ [] ∧
    ∀ host ∈ hosts, host = authority

/-- There is no Origin line, or all are of the Host. -/
def OriginAllowed (request : WsRequest) : Prop :=
  ∀ origin ∈ request.lines "origin", IsFromHost (request.lines "host") origin

/-- One of the Sec-WebSocket-Version lines lists 13. -/
def ListsVersion (versions : List (List UInt8)) : Prop :=
  ∃ header ∈ versions, ∃ version ∈ header.splitOn comma,
    trim version = ascii "13"

def HasKey (request : WsRequest) : Prop :=
  request.lines "sec-websocket-key" ≠ []

/-- All header values are visible ASCII. -/
def IsVisible (request : WsRequest) : Prop :=
  ∀ header ∈ request.headers, header.2.all isVisibleAscii = true

/-! ### What it looks at -/

/-- The one line that the gate reads, if there is any. -/
def firstLine (request : WsRequest) (name : String) : List (List UInt8) :=
  (request.lines name).take 1

/-- An Origin header that `ws_origin_matches_host` takes for none. -/
def IgnoresOrigin (request : WsRequest) : Prop :=
  ∃ origin ∈ request.firstLine "origin",
    origin = [] ∨ origin.all isVisibleAscii = false

/-- The first Origin line alone is of the first Host line alone. -/
def StartsFromHost (request : WsRequest) : Prop :=
  ∃ origin ∈ request.firstLine "origin",
    IsFromHost (request.firstLine "host") origin

/-- A foreign origin stands on a line that is ignored, or behind one that is
not foreign. -/
def HidesOrigin (request : WsRequest) : Prop :=
  ¬ request.OriginAllowed ∧ (request.IgnoresOrigin ∨ request.StartsFromHost)

/-- Version 13 stands on a later line only. -/
def HidesVersion (request : WsRequest) : Prop :=
  ListsVersion (request.lines "sec-websocket-version") ∧
    ¬ ListsVersion (request.firstLine "sec-websocket-version")

/-- The session stands on a later Cookie line only. -/
def HidesSession (request : WsRequest) : Prop :=
  (∃ token, NamesSession (request.lines "cookie") token) ∧
    ∀ token, ¬ NamesSession (request.firstLine "cookie") token

variable {request : WsRequest} {name : String} {value : List UInt8}

theorem get_eq_some_iff :
    request.get name = some value ↔ value ∈ request.firstLine name := by
  obtain ⟨headers⟩ := request
  unfold get firstLine lines
  induction headers with
  | nil => simp
  | cons header headers ih =>
      obtain ⟨given, text⟩ := header
      cases same : name == given with
      | true => simp [List.lookup_cons, same, eq_comm]
      | false => simpa [List.lookup_cons, same] using ih

theorem mem_lines_of_mem_firstLine (first : value ∈ request.firstLine name) :
    value ∈ request.lines name :=
  List.mem_of_mem_take first

/-- There is no second value on the first line. -/
theorem eq_of_mem_firstLine {other : List UInt8}
    (first : value ∈ request.firstLine name)
    (second : other ∈ request.firstLine name) : other = value :=
  Option.some.inj
    ((get_eq_some_iff.mpr second).symm.trans (get_eq_some_iff.mpr first))

theorem lines_eq_nil_iff : request.lines name = [] ↔
    request.get name = none := by
  rw [Option.eq_none_iff_forall_ne_some]
  simp only [ne_eq, get_eq_some_iff, firstLine]
  rw [← List.eq_nil_iff_forall_not_mem, List.take_eq_nil_iff]
  simp

theorem hasKey_iff :
    request.HasKey ↔ (request.get "sec-websocket-key").isSome := by
  rw [HasKey, ne_eq, lines_eq_nil_iff, ← ne_eq, Option.ne_none_iff_isSome]

theorem getStr_eq_some_iff :
    request.getStr name = some value ↔
      value ∈ request.firstLine name ∧ value.all isVisibleAscii = true := by
  rw [← get_eq_some_iff]
  unfold getStr toStr
  cases request.get name with
  | none => simp
  | some found =>
      by_cases visible : found.all isVisibleAscii = true
      · simp only [Option.bind_some, visible, if_true, Option.some.injEq]
        constructor
        · rintro rfl
          exact ⟨rfl, visible⟩
        · exact And.left
      · simp only [Option.bind_some, visible, Option.some.injEq]
        constructor
        · intro isSome
          cases isSome
        · rintro ⟨rfl, isVisible⟩
          exact absurd isVisible visible

/-- The text of a header of a visible request is its value. -/
theorem IsVisible.getStr_iff (visible : request.IsVisible) :
    request.getStr name = some value ↔ value ∈ request.firstLine name := by
  refine getStr_eq_some_iff.trans (and_iff_left_of_imp fun first => ?_)
  obtain ⟨header, member, rfl⟩ :=
    List.mem_map.mp (mem_lines_of_mem_firstLine first)
  exact visible header (List.mem_of_mem_filter member)

/-! ### Sessions -/

theorem namesSession_iff_findSome {cookies : List (List UInt8)}
    {token : List UInt8} :
    NamesSession cookies token ↔
      (cookies.flatMap fun cookie => cookie.splitOn semicolon).findSome?
          (fun part => stripPrefix (ascii "rylus_session=") (trim part)) =
        some token := by
  rw [List.findSome?_eq_some_iff]
  refine exists_congr fun earlier => exists_congr fun part =>
    exists_congr fun later => and_congr_right fun _ =>
      and_congr stripPrefix_eq_some_iff.symm
        (forall_congr' fun other => imp_congr_right fun _ => ?_)
  rw [Option.eq_none_iff_forall_ne_some]
  exact forall_congr' fun rest => not_congr stripPrefix_eq_some_iff.symm

/-- A session has one token. -/
theorem NamesSession.unique {cookies : List (List UInt8)}
    {token other : List UInt8} (names : NamesSession cookies token)
    (namesOther : NamesSession cookies other) : other = token := by
  rw [namesSession_iff_findSome] at names namesOther
  exact Option.some.inj (namesOther.symm.trans names)

/-- What the first line names, all lines name. -/
theorem NamesSession.of_take {cookies : List (List UInt8)}
    {token : List UInt8} (names : NamesSession (cookies.take 1) token) :
    NamesSession cookies token := by
  obtain ⟨earlier, part, later, isParts, isToken, others⟩ := names
  refine ⟨earlier, part,
    later ++ (cookies.drop 1).flatMap fun cookie => cookie.splitOn semicolon,
    ?_, isToken, others⟩
  calc cookies.flatMap (fun cookie => cookie.splitOn semicolon)
      = (cookies.take 1 ++ cookies.drop 1).flatMap
          (fun cookie => cookie.splitOn semicolon) := by
        rw [List.take_append_drop]
    _ = earlier ++ part :: (later ++
          (cookies.drop 1).flatMap fun cookie => cookie.splitOn semicolon) := by
        rw [List.flatMap_append, isParts]
        simp

theorem namesSession_of_extract {token : List UInt8}
    (extracted : request.extractSessionToken = some token) :
    NamesSession (request.firstLine "cookie") token := by
  obtain ⟨header, isHeader, found⟩ := Option.bind_eq_some_iff.mp extracted
  have isFirst := get_eq_some_iff.mpr (getStr_eq_some_iff.mp isHeader).1
  have single : request.firstLine "cookie" = [header] := by
    have first := (getStr_eq_some_iff.mp isHeader).1
    unfold firstLine at first ⊢
    cases isLines : request.lines "cookie" with
    | nil => simp [isLines] at first
    | cons line rest => simpa [isLines, eq_comm] using first
  rw [namesSession_iff_findSome, single]
  simpa using found

theorem extract_iff_namesSession (visible : request.IsVisible)
    {token : List UInt8} :
    request.extractSessionToken = some token ↔
      NamesSession (request.firstLine "cookie") token := by
  refine ⟨namesSession_of_extract, fun names => ?_⟩
  cases isFirst : request.firstLine "cookie" with
  | nil => simp [isFirst, namesSession_iff_findSome] at names
  | cons header rest =>
      have isHeader : request.getStr "cookie" = some header :=
        visible.getStr_iff.mpr (by simp [isFirst])
      have single : rest = [] := by
        have short : (request.firstLine "cookie").length ≤ 1 :=
          List.length_take_le 1 _
        rw [isFirst] at short
        simpa using short
      rw [namesSession_iff_findSome, isFirst, single] at names
      rw [extractSessionToken, isHeader]
      simpa using names

/-! ### Origins and versions -/

/-- The authority the server computes is the one the origin has. -/
theorem hasAuthority_iff {origin authority : List UInt8} :
    HasAuthority origin authority ↔
      authority ≠ [] ∧ originAuthority origin = authority := by
  unfold HasAuthority originAuthority
  refine and_congr_right fun _ => ?_
  dsimp only
  rw [headD_splitOn_eq_iff]
  cases cut : splitOnce (ascii "://") origin with
  | none =>
      have absent := splitOnce_eq_none_iff.mp cut
      constructor
      · rintro ⟨rest, isFirst, ⟨rfl, -⟩ | ⟨scheme, rfl, -⟩⟩
        · exact isFirst
        · exact absurd ⟨scheme, rest, rfl⟩ absent
      · exact fun isFirst => ⟨origin, isFirst, .inl ⟨rfl, absent⟩⟩
  | some parts =>
      obtain ⟨before, after⟩ := parts
      obtain ⟨isOrigin, leftmost⟩ := splitOnce_eq_some_iff.mp cut
      constructor
      · rintro ⟨rest, isFirst, ⟨rfl, absent⟩ | ⟨scheme, isOrigin', leftmost'⟩⟩
        · exact absurd ⟨before, after, isOrigin.symm⟩ absent
        · have same := splitOnce_eq_some_iff.mpr ⟨isOrigin', leftmost'⟩
          rw [cut] at same
          cases same
          exact isFirst
      · exact fun isFirst => ⟨after, isFirst, .inr ⟨before, isOrigin, leftmost⟩⟩

/-- The authority is part of the origin. -/
theorem HasAuthority.isInfix {origin authority : List UInt8}
    (has : HasAuthority origin authority) : authority <:+: origin := by
  obtain ⟨-, rest, ⟨-, isRest⟩, whole⟩ := has
  have first : authority <+: rest := by
    rcases isRest with rfl | ⟨more, rfl⟩
    · exact List.prefix_rfl
    · exact List.prefix_append _ _
  refine first.isInfix.trans ?_
  rcases whole with ⟨rfl, -⟩ | ⟨scheme, rfl, -⟩
  · exact List.infix_rfl
  · exact (List.suffix_append _ _).isInfix

theorem IsFromHost.of_subset {hosts fewer : List (List UInt8)}
    {origin : List UInt8} (isFrom : IsFromHost hosts origin)
    (subset : fewer ⊆ hosts) (some : fewer ≠ []) :
    IsFromHost fewer origin := by
  obtain ⟨authority, has, -, same⟩ := isFrom
  exact ⟨authority, has, some, fun host member => same host (subset member)⟩

/-- The server compares the text of the first Origin line with that of the
first Host line. -/
theorem startsFromHost_iff {origin : List UInt8}
    (isOrigin : request.getStr "origin" = some origin) :
    request.StartsFromHost ↔
      originAuthority origin ≠ [] ∧
        request.getStr "host" = some (originAuthority origin) := by
  obtain ⟨first, visible⟩ := getStr_eq_some_iff.mp isOrigin
  constructor
  · rintro ⟨other, member, authority, has, someHost, same⟩
    obtain rfl := eq_of_mem_firstLine first member
    obtain ⟨notEmpty, rfl⟩ := hasAuthority_iff.mp has
    obtain ⟨host, isHost⟩ := List.exists_mem_of_ne_nil _ someHost
    refine ⟨notEmpty, getStr_eq_some_iff.mpr ⟨same host isHost ▸ isHost, ?_⟩⟩
    rw [List.all_eq_true] at visible ⊢
    exact fun byte inside => visible byte (has.isInfix.subset inside)
  · rintro ⟨notEmpty, isHost⟩
    have firstHost := (getStr_eq_some_iff.mp isHost).1
    exact ⟨origin, first, _, hasAuthority_iff.mpr ⟨notEmpty, rfl⟩,
      List.ne_nil_of_mem firstHost,
      fun host member => eq_of_mem_firstLine firstHost member⟩

/-- The server lets pass what it takes for no Origin, and a first line that is
of the Host. -/
theorem wsOriginMatchesHost_iff :
    request.wsOriginMatchesHost = true ↔
      request.lines "origin" = [] ∨ request.IgnoresOrigin ∨
        request.StartsFromHost := by
  rw [lines_eq_nil_iff]
  cases isOrigin : request.getStr "origin" with
  | none =>
      refine iff_of_true (by simp [wsOriginMatchesHost, isOrigin]) ?_
      cases found : request.get "origin" with
      | none => exact .inl rfl
      | some origin =>
          have first := get_eq_some_iff.mp found
          refine .inr (.inl ⟨origin, first, .inr ?_⟩)
          rw [Bool.eq_false_iff]
          intro visible
          rw [getStr_eq_some_iff.mpr ⟨first, visible⟩] at isOrigin
          cases isOrigin
  | some origin =>
      obtain ⟨first, visible⟩ := getStr_eq_some_iff.mp isOrigin
      by_cases isEmpty : origin = []
      · exact iff_of_true
          (by simp [wsOriginMatchesHost, isOrigin, isEmpty])
          (.inr (.inl ⟨origin, first, .inl isEmpty⟩))
      · have notIgnored : ¬ request.IgnoresOrigin := by
          rintro ⟨other, member, none | hidden⟩
          · exact isEmpty (eq_of_mem_firstLine member first ▸ none)
          · rw [eq_of_mem_firstLine first member, visible] at hidden
            cases hidden
        rw [get_eq_some_iff.mpr first, startsFromHost_iff isOrigin]
        simp only [reduceCtorEq, notIgnored, false_or]
        cases origin with
        | nil => exact absurd rfl isEmpty
        | cons byte origin =>
            simp only [wsOriginMatchesHost, isOrigin, Bool.and_eq_true,
              Bool.not_eq_true', beq_iff_eq, List.isEmpty_eq_false_iff]
            cases request.getStr "host" with
            | none => simp
            | some host =>
                simp only [Option.getD_some, Option.some.injEq]
                constructor
                · rintro ⟨⟨-, notEmpty⟩, same⟩
                  exact ⟨notEmpty, same.symm⟩
                · rintro ⟨notEmpty, rfl⟩
                  exact ⟨⟨notEmpty, notEmpty⟩, rfl⟩

/-- No allowed Origin is refused. -/
theorem wsOriginMatchesHost_of_originAllowed
    (allowed : request.OriginAllowed) :
    request.wsOriginMatchesHost = true := by
  rw [wsOriginMatchesHost_iff]
  cases isOrigins : request.lines "origin" with
  | nil => exact .inl rfl
  | cons origin rest =>
      obtain ⟨authority, has, some, same⟩ :=
        allowed origin (by simp [isOrigins])
      refine .inr (.inr ⟨origin, by simp [firstLine, isOrigins],
        IsFromHost.of_subset ⟨authority, has, some, same⟩
          (List.take_subset 1 _) ?_⟩)
      rw [firstLine, ne_eq, List.take_eq_nil_iff]
      simpa using some

/-- Beyond what is allowed, the server lets a hidden Origin pass. -/
theorem originAllowed_of_wsOriginMatchesHost
    (matchesHost : request.wsOriginMatchesHost = true)
    (heeded : ¬ request.HidesOrigin) : request.OriginAllowed := by
  rcases wsOriginMatchesHost_iff.mp matchesHost with none | read
  · intro origin member
    rw [none] at member
    cases member
  · by_contra foreign
    exact heeded ⟨foreign, read⟩

theorem versionOk_iff :
    request.versionOk = true ↔ ∃ header,
      request.getStr "sec-websocket-version" = some header ∧
        ∃ version ∈ header.splitOn comma, trim version = ascii "13" := by
  simp only [versionOk, Option.any_eq_true, List.any_eq_true, beq_iff_eq]

theorem versionOk_iff_of_visible (visible : request.IsVisible) :
    request.versionOk = true ↔
      ListsVersion (request.firstLine "sec-websocket-version") := by
  rw [versionOk_iff]
  exact exists_congr fun header => and_congr_left fun _ => visible.getStr_iff

theorem listsVersion_of_versionOk (accepted : request.versionOk = true) :
    ListsVersion (request.lines "sec-websocket-version") := by
  obtain ⟨header, isHeader, lists⟩ := versionOk_iff.mp accepted
  exact ⟨header,
    mem_lines_of_mem_firstLine (getStr_eq_some_iff.mp isHeader).1, lists⟩

end WsRequest

namespace ServeContext

variable {Token : Type*} [DecidableEq Token]
  {context : ServeContext IpAddr Token Hash} {cookie : Option Token}
  {now : Nat}

theorem isAuthed_iff :
    (context.isAuthed cookie now).1 = true ↔
      context.accessCodeHash = none ∨
        ∃ token, cookie = some token ∧
          (context.sessionStore.isValid token now).1 = true := by
  unfold isAuthed startIsAuthed
  cases context.accessCodeHash <;> cases cookie <;> simp

/-- Asking twice gives the answer of asking once. -/
theorem isAuthed_isAuthed :
    ((context.isAuthed cookie now).2.isAuthed cookie now).1 =
      (context.isAuthed cookie now).1 := by
  unfold isAuthed startIsAuthed
  cases isLive : context.accessCodeHash with
  | none => simp [isLive]
  | some hash =>
      cases cookie with
      | none => simp [isLive]
      | some token =>
          simpa [isLive] using context.sessionStore.isValid_isValid token now

/-- Authentication only ever removes sessions, and those when expired. -/
theorem sessionStore_isAuthed :
    (context.isAuthed cookie now).2.sessionStore = context.sessionStore ∨
      ∃ token, (context.isAuthed cookie now).2.sessionStore =
        (context.sessionStore.isValid token now).2 := by
  unfold isAuthed startIsAuthed
  cases context.accessCodeHash with
  | none => exact .inl rfl
  | some hash =>
      cases cookie with
      | none => exact .inl rfl
      | some token => exact .inr ⟨token, rfl⟩

end ServeContext

section Gate

variable {state : ByteServer Req IpAddr Hash} {request : WsRequest}
  {deriveAcceptKey : List UInt8 → String}

theorem status_serveWebSocket :
    (serveWebSocket deriveAcceptKey state request).1.status = 101 ↔
      (state.context.isAuthed request.extractSessionToken state.now).1 =
          true ∧
        request.wsOriginMatchesHost = true ∧ request.versionOk = true ∧
          request.HasKey := by
  simp only [serveWebSocket, ServeContext.isAuthed_isAuthed,
    wsHandshakeResponse, WsRequest.hasKey_iff]
  cases (state.context.isAuthed request.extractSessionToken state.now).1 <;>
    cases request.wsOriginMatchesHost <;> cases request.versionOk <;>
      cases request.get "sec-websocket-key" <;> simp

end Gate

namespace IssuedSessions

/-- No access code is configured, or the request's session was issued less
than 24 hours ago and not cleared. -/
def Authenticated (state : IssuedSessions Req IpAddr Hash)
    (request : WsRequest) : Prop :=
  state.serve.context.accessCodeHash = none ∨
    ∃ token issued,
      WsRequest.NamesSession (request.lines "cookie") token ∧
      (token, issued) ∈ state.issued ∧
        state.serve.now - issued < fromSecs (24 * 3600)

/-- What a request needs to be upgraded. -/
def Admissible (state : IssuedSessions Req IpAddr Hash)
    (request : WsRequest) : Prop :=
  state.Authenticated request ∧ request.OriginAllowed ∧
    WsRequest.ListsVersion (request.lines "sec-websocket-version") ∧
      request.HasKey

/-- A `GET /ws` is answered 101 only if it is admissible, and always if its
headers are visible ASCII besides. -/
def AdmitsRightly (deriveAcceptKey : List UInt8 → String)
    (state : IssuedSessions Req IpAddr Hash) : GateStep Req Salt → Prop
  | .serve _ => True
  | .webSocket request =>
      let response := (serveWebSocket deriveAcceptKey state.serve request).1
      (response.status = 101 → state.Admissible request) ∧
        (state.Admissible request → request.IsVisible →
          response.status = 101)

/-- What the gate does not read makes no difference: a request that has all
the rest hides no foreign Origin, and an admissible one neither its version
nor the session it needs. -/
def HidesNothing (state : IssuedSessions Req IpAddr Hash) :
    GateStep Req Salt → Prop
  | .serve _ => True
  | .webSocket request =>
      ((state.serve.context.isAuthed request.extractSessionToken
          state.serve.now).1 = true →
        request.versionOk = true → request.HasKey →
          ¬ request.HidesOrigin) ∧
        (state.Admissible request → request.IsVisible →
          ¬ request.HidesVersion ∧
            (state.serve.context.accessCodeHash = none ∨
              ¬ request.HidesSession))

/-- The store has the sessions issued and not cleared, apart from some that
have expired. -/
structure Matches (state : IssuedSessions Req IpAddr Hash) : Prop where
  stored : ∀ token created,
    state.serve.context.sessionStore.tokens token = some created →
      (token, created) ∈ state.issued
  issued : ∀ token time, (token, time) ∈ state.issued →
    time ≤ state.serve.now ∧
      ((∃ created,
          state.serve.context.sessionStore.tokens token = some created ∧
            time ≤ created) ∨
        sessionTtl ≤ state.serve.now - time)

variable {state next : IssuedSessions Req IpAddr Hash}

theorem Matches.isValid_iff (isMatch : state.Matches) (token : List UInt8) :
    (state.serve.context.sessionStore.isValid token state.serve.now).1 =
        true ↔
      ∃ issued, (token, issued) ∈ state.issued ∧
        state.serve.now - issued < sessionTtl := by
  rw [SessionStore.isValid_iff]
  constructor
  · rintro ⟨created, stored, young⟩
    exact ⟨created, isMatch.stored token created stored, young⟩
  · rintro ⟨time, isIssued, young⟩
    obtain ⟨-, ⟨created, stored, later⟩ | expired⟩ :=
      isMatch.issued token time isIssued
    · exact ⟨created, stored, by omega⟩
    · omega

/-- Steps that leave the store and the clock alone. -/
theorem Matches.congr (isMatch : state.Matches)
    (store : next.serve.context.sessionStore =
      state.serve.context.sessionStore)
    (now : next.serve.now = state.serve.now)
    (issued : next.issued = state.issued) : next.Matches := by
  constructor
  · rw [store, issued]
    exact isMatch.stored
  · rw [store, now, issued]
    exact isMatch.issued

theorem Matches.elapse (isMatch : state.Matches)
    (store : next.serve.context.sessionStore =
      state.serve.context.sessionStore)
    (now : state.serve.now ≤ next.serve.now)
    (issued : next.issued = state.issued) : next.Matches := by
  constructor
  · rw [store, issued]
    exact isMatch.stored
  · intro token time isIssued
    rw [issued] at isIssued
    obtain ⟨past, stored | expired⟩ := isMatch.issued token time isIssued
    · exact ⟨past.trans now, .inl (store ▸ stored)⟩
    · exact ⟨past.trans now, .inr (by omega)⟩

/-- A session that is looked up and found expired is removed. -/
theorem Matches.lookUp (isMatch : state.Matches) {asked : List UInt8}
    (store : next.serve.context.sessionStore =
      (state.serve.context.sessionStore.isValid asked state.serve.now).2)
    (now : next.serve.now = state.serve.now)
    (issued : next.issued = state.issued) : next.Matches := by
  constructor
  · intro token created stored
    rw [store] at stored
    rw [issued]
    exact isMatch.stored token created (SessionStore.tokens_of_isValid stored)
  · intro token time isIssued
    rw [issued] at isIssued
    obtain ⟨past, ⟨created, stored, later⟩ | expired⟩ :=
      isMatch.issued token time isIssued
    · refine ⟨now ▸ past, ?_⟩
      rw [store, now]
      unfold SessionStore.isValid
      cases found : state.serve.context.sessionStore.tokens asked with
      | none => exact .inl ⟨created, stored, later⟩
      | some since =>
          by_cases young : state.serve.now - since < sessionTtl
          · simp only [young, if_true]
            exact .inl ⟨created, stored, later⟩
          · simp only [young, if_false]
            by_cases same : token = asked
            · subst same
              obtain rfl := Option.some.inj (found.symm.trans stored)
              exact .inr (by omega)
            · exact .inl ⟨created, by simp [same, stored], later⟩
    · exact ⟨now ▸ past, .inr (now ▸ expired)⟩

theorem Matches.created (isMatch : state.Matches) {issuedToken : List UInt8}
    (store : next.serve.context.sessionStore =
      state.serve.context.sessionStore.createSession issuedToken
        state.serve.now)
    (now : next.serve.now = state.serve.now)
    (issued : next.issued =
      state.issued ++ [(issuedToken, state.serve.now)]) : next.Matches := by
  constructor
  · intro token created stored
    rw [store] at stored
    rw [issued]
    by_cases same : token = issuedToken
    · subst same
      simp only [SessionStore.createSession, Function.update_self,
        Option.some.injEq] at stored
      simp [stored]
    · simp only [SessionStore.createSession,
        Function.update_of_ne same] at stored
      simp [isMatch.stored token created stored]
  · intro token time isIssued
    rw [store, now]
    rw [issued, List.mem_append, List.mem_singleton] at isIssued
    rcases isIssued with isOld | isNew
    · obtain ⟨past, stored | expired⟩ := isMatch.issued token time isOld
      · refine ⟨past, .inl ?_⟩
        by_cases same : token = issuedToken
        · exact ⟨state.serve.now, by simp [SessionStore.createSession, same],
            past⟩
        · simpa [SessionStore.createSession, same] using stored
      · exact ⟨past, .inr expired⟩
    · cases isNew
      exact ⟨le_rfl, .inl ⟨_, by simp [SessionStore.createSession], le_rfl⟩⟩

theorem matches_cleared
    (store : next.serve.context.sessionStore = SessionStore.new)
    (issued : next.issued = []) : next.Matches := by
  constructor
  · intro token created stored
    rw [store] at stored
    cases stored
  · intro token time isIssued
    rw [issued] at isIssued
    cases isIssued

theorem matches_start (accessCodeHash : Option Hash) (secureCookies : Bool)
    (configFile : Option Config) (now : Nat) :
    (start accessCodeHash secureCookies configFile now :
      IssuedSessions Req IpAddr Hash).Matches :=
  matches_cleared rfl rfl

variable [DecidableEq Req] [DecidableEq IpAddr]
variable {env : ServeEnv Req IpAddr Salt Hash}
  {deriveAcceptKey : List UInt8 → String}

omit [DecidableEq Req] [DecidableEq IpAddr] in
theorem Matches.isAuthed (isMatch : state.Matches)
    (cookie : Option (List UInt8)) :
    { state with
      serve := state.serve.setContext (state.serve.context.isAuthed cookie
        state.serve.now).2 }.Matches := by
  rcases state.serve.context.sessionStore_isAuthed with store | ⟨_, store⟩
  · exact isMatch.congr store rfl rfl
  · exact isMatch.lookUp store rfl rfl

omit [DecidableEq Req] [DecidableEq IpAddr] in
theorem serve_serveWebSocket (serve : ByteServer Req IpAddr Hash)
    (request : WsRequest) :
    (serveWebSocket deriveAcceptKey serve request).2 =
      serve.setContext ((serve.context.isAuthed request.extractSessionToken
        serve.now).2.isAuthed request.extractSessionToken serve.now).2 := by
  unfold serveWebSocket
  dsimp only
  split_ifs
  · rfl
  · rfl
  · split <;> rfl

theorem Matches.step (isMatch : state.Matches) {label : GateStep Req Salt}
    (taken : state.step env deriveAcceptKey label = some next) :
    next.Matches := by
  cases label with
  | serve label =>
      obtain ⟨serve, moved, rfl⟩ := Option.map_eq_some_iff.mp taken
      rcases serveStep_cases moved with ⟨nanos, rfl, rfl⟩ | login | settings
      · exact isMatch.elapse rfl (Nat.le_add_right _ _) rfl
      · cases login with
        | created => exact isMatch.created rfl rfl rfl
        | _ => exact isMatch.congr rfl rfl rfl
      · cases settings with
        | lookedUp => exact isMatch.lookUp rfl rfl rfl
        | sessionsCleared => exact matches_cleared rfl rfl
        | _ => exact isMatch.congr rfl rfl rfl
  | webSocket request =>
      cases taken
      rw [serve_serveWebSocket]
      exact (isMatch.isAuthed _).isAuthed _

omit [DecidableEq Req] [DecidableEq IpAddr] in
/-- The server's view of a session is that of its history. -/
theorem Matches.isAuthed_iff (isMatch : state.Matches) (request : WsRequest) :
    (state.serve.context.isAuthed request.extractSessionToken
        state.serve.now).1 = true ↔
      state.serve.context.accessCodeHash = none ∨
        ∃ token issued, request.extractSessionToken = some token ∧
          (token, issued) ∈ state.issued ∧
            state.serve.now - issued < fromSecs (24 * 3600) := by
  rw [ServeContext.isAuthed_iff]
  refine or_congr_right (exists_congr fun token => ?_)
  rw [isMatch.isValid_iff, exists_and_left]
  rfl

omit [DecidableEq Req] [DecidableEq IpAddr] in
theorem Matches.authenticated_of_isAuthed (isMatch : state.Matches)
    {request : WsRequest}
    (authed : (state.serve.context.isAuthed request.extractSessionToken
      state.serve.now).1 = true) : state.Authenticated request := by
  rcases (isMatch.isAuthed_iff request).mp authed with
    noCode | ⟨token, issued, isToken, rest⟩
  · exact .inl noCode
  · exact .inr ⟨token, issued,
      (WsRequest.namesSession_of_extract isToken).of_take, rest⟩

omit [DecidableEq Req] [DecidableEq IpAddr] in
/-- A session is recognised by a visible request exactly if it is not hidden,
where one is needed. -/
theorem Matches.isAuthed_iff_of_authenticated (isMatch : state.Matches)
    {request : WsRequest} (visible : request.IsVisible)
    (authenticated : state.Authenticated request) :
    (state.serve.context.isAuthed request.extractSessionToken
        state.serve.now).1 = true ↔
      state.serve.context.accessCodeHash = none ∨
        ¬ request.HidesSession := by
  rw [isMatch.isAuthed_iff]
  rcases authenticated with noCode | ⟨token, issued, names, rest⟩
  · exact iff_of_true (.inl noCode) (.inl noCode)
  · refine or_congr_right ?_
    constructor
    · rintro ⟨token, issued, isToken, -⟩ ⟨-, hidden⟩
      exact hidden token (WsRequest.namesSession_of_extract isToken)
    · intro seen
      have named : ∃ token,
          WsRequest.NamesSession (request.firstLine "cookie") token := by
        by_contra none
        exact seen ⟨⟨token, names⟩, fun token names => none ⟨token, names⟩⟩
      obtain ⟨first, namesFirst⟩ := named
      obtain rfl := names.unique namesFirst.of_take
      exact ⟨first, issued,
        (WsRequest.extract_iff_namesSession visible).mpr namesFirst, rest⟩

omit [DecidableEq Req] [DecidableEq IpAddr] in
theorem Matches.admitsRightly_iff (isMatch : state.Matches)
    (label : GateStep Req Salt) :
    state.AdmitsRightly deriveAcceptKey label ↔ state.HidesNothing label := by
  cases label with
  | serve label => exact Iff.rfl
  | webSocket request =>
      simp only [AdmitsRightly, HidesNothing, status_serveWebSocket]
      constructor
      · rintro ⟨onlyIf, whenever⟩
        constructor
        · rintro authed version key ⟨foreign, read⟩
          exact foreign (onlyIf ⟨authed,
            WsRequest.wsOriginMatchesHost_iff.mpr (.inr read), version,
            key⟩).2.1
        · intro isAdmissible visible
          obtain ⟨authed, -, version, -⟩ := whenever isAdmissible visible
          exact ⟨fun hidden => hidden.2
              ((WsRequest.versionOk_iff_of_visible visible).mp version),
            (isMatch.isAuthed_iff_of_authenticated visible
              isAdmissible.1).mp authed⟩
      · rintro ⟨heeds, shows⟩
        constructor
        · rintro ⟨authed, origin, version, key⟩
          exact ⟨isMatch.authenticated_of_isAuthed authed,
            WsRequest.originAllowed_of_wsOriginMatchesHost origin
              (heeds authed version key),
            WsRequest.listsVersion_of_versionOk version, key⟩
        · intro isAdmissible visible
          obtain ⟨versionShown, sessionShown⟩ := shows isAdmissible visible
          obtain ⟨authenticated, origin, version, key⟩ := isAdmissible
          refine ⟨(isMatch.isAuthed_iff_of_authenticated visible
              authenticated).mpr sessionShown,
            WsRequest.wsOriginMatchesHost_of_originAllowed origin, ?_, key⟩
          rw [WsRequest.versionOk_iff_of_visible visible]
          by_contra hidden
          exact versionShown ⟨version, hidden⟩

/-- In every run of the server, `GET /ws` is answered 101 to admissible
requests only, and to all of those with visible headers, if and only if no
request hides on a line that is not read what decides about it. -/
theorem admitsRightly_iff_hidesNothing (accessCodeHash : Option Hash)
    (secureCookies : Bool) (configFile : Option Config) (now : Nat)
    (execution : Transition.Execution
      (IssuedSessions.step env deriveAcceptKey)
      (start accessCodeHash secureCookies configFile now)) :
    execution.StepsMeet (AdmitsRightly deriveAcceptKey) ↔
      execution.StepsMeet HidesNothing := by
  apply execution.stepsMeet_congr
  intro before label after reached taken
  have isMatch : before.Matches :=
    reached.invariant
      (matches_start accessCodeHash secureCookies configFile now)
      fun _ _ _ isMatch taken => isMatch.step taken
  exact isMatch.admitsRightly_iff label

/-! ### An Origin that is not a string -/

/-- An upgrade from a foreign page, with a byte 255 in its Origin. -/
def hiddenOrigin : WsRequest where
  headers := [("host", ascii "tablet:1701"),
    ("origin", ascii "http://evil" ++ [255]),
    ("sec-websocket-version", ascii "13"),
    ("sec-websocket-key", ascii "dGhlIHNhbXBsZSBub25jZQ==")]

def hiddenOriginUpgrade : Transition.Execution
    (IssuedSessions.step (plainEnv : ServeEnv Nat Unit Nat (Nat × String))
      fun _ => "")
    (start none false none 0) where
  labels := [.webSocket hiddenOrigin]
  final := _
  runs := rfl

theorem hiddenOrigin_is_admitted :
    ¬ ∀ (execution : Transition.Execution
          (IssuedSessions.step
            (plainEnv : ServeEnv Nat Unit Nat (Nat × String)) fun _ => "")
          (start none false none 0)),
      execution.StepsMeet (AdmitsRightly fun _ => "") := by
  intro holds
  have admits := holds hiddenOriginUpgrade [] _ [] _ rfl rfl
  have upgraded : (serveWebSocket (fun _ => "")
      (start none false none 0 :
        IssuedSessions Nat Unit (Nat × String)).serve
      hiddenOrigin).1.status = 101 := by
    decide
  obtain ⟨-, allowed, -⟩ := admits.1 upgraded
  obtain ⟨authority, has, -, isHost⟩ :=
    allowed (ascii "http://evil" ++ [255]) (by decide)
  obtain ⟨-, isAuthority⟩ := WsRequest.hasAuthority_iff.mp has
  have same := isHost (ascii "tablet:1701") (by decide)
  rw [← isAuthority] at same
  exact absurd same (by decide)

/-- An upgrade with these Origin and Sec-WebSocket-Version lines. -/
def repeatedLines (origins versions : List String) : WsRequest where
  headers := [("host", ascii "tablet:1701"),
      ("sec-websocket-key", ascii "dGhlIHNhbXBsZSBub25jZQ==")] ++
    (origins.map fun origin => ("origin", ascii origin)) ++
      versions.map fun version => ("sec-websocket-version", ascii version)

/-- A foreign Origin on the second line is let in, version 13 there is not
seen. -/
example : [repeatedLines ["http://tablet:1701", "http://evil"] ["13"],
    repeatedLines [] ["8", "13"]].map (fun request =>
      (serveWebSocket (fun _ => "") (start none false none 0 :
        IssuedSessions Nat Unit (Nat × String)).serve request).1.status) =
    [101, 426] := by
  decide

end IssuedSessions

end Rylus
