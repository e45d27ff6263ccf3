import Rylus.SettingsUpdates

/-!
# The access code in force

A settings update that sets the access code changes three copies of it: the
live hash, the config file, and what a login is accepted with.  Here updates
run one after the other, each undisturbed, with logins and the passing of
time in between.  The live hash and the file may start out different, as they
do when a code is given on the command line.
-/

namespace Rylus

variable {Req IpAddr Token Salt Hash : Type*}

/-- A `POST /api/config` with everything it takes from outside. -/
structure SettingsCall (Req Token Salt : Type*) where
  req : Req
  cookie : Option Token
  update : SettingsUpdate
  salt : Salt
  outcome : ConfigWrite

/-- What is sent to the server: an update, run to its end, or one step of
anything else. -/
inductive ServeCall (Req Token Salt : Type*) where
  | postConfig (call : SettingsCall Req Token Salt)
  | between (label : ServeStep Req Token Salt)

def ServeStep.IsSettings : ServeStep Req Token Salt → Bool
  | .startSettings _ _ | .lookUpSession _ | .readUpdate _ _ | .readConfig _
  | .replaceHash _ _ | .clearSessions _ | .writeConfig _ _ => true
  | .elapse _ | .cloneHash _ | .checkLockout _ | .readCode _ _
  | .verifyCode _ | .createSession _ _ | .recordFailure _
  | .answerFailure _ => false

/-- The access code that a config file stands for. -/
def storedCode (env : ServeEnv Req IpAddr Salt Hash)
    (configFile : Option Config) : Option String :=
  (readConfig env.waylandSession configFile).accessCode

/-- The steps of an update that nothing comes between. -/
def SettingsCall.labels (call : SettingsCall Req Token Salt)
    (env : ServeEnv Req IpAddr Salt Hash)
    (state : ServeState Req IpAddr Token Hash) :
    List (ServeStep Req Token Salt) :=
  let authentication : List (ServeStep Req Token Salt) :=
    match state.context.startIsAuthed call.cookie with
    | .lookUp _ => [.startSettings call.req call.cookie,
        .lookUpSession call.req]
    | _ => [.startSettings call.req call.cookie]
  let rotation : List (ServeStep Req Token Salt) :=
    match (call.update.load (readConfig env.waylandSession state.configFile) :
      SettingsStage Token) with
    | .replacing _ _ => [.replaceHash call.req call.salt,
        .clearSessions call.req]
    | _ => []
  authentication ++ [.readUpdate call.req (some call.update),
    .readConfig call.req] ++ rotation ++ [.writeConfig call.req call.outcome]

variable [DecidableEq Req] [DecidableEq IpAddr] [DecidableEq Token]

/-- An update that is answered `{"ok":true}`, or a step in between. -/
def callStep (env : ServeEnv Req IpAddr Salt Hash)
    (state : ServeState Req IpAddr Token Hash) :
    ServeCall Req Token Salt → Option (ServeState Req IpAddr Token Hash)
  | .postConfig call =>
      Transition.run (serveStep env) state (call.labels env state)
  | .between label =>
      if label.IsSettings then none else serveStep env state label

/-- The login of a client that submits `text`. -/
def loginLabels (req : Req) (text : String) (token : Token) :
    List (ServeStep Req Token Salt) :=
  [.cloneHash req, .checkLockout req, .readCode req (some (some text)),
    .verifyCode req, .createSession req token]

/-- A request that arrives while the rate limiter is in this state. -/
def ServeState.arriving (state : ServeState Req IpAddr Token Hash)
    (req : Req) (rateLimiter : RateLimiter IpAddr) :
    ServeState Req IpAddr Token Hash :=
  (state.setContext { state.context with
    rateLimiter := rateLimiter }).setAuth req .arriving

/-- Whoever submits the text to `POST /auth`, and is not rate limited, is
given a session that authenticates. -/
def ServeState.LogsIn (env : ServeEnv Req IpAddr Salt Hash)
    (state : ServeState Req IpAddr Token Hash) (text : String) : Prop :=
  ∀ rateLimiter req token,
    (rateLimiter.lockoutRemaining (env.address req) state.now).1 = none →
      ∃ final, Transition.run (serveStep env) (state.arriving req rateLimiter)
          (loginLabels req text token) = some final ∧
        final.auth req = .done (.loggedIn token) ∧
        final.context.startIsAuthed (some token) = .lookUp token ∧
        final.IsValid token

/-- The live hash stands for the code. -/
def LiveCode (env : ServeEnv Req IpAddr Salt Hash)
    (accessCodeHash : Option Hash) : Option String → Prop
  | none => accessCodeHash = none
  | some text => ∃ hash, accessCodeHash = some hash ∧
      ∀ submitted, env.verifyAccessCode submitted hash = true ↔
        submitted = text

/-- The code is the one in force: it is live, it is stored, without one
everybody is admitted and with one it lets its holder in. -/
structure CodeInForce (env : ServeEnv Req IpAddr Salt Hash)
    (state : ServeState Req IpAddr Token Hash) (code : Option String) :
    Prop where
  live : LiveCode env state.context.accessCodeHash code
  stored : storedCode env state.configFile = code
  admits : code = none →
    ∀ cookie, state.context.startIsAuthed cookie = .admitted
  logsIn : ∀ text, code = some text → state.LogsIn env text

/-- After an update that sets the code, that code is in force. -/
def SetsCode (env : ServeEnv Req IpAddr Salt Hash)
    (state : ServeState Req IpAddr Token Hash) :
    ServeCall Req Token Salt → Prop
  | .between _ => True
  | .postConfig call => ∀ after, callStep env state (.postConfig call) =
      some after → ∀ code, call.update.accessCode = some code →
        CodeInForce env after code

/-- The file has the code after a write that ends this way. -/
def ConfigWrite.Stores (outcome : ConfigWrite)
    (env : ServeEnv Req IpAddr Salt Hash) (configFile : Option Config)
    (code : Option String) : Prop :=
  match outcome with
  | written => True
  | untouched => storedCode env configFile = code
  | torn left => storedCode env left = code

/-- An update asks for a code that is not empty, its write does not lose it,
and if the file had this very code before, the live hash had it too. -/
def AgreesBefore (env : ServeEnv Req IpAddr Salt Hash)
    (state : ServeState Req IpAddr Token Hash) :
    ServeCall Req Token Salt → Prop
  | .between _ => True
  | .postConfig call => ∀ code, call.update.accessCode = some code →
      code ≠ some "" ∧ call.outcome.Stores env state.configFile code ∧
        (storedCode env state.configFile = code →
          LiveCode env state.context.accessCodeHash code)

variable {env : ServeEnv Req IpAddr Salt Hash}
variable {state after : ServeState Req IpAddr Token Hash}

open ServeState

/-- With a live hash, a code lets its holder in exactly if it is not empty
and the hash verifies it. -/
theorem logsIn_iff [Nonempty Req] [Inhabited Token] {hash : Hash}
    (live : state.context.accessCodeHash = some hash) (text : String) :
    state.LogsIn env text ↔
      (!text.isEmpty && env.verifyAccessCode text hash) = true := by
  constructor
  · intro logsIn
    obtain ⟨req⟩ := ‹Nonempty Req›
    have free : ((RateLimiter.new : RateLimiter IpAddr).lockoutRemaining
        (env.address req) state.now).1 = none :=
      rfl
    obtain ⟨final, runs, -⟩ := logsIn .new req default free
    by_contra refused
    simp only [loginLabels, Transition.run_cons, Transition.run_nil, serveStep,
      authStep, arriving, setAuth, setContext, Function.update_self, live,
      lockoutRemaining, free, Option.bind_some, if_neg refused] at runs
    cases runs
  · intro accepted rateLimiter req token free
    simp only [loginLabels, Transition.run_cons, Transition.run_nil, serveStep,
      authStep, arriving, setAuth, setContext, Function.update_self, live,
      lockoutRemaining, free, Option.bind_some, if_pos accepted]
    exact ⟨_, rfl, by simp, rfl,
      SessionStore.isValid_createSession_self _ token _⟩

theorem settingsMove_of_serveStep {label : ServeStep Req Token Salt}
    (isSettings : label.IsSettings = true)
    (taken : serveStep env state label = some after) :
    SettingsMove env state label after := by
  cases label <;>
    first
      | exact settingsMove_of_settingsStep taken
      | cases isSettings

omit [DecidableEq IpAddr] in
/-- Only replacing the hash changes it, and only writing the file. -/
theorem frame_of_settingsMove {label : ServeStep Req Token Salt}
    (moved : SettingsMove env state label after)
    (notReplace : ∀ req salt, label ≠ .replaceHash req salt)
    (notWrite : ∀ req outcome, label ≠ .writeConfig req outcome) :
    after.configFile = state.configFile ∧
      after.context.accessCodeHash = state.context.accessCodeHash := by
  cases moved with
  | hashReplaced req salt => exact absurd rfl (notReplace req salt)
  | configWritten req outcome => exact absurd rfl (notWrite req outcome)
  | _ => exact ⟨rfl, rfl⟩

theorem run_singleton {label : ServeStep Req Token Salt}
    (runs : Transition.run (serveStep env) state [label] = some after) :
    serveStep env state label = some after := by
  simpa using runs

/-- Being authenticated changes neither the hash nor the file. -/
theorem run_authentication {req : Req} {cookie : Option Token}
    (runs : Transition.run (serveStep env) state
      (match state.context.startIsAuthed cookie with
        | .lookUp _ => [.startSettings req cookie, .lookUpSession req]
        | _ => [.startSettings req cookie]) = some after) :
    after.configFile = state.configFile ∧
      after.context.accessCodeHash = state.context.accessCodeHash := by
  have starts {middle : ServeState Req IpAddr Token Hash}
      (taken : serveStep env state (.startSettings req cookie) =
        some middle) :=
    frame_of_settingsMove (settingsMove_of_serveStep rfl taken) (by simp)
      (by simp)
  split at runs
  · rw [Transition.run_cons, Option.bind_eq_some_iff] at runs
    obtain ⟨middle, isStarted, runs⟩ := runs
    have looked := frame_of_settingsMove
      (settingsMove_of_serveStep rfl (run_singleton runs)) (by simp) (by simp)
    have started := starts isStarted
    exact ⟨looked.1.trans started.1, looked.2.trans started.2⟩
  · exact starts (run_singleton runs)

/-- An authenticated update reads its body and the file. -/
theorem run_load {req : Req} {update : SettingsUpdate}
    (runs : Transition.run (serveStep env) state
      [.readUpdate req (some update), .readConfig req] = some after) :
    after = (state.setSettings req (.parsed update)).setSettings req
      (update.load (readConfig env.waylandSession state.configFile)) := by
  rw [Transition.run_cons, Option.bind_eq_some_iff] at runs
  obtain ⟨parsed, isParsed, runs⟩ := runs
  have readBody : SettingsMove env state _ parsed :=
    settingsMove_of_serveStep rfl isParsed
  have readFile : SettingsMove env parsed _ after :=
    settingsMove_of_serveStep rfl (run_singleton runs)
  cases readBody with
  | updateRead =>
      cases readFile with
      | configRead _ update' stage =>
          simp only [setSettings, Function.update_self, Option.elim,
            SettingsStage.parsed.injEq] at stage
          rw [stage]
          rfl

/-- A rotation replaces the hash. -/
theorem run_rotation {req : Req} {salt : Salt} {update : SettingsUpdate}
    {config : Config} (stage : state.settings req = .replacing update config)
    (runs : Transition.run (serveStep env) state
      [.replaceHash req salt, .clearSessions req] = some after) :
    after.settings req = .writing update config ∧
      after.configFile = state.configFile ∧
      after.context.accessCodeHash =
        config.accessCode.map (env.hashAccessCode salt) := by
  rw [Transition.run_cons, Option.bind_eq_some_iff] at runs
  obtain ⟨replaced, isReplaced, runs⟩ := runs
  have replaces : SettingsMove env state _ replaced :=
    settingsMove_of_serveStep rfl isReplaced
  have clears : SettingsMove env replaced _ after :=
    settingsMove_of_serveStep rfl (run_singleton runs)
  cases replaces with
  | hashReplaced _ _ update' config' stage' =>
      cases stage'.symm.trans stage
      cases clears with
      | sessionsCleared _ update'' config'' stage'' =>
          simp only [setSettings, Function.update_self,
            SettingsStage.clearing.injEq] at stage''
          obtain ⟨rfl, rfl⟩ := stage''
          exact ⟨by simp [setSettings], rfl, rfl⟩

/-- The write that ends an update. -/
theorem run_write {req : Req} {outcome : ConfigWrite}
    (runs : Transition.run (serveStep env) state
      [.writeConfig req outcome] = some after) :
    ∃ update config, state.settings req = .writing update config ∧
      after.configFile =
        outcome.leaves state.configFile (update.applyFlags config) ∧
      after.context = state.context := by
  have writes : SettingsMove env state _ after :=
    settingsMove_of_serveStep rfl (run_singleton runs)
  cases writes with
  | configWritten _ _ update config stage =>
      exact ⟨update, config, stage, rfl, rfl⟩

/-- What an undisturbed update leaves behind. -/
theorem callStep_spec {call : SettingsCall Req Token Salt}
    {code : Option String} (sets : call.update.accessCode = some code)
    (taken : callStep env state (.postConfig call) = some after) :
    ∃ config, config.accessCode = code ∧
      after.configFile = call.outcome.leaves state.configFile config ∧
      after.context.accessCodeHash =
        if storedCode env state.configFile = code then
          state.context.accessCodeHash
        else code.map (env.hashAccessCode call.salt) := by
  unfold callStep SettingsCall.labels at taken
  simp only [Transition.run_append, Option.bind_eq_some_iff] at taken
  obtain ⟨rotated, ⟨loaded, ⟨authenticated, isAuthenticated, isLoaded⟩,
    isRotated⟩, isWritten⟩ := taken
  obtain ⟨sameFile, sameHash⟩ := run_authentication isAuthenticated
  have isLoaded := run_load isLoaded
  have fileOfLoaded : loaded.configFile = state.configFile := by
    rw [isLoaded]
    exact sameFile
  have hashOfLoaded :
      loaded.context.accessCodeHash = state.context.accessCodeHash := by
    rw [isLoaded]
    exact sameHash
  have stage : loaded.settings call.req =
      call.update.load (readConfig env.waylandSession state.configFile) := by
    rw [isLoaded, sameFile]
    simp [setSettings]
  obtain ⟨update, config, writing, isFile, isContext⟩ := run_write isWritten
  have edited : (call.update.edit (readConfig env.waylandSession
      state.configFile)).accessCode = code := by
    simp [SettingsUpdate.edit, sets]
  by_cases parses : call.update.bindAddress = some none
  · -- a bad address is answered before the file is written
    have failed : (call.update.load (readConfig env.waylandSession
        state.configFile) : SettingsStage Token) = .failed := by
      simp [SettingsUpdate.load, parses]
    rw [failed] at stage isRotated
    cases isRotated
    rw [stage] at writing
    cases writing
  · rw [SettingsUpdate.load_of_accessCode sets parses] at stage isRotated
    by_cases same : storedCode env state.configFile = code
    · have sameConfig : (readConfig env.waylandSession
          state.configFile).accessCode = code :=
        same
      rw [if_pos sameConfig] at stage isRotated
      cases isRotated
      cases stage.symm.trans writing
      refine ⟨call.update.apply _, edited, ?_, ?_⟩
      · rw [isFile, fileOfLoaded]
        rfl
      · rw [isContext, hashOfLoaded, if_pos same]
    · have different : ¬ (readConfig env.waylandSession
          state.configFile).accessCode = code :=
        same
      rw [if_neg different] at stage isRotated
      obtain ⟨stage', fileOfRotated, hashOfRotated⟩ :=
        run_rotation stage isRotated
      cases stage'.symm.trans writing
      refine ⟨call.update.apply _, edited, ?_, ?_⟩
      · rw [isFile, fileOfRotated, fileOfLoaded]
        rfl
      · rw [isContext, hashOfRotated, if_neg same, edited]

omit [DecidableEq Req] [DecidableEq IpAddr] in
/-- What the file stands for after a write. -/
theorem storedCode_leaves_iff {configFile : Option Config} {config : Config}
    {code : Option String} (isCode : config.accessCode = code)
    (outcome : ConfigWrite) :
    storedCode env (outcome.leaves configFile config) = code ↔
      outcome.Stores env configFile code := by
  cases outcome with
  | written =>
      constructor
      · exact fun _ => trivial
      · exact fun _ => isCode
  | untouched => exact Iff.rfl
  | torn left => exact Iff.rfl

section Argon2

variable (recognises : ∀ salt text submitted,
  env.verifyAccessCode submitted (env.hashAccessCode salt text) = true ↔
    submitted = text)
include recognises

omit [DecidableEq Req] [DecidableEq IpAddr] [DecidableEq Token] in
/-- The hash of a code stands for the code. -/
theorem liveCode_hashAccessCode (salt : Salt) (code : Option String) :
    LiveCode env (code.map (env.hashAccessCode salt)) code := by
  cases code with
  | none => rfl
  | some text => exact ⟨_, rfl, recognises salt text⟩

variable [Inhabited Token]

/-- An update brings its code in force exactly if that code is not empty, the
write does not lose it, and a file that had this very code agreed with the
live hash. -/
theorem setsCode_iff_agreesBefore (call : ServeCall Req Token Salt)
    (taken : callStep env state call = some after) :
    SetsCode env state call ↔ AgreesBefore env state call := by
  cases call with
  | between label => exact Iff.rfl
  | postConfig call =>
      have whole : SetsCode env state (.postConfig call) ↔
          ∀ code, call.update.accessCode = some code →
            CodeInForce env after code := by
        simp only [SetsCode, taken, Option.some.injEq, forall_eq']
      rw [whole, AgreesBefore]
      refine forall_congr' fun code => forall_congr' fun sets => ?_
      obtain ⟨config, isCode, isFile, isHash⟩ := callStep_spec sets taken
      have stored : storedCode env after.configFile = code ↔
          call.outcome.Stores env state.configFile code := by
        rw [isFile]
        exact storedCode_leaves_iff isCode call.outcome
      have nonempty : Nonempty Req := ⟨call.req⟩
      constructor
      · intro inForce
        refine ⟨?_, stored.mp inForce.stored, ?_⟩
        · rintro rfl
          obtain ⟨hash, isLive, -⟩ := inForce.live
          have accepted := (logsIn_iff isLive "").mp (inForce.logsIn "" rfl)
          simp at accepted
        · intro same
          have live := inForce.live
          rw [isHash, if_pos same] at live
          exact live
      · rintro ⟨notEmpty, stores, agrees⟩
        have live : LiveCode env after.context.accessCodeHash code := by
          rw [isHash]
          split_ifs with same
          · exact agrees same
          · exact liveCode_hashAccessCode recognises call.salt code
        refine ⟨live, stored.mpr stores, ?_, ?_⟩
        · rintro rfl cookie
          have isNone : after.context.accessCodeHash = none := live
          simp [ServeContext.startIsAuthed, isNone]
        · rintro text rfl
          obtain ⟨hash, isLive, verifies⟩ := live
          rw [logsIn_iff isLive, (verifies text).mpr rfl]
          have : text ≠ "" := by
            rintro rfl
            exact notEmpty rfl
          simp [this]

/-- The code just set is the code in force, throughout a sequence of updates
and logins, if and only if every update meets `AgreesBefore`. -/
theorem codeInForce_iff_agreesBefore
    (execution : Transition.Execution (callStep env) state) :
    execution.StepsMeet (SetsCode env) ↔
      execution.StepsMeet (AgreesBefore env) :=
  execution.stepsMeet_congr fun _ call _ _ taken =>
    setsCode_iff_agreesBefore recognises call taken

end Argon2

/-! ### A code from the command line -/

def cliEnv : ServeEnv Nat Unit Nat (Nat × String) := plainEnv

theorem cliEnv_recognises (salt : Nat) (text submitted : String) :
    cliEnv.verifyAccessCode submitted (cliEnv.hashAccessCode salt text) =
      true ↔ submitted = text :=
  beq_iff_eq.trans eq_comm

/-- A request that only sets the access code. -/
def setsTo (text : String) (cookie : Option Nat) :
    SettingsCall Nat Nat Nat where
  req := 1
  cookie := cookie
  update :=
    { UpdateHistory.unchanged with accessCode := some (some text) }
  salt := 7
  outcome := .written

/-- The first code of a server without one. -/
def firstCode : Transition.Execution (callStep cliEnv)
    (.start none false none 0 :
      ServeState Nat Unit Nat (Nat × String)) where
  labels := [.postConfig (setsTo "new" none)]
  final := _
  runs := rfl

theorem codeInForce_iff_agreesBefore_firstCode :
    firstCode.StepsMeet (SetsCode cliEnv) := by
  apply (codeInForce_iff_agreesBefore cliEnv_recognises firstCode).mpr
  refine firstCode.stepsMeet_of_meetsFrom ⟨?_, fun _ _ => trivial⟩
  rintro code ⟨⟩
  exact ⟨by simp, trivial, by rintro ⟨⟩⟩

/-- The server is started with the code `cli` although its file has `file`;
somebody logs in and sets the code to `file`. -/
def codeOfFile : Transition.Execution (callStep cliEnv)
    (.start (some (0, "cli")) false
      (some { Config.fromDefaults with accessCode := some "file" }) 0 :
      ServeState Nat Unit Nat (Nat × String)) where
  labels := [.between (.cloneHash 0), .between (.checkLockout 0),
    .between (.readCode 0 (some (some "cli"))), .between (.verifyCode 0),
    .between (.createSession 0 100), .postConfig (setsTo "file" (some 100))]
  final := _
  runs := rfl

theorem not_codeInForce_codeOfFile :
    ¬ ∀ (state : ServeState Nat Unit Nat (Nat × String))
        (execution : Transition.Execution (callStep cliEnv) state),
      execution.StepsMeet (SetsCode cliEnv) := by
  intro holds
  have sets := holds _ codeOfFile [_, _, _, _, _] _ [] _ rfl rfl
  obtain ⟨hash, isLive, verifies⟩ := (sets _ rfl _ rfl).live
  -- the live hash is still that of `cli`
  obtain rfl : (0, "cli") = hash := Option.some.inj isLive
  exact absurd ((verifies "cli").mp rfl) (by decide)

end Rylus
