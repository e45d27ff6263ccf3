import Rylus.LabelledExecution
import Rylus.ServeContext

/-!
# Interleavings of `POST /auth` and `POST /api/config`

The server runs every request as its own task on several threads, so requests
interleave at each lock and at each await.  A state records where every
request stands; a label is one atomic step of one request.  Nothing bounds
the number of requests.

Three fields are bookkeeping for statements and influence no step: the hash
each session's access code was verified against, all failures ever recorded,
and how many of them a request's lockout check had seen.
-/

namespace Rylus

/-- The redirects and errors that end a `POST /auth`. -/
inductive AuthResponse (Token : Type*) where
  | rateLimited (retry : Nat)
  | badRequest
  | loggedIn (token : Token)
  | invalid
  | notFound

/-- Where a `POST /auth` stands: before its first step, or with the hash it
cloned before the lockout check, while awaiting the body, before verifying,
before creating the session, before recording the failure, before the answer. -/
inductive AuthStage (Token Hash : Type*) where
  | arriving
  | checking (hash : Hash)
  | awaitingBody (hash : Hash)
  | submitted (hash : Hash) (code : Option String)
  | verified (hash : Hash)
  | rejected
  | recorded
  | done (response : AuthResponse Token)

/-- Where a `POST /api/config` stands: before `is_authed`, inside it, while
awaiting the body, before reading the config file, before replacing the hash,
before clearing the sessions, before writing the config file. -/
inductive SettingsStage (Token : Type*) where
  | arriving
  | authenticating (token : Token)
  | awaitingBody
  | parsed (update : SettingsUpdate)
  | replacing (update : SettingsUpdate) (config : Config)
  | clearing (update : SettingsUpdate) (config : Config)
  | writing (update : SettingsUpdate) (config : Config)
  | done
  | failed

structure ServeState (Req IpAddr Token Hash : Type*) where
  now : Nat
  context : ServeContext IpAddr Token Hash
  configFile : Option Config
  auth : Req → AuthStage Token Hash
  settings : Req → SettingsStage Token
  issuedAgainst : Token → Option Hash
  failures : IpAddr → List Nat
  seenFailures : Req → Nat

/-- How a call of `write_config` ends, which reports nothing: the file is
written, is left as it was, or is torn; what `read_config` makes of a torn
file is left open. -/
inductive ConfigWrite where
  | written
  | untouched
  | torn (left : Option Config)

/-- The file after a call of `write_config`. -/
def ConfigWrite.leaves (outcome : ConfigWrite)
    (configFile : Option Config) (config : Config) : Option Config :=
  match outcome with
  | written => some config
  | untouched => configFile
  | torn left => left

/-- One atomic step.  Arguments are what the step takes from outside: the
body of a request (`none` when reading it fails), a random token or salt, how
a write to the config file ends. -/
inductive ServeStep (Req Token Salt : Type*) where
  | elapse (nanos : Nat)
  | cloneHash (req : Req)
  | checkLockout (req : Req)
  | readCode (req : Req) (body : Option (Option String))
  | verifyCode (req : Req)
  | createSession (req : Req) (token : Token)
  | recordFailure (req : Req)
  | answerFailure (req : Req)
  | startSettings (req : Req) (cookie : Option Token)
  | lookUpSession (req : Req)
  | readUpdate (req : Req) (body : Option SettingsUpdate)
  | readConfig (req : Req)
  | replaceHash (req : Req) (salt : Salt)
  | clearSessions (req : Req)
  | writeConfig (req : Req) (outcome : ConfigWrite)

/-- `read_config`: the flag for Wayland is never serialised, so it is always
the one of the running session; without a file the defaults apply. -/
def readConfig (waylandSession : Bool) (configFile : Option Config) :
    Config :=
  match configFile with
  | some config => { config with waylandSupport := waylandSession }
  | none => Config.fromDefaults

/-- The fields `handle_post_config` copies after the access code. -/
def SettingsUpdate.applyFlags (update : SettingsUpdate) (config : Config) :
    Config :=
  { config with
    tryVaapi := update.tryVaapi.getD config.tryVaapi
    tryNvenc := update.tryNvenc.getD config.tryNvenc
    waylandSupport := update.waylandSupport.getD config.waylandSupport }

/-- From `read_config` to the decision whether the access code rotates. -/
def SettingsUpdate.load {Token : Type*} (update : SettingsUpdate)
    (config : Config) :
    SettingsStage Token :=
  match update.bindAddress with
  | some none => .failed
  | bindAddress =>
      let config := { config with
        bindAddress := (bindAddress.bind id).getD config.bindAddress
        webPort := update.webPort.getD config.webPort }
      match update.accessCode with
      | none => .writing update config
      | some code =>
          let rotated := config.accessCode ≠ code
          let config := { config with accessCode := code }
          if rotated then .replacing update config
          else .writing update config

namespace ServeState

variable {Req IpAddr Token Salt Hash : Type*}

/-- The server as `run` starts it. -/
def start (accessCodeHash : Option Hash) (secureCookies : Bool)
    (configFile : Option Config) (now : Nat) :
    ServeState Req IpAddr Token Hash where
  now := now
  context :=
    { rateLimiter := RateLimiter.new
      sessionStore := SessionStore.new
      accessCodeHash := accessCodeHash
      secureCookies := secureCookies }
  configFile := configFile
  auth := fun _ => .arriving
  settings := fun _ => .arriving
  issuedAgainst := fun _ => none
  failures := fun _ => []
  seenFailures := fun _ => 0

variable [DecidableEq Req] [DecidableEq IpAddr] [DecidableEq Token]

def setAuth (state : ServeState Req IpAddr Token Hash) (req : Req)
    (stage : AuthStage Token Hash) : ServeState Req IpAddr Token Hash :=
  { state with auth := Function.update state.auth req stage }

def setSettings (state : ServeState Req IpAddr Token Hash) (req : Req)
    (stage : SettingsStage Token) : ServeState Req IpAddr Token Hash :=
  { state with settings := Function.update state.settings req stage }

def setContext (state : ServeState Req IpAddr Token Hash)
    (context : ServeContext IpAddr Token Hash) :
    ServeState Req IpAddr Token Hash :=
  { state with context := context }

end ServeState

section Steps

variable {Req IpAddr Token Salt Hash : Type*}
variable [DecidableEq Req] [DecidableEq IpAddr] [DecidableEq Token]

open ServeState

/-- Ask the limiter, which prunes the address as a side effect. -/
def ServeState.lockoutRemaining
    (state : ServeState Req IpAddr Token Hash) (ip : IpAddr) :
    Option Nat × ServeState Req IpAddr Token Hash :=
  let (retry, limiter) :=
    state.context.rateLimiter.lockoutRemaining ip state.now
  (retry, state.setContext { state.context with rateLimiter := limiter })

/-- `POST /auth`: the steps of `serve` on one request. -/
def authStep (env : ServeEnv Req IpAddr Salt Hash)
    (state : ServeState Req IpAddr Token Hash) :
    ServeStep Req Token Salt → Option (ServeState Req IpAddr Token Hash)
  | .cloneHash req =>
      match state.auth req with
      | .arriving =>
          match state.context.accessCodeHash with
          | some hash => some (state.setAuth req (.checking hash))
          -- without an access code the request falls through to the 404
          | none => some (state.setAuth req (.done .notFound))
      | _ => none
  | .checkLockout req =>
      match state.auth req with
      | .checking hash =>
          let (retry, state) := state.lockoutRemaining (env.address req)
          match retry with
          | some retry => some (state.setAuth req (.done (.rateLimited retry)))
          | none =>
              some ({ state with
                seenFailures := Function.update state.seenFailures req
                  (state.failures (env.address req)).length }.setAuth req
                    (.awaitingBody hash))
      | _ => none
  | .readCode req body =>
      match state.auth req with
      | .awaitingBody hash =>
          match body with
          | some code => some (state.setAuth req (.submitted hash code))
          | none => some (state.setAuth req (.done .badRequest))
      | _ => none
  | .verifyCode req =>
      match state.auth req with
      | .submitted hash (some code) =>
          -- an empty code is rejected without calling the verifier
          if !code.isEmpty && env.verifyAccessCode code hash then
            some (state.setAuth req (.verified hash))
          else
            some (state.setAuth req .rejected)
      | .submitted _ none => some (state.setAuth req .rejected)
      | _ => none
  | .createSession req token =>
      match state.auth req with
      | .verified hash =>
          let store :=
            state.context.sessionStore.createSession token state.now
          some ({ state.setContext
              { state.context with sessionStore := store } with
            issuedAgainst := Function.update state.issuedAgainst token
              (some hash) }.setAuth req (.done (.loggedIn token)))
      | _ => none
  | .recordFailure req =>
      match state.auth req with
      | .rejected =>
          let ip := env.address req
          let limiter := state.context.rateLimiter.recordFailure ip state.now
          some ({ state.setContext
              { state.context with rateLimiter := limiter } with
            failures := Function.update state.failures ip
              (state.failures ip ++ [state.now]) }.setAuth req .recorded)
      | _ => none
  | .answerFailure req =>
      match state.auth req with
      | .recorded =>
          let (retry, state) := state.lockoutRemaining (env.address req)
          match retry with
          | some retry => some (state.setAuth req (.done (.rateLimited retry)))
          | none => some (state.setAuth req (.done .invalid))
      | _ => none
  | _ => none

/-- `POST /api/config`: `is_authed`, then the steps of
`handle_post_config`. -/
def settingsStep (env : ServeEnv Req IpAddr Salt Hash)
    (state : ServeState Req IpAddr Token Hash) :
    ServeStep Req Token Salt → Option (ServeState Req IpAddr Token Hash)
  | .startSettings req cookie =>
      match state.settings req with
      | .arriving =>
          match state.context.startIsAuthed cookie with
          | .admitted => some (state.setSettings req .awaitingBody)
          | .refused => some (state.setSettings req .failed)
          | .lookUp token => some (state.setSettings req (.authenticating token))
      | _ => none
  | .lookUpSession req =>
      match state.settings req with
      | .authenticating token =>
          let (valid, store) :=
            state.context.sessionStore.isValid token state.now
          some ((state.setContext
              { state.context with sessionStore := store }).setSettings req
                (if valid then .awaitingBody else .failed))
      | _ => none
  | .readUpdate req body =>
      match state.settings req with
      | .awaitingBody =>
          match body with
          | some update => some (state.setSettings req (.parsed update))
          | none => some (state.setSettings req .failed)
      | _ => none
  | .readConfig req =>
      match state.settings req with
      | .parsed update =>
          some (state.setSettings req
            (update.load (readConfig env.waylandSession state.configFile)))
      | _ => none
  | .replaceHash req salt =>
      match state.settings req with
      | .replacing update config =>
          some ((state.setContext { state.context with
              accessCodeHash :=
                config.accessCode.map (env.hashAccessCode salt) }).setSettings
                  req (.clearing update config))
      | _ => none
  | .clearSessions req =>
      match state.settings req with
      | .clearing update config =>
          some ((state.setContext { state.context with
              sessionStore := state.context.sessionStore.clear }).setSettings
                req (.writing update config))
      | _ => none
  | .writeConfig req outcome =>
      match state.settings req with
      | .writing update config =>
          let config := update.applyFlags config
          some ({ state with
            configFile :=
              outcome.leaves state.configFile config }.setSettings req .done)
      | _ => none
  | _ => none

/-- One atomic step of the server. -/
def serveStep (env : ServeEnv Req IpAddr Salt Hash)
    (state : ServeState Req IpAddr Token Hash) :
    ServeStep Req Token Salt → Option (ServeState Req IpAddr Token Hash)
  | .elapse nanos => some { state with now := state.now + nanos }
  | label@(.cloneHash _) | label@(.checkLockout _) | label@(.readCode _ _)
  | label@(.verifyCode _) | label@(.createSession _ _)
  | label@(.recordFailure _) | label@(.answerFailure _) =>
      authStep env state label
  | label => settingsStep env state label

variable {env : ServeEnv Req IpAddr Salt Hash}
variable {before after : ServeState Req IpAddr Token Hash}
variable {label : ServeStep Req Token Salt}

/-- What a step of a login does. -/
inductive AuthMove (env : ServeEnv Req IpAddr Salt Hash)
    (state : ServeState Req IpAddr Token Hash) :
    ServeStep Req Token Salt → ServeState Req IpAddr Token Hash → Prop
  | cloned (req : Req) (hash : Hash) (arriving : state.auth req = .arriving)
      (live : state.context.accessCodeHash = some hash) :
      AuthMove env state (.cloneHash req) (state.setAuth req (.checking hash))
  | noCode (req : Req) (arriving : state.auth req = .arriving)
      (live : state.context.accessCodeHash = none) :
      AuthMove env state (.cloneHash req)
        (state.setAuth req (.done .notFound))
  | lockedOut (req : Req) (hash : Hash) (retry : Nat)
      (checking : state.auth req = .checking hash)
      (locked : (state.lockoutRemaining (env.address req)).1 = some retry) :
      AuthMove env state (.checkLockout req)
        ((state.lockoutRemaining (env.address req)).2.setAuth req
          (.done (.rateLimited retry)))
  | admitted (req : Req) (hash : Hash)
      (checking : state.auth req = .checking hash)
      (free : (state.lockoutRemaining (env.address req)).1 = none) :
      AuthMove env state (.checkLockout req)
        ({ (state.lockoutRemaining (env.address req)).2 with
          seenFailures := Function.update state.seenFailures req
            (state.failures (env.address req)).length }.setAuth req
              (.awaitingBody hash))
  | submitted (req : Req) (hash : Hash) (code : Option String)
      (awaiting : state.auth req = .awaitingBody hash) :
      AuthMove env state (.readCode req (some code))
        (state.setAuth req (.submitted hash code))
  | badRequest (req : Req) (hash : Hash)
      (awaiting : state.auth req = .awaitingBody hash) :
      AuthMove env state (.readCode req none)
        (state.setAuth req (.done .badRequest))
  | verified (req : Req) (hash : Hash) (code : String)
      (submitted : state.auth req = .submitted hash (some code))
      (accepts : (!code.isEmpty && env.verifyAccessCode code hash) = true) :
      AuthMove env state (.verifyCode req) (state.setAuth req (.verified hash))
  | rejected (req : Req) (hash : Hash) (code : Option String)
      (submitted : state.auth req = .submitted hash code)
      (rejects : ∀ text, code = some text →
        (!text.isEmpty && env.verifyAccessCode text hash) = false) :
      AuthMove env state (.verifyCode req) (state.setAuth req .rejected)
  | created (req : Req) (token : Token) (hash : Hash)
      (verified : state.auth req = .verified hash) :
      AuthMove env state (.createSession req token)
        ({ state.setContext { state.context with
            sessionStore :=
              state.context.sessionStore.createSession token state.now } with
          issuedAgainst := Function.update state.issuedAgainst token
            (some hash) }.setAuth req (.done (.loggedIn token)))
  | recorded (req : Req) (rejected : state.auth req = .rejected) :
      AuthMove env state (.recordFailure req)
        ({ state.setContext { state.context with
            rateLimiter := state.context.rateLimiter.recordFailure
              (env.address req) state.now } with
          failures := Function.update state.failures (env.address req)
            (state.failures (env.address req) ++ [state.now]) }.setAuth req
              .recorded)
  | answered (req : Req) (recorded : state.auth req = .recorded) :
      AuthMove env state (.answerFailure req)
        ((state.lockoutRemaining (env.address req)).2.setAuth req
          (.done (match (state.lockoutRemaining (env.address req)).1 with
            | some retry => .rateLimited retry
            | none => .invalid)))

theorem authMove_of_authStep (taken : authStep env before label = some after) :
    AuthMove env before label after := by
  cases label with
  | cloneHash req =>
      simp only [authStep] at taken
      split at taken
      · split at taken <;> cases taken
        · exact .cloned req _ ‹_› ‹_›
        · exact .noCode req ‹_› ‹_›
      · cases taken
  | checkLockout req =>
      simp only [authStep] at taken
      split at taken
      · split at taken <;> cases taken
        · exact .lockedOut req _ _ ‹_› ‹_›
        · exact .admitted req _ ‹_› ‹_›
      · cases taken
  | readCode req body =>
      simp only [authStep] at taken
      split at taken
      · split at taken <;> cases taken
        · exact .submitted req _ _ ‹_›
        · exact .badRequest req _ ‹_›
      · cases taken
  | verifyCode req =>
      simp only [authStep] at taken
      split at taken
      · split at taken <;> cases taken
        · exact .verified req _ _ ‹_› ‹_›
        · rename_i hash code submitted refused
          refine .rejected req hash (some code) submitted ?_
          rintro _ ⟨⟩
          simpa using refused
      · cases taken
        exact .rejected req _ none ‹_› (by simp)
      · cases taken
  | createSession req token =>
      simp only [authStep] at taken
      split at taken
      · cases taken
        exact .created req token _ ‹_›
      · cases taken
  | recordFailure req =>
      simp only [authStep] at taken
      split at taken
      · cases taken
        exact .recorded req ‹_›
      · cases taken
  | answerFailure req =>
      simp only [authStep] at taken
      split at taken
      · rename_i recorded
        have answers : AuthMove env before (.answerFailure req) _ :=
          .answered req recorded
        split at taken <;> cases taken
        · rename_i retry locked
          rw [locked] at answers
          exact answers
        · rename_i free
          rw [free] at answers
          exact answers
      · cases taken
  | _ => cases taken

/-- What a step of a settings update does. -/
inductive SettingsMove (env : ServeEnv Req IpAddr Salt Hash)
    (state : ServeState Req IpAddr Token Hash) :
    ServeStep Req Token Salt → ServeState Req IpAddr Token Hash → Prop
  | started (req : Req) (cookie : Option Token)
      (arriving : state.settings req = .arriving) :
      SettingsMove env state (.startSettings req cookie)
        (state.setSettings req
          (match state.context.startIsAuthed cookie with
            | .admitted => .awaitingBody
            | .refused => .failed
            | .lookUp token => .authenticating token))
  | lookedUp (req : Req) (token : Token)
      (authenticating : state.settings req = .authenticating token) :
      SettingsMove env state (.lookUpSession req)
        ((state.setContext { state.context with
            sessionStore := (state.context.sessionStore.isValid token
              state.now).2 }).setSettings req
          (if (state.context.sessionStore.isValid token state.now).1
            then .awaitingBody else .failed))
  | updateRead (req : Req) (body : Option SettingsUpdate)
      (awaiting : state.settings req = .awaitingBody) :
      SettingsMove env state (.readUpdate req body)
        (state.setSettings req (body.elim .failed .parsed))
  | configRead (req : Req) (update : SettingsUpdate)
      (parsed : state.settings req = .parsed update) :
      SettingsMove env state (.readConfig req)
        (state.setSettings req
          (update.load (readConfig env.waylandSession state.configFile)))
  | hashReplaced (req : Req) (salt : Salt) (update : SettingsUpdate)
      (config : Config)
      (replacing : state.settings req = .replacing update config) :
      SettingsMove env state (.replaceHash req salt)
        ((state.setContext { state.context with
            accessCodeHash := config.accessCode.map
              (env.hashAccessCode salt) }).setSettings req
          (.clearing update config))
  | sessionsCleared (req : Req) (update : SettingsUpdate) (config : Config)
      (clearing : state.settings req = .clearing update config) :
      SettingsMove env state (.clearSessions req)
        ((state.setContext { state.context with
            sessionStore := state.context.sessionStore.clear }).setSettings
          req (.writing update config))
  | configWritten (req : Req) (outcome : ConfigWrite)
      (update : SettingsUpdate) (config : Config)
      (writing : state.settings req = .writing update config) :
      SettingsMove env state (.writeConfig req outcome)
        ({ state with
          configFile := outcome.leaves state.configFile
            (update.applyFlags config) }.setSettings req .done)

omit [DecidableEq IpAddr] in
theorem settingsMove_of_settingsStep
    (taken : settingsStep env before label = some after) :
    SettingsMove env before label after := by
  cases label with
  | startSettings req cookie =>
      simp only [settingsStep] at taken
      split at taken
      · rename_i arriving
        have starts : SettingsMove env before (.startSettings req cookie) _ :=
          .started req cookie arriving
        split at taken <;> cases taken <;> simpa only [*] using starts
      · cases taken
  | lookUpSession req =>
      simp only [settingsStep] at taken
      split at taken
      · cases taken
        exact .lookedUp req _ ‹_›
      · cases taken
  | readUpdate req body =>
      simp only [settingsStep] at taken
      split at taken
      · split at taken <;> cases taken
        · exact .updateRead req (some _) ‹_›
        · exact .updateRead req none ‹_›
      · cases taken
  | readConfig req =>
      simp only [settingsStep] at taken
      split at taken
      · cases taken
        exact .configRead req _ ‹_›
      · cases taken
  | replaceHash req salt =>
      simp only [settingsStep] at taken
      split at taken
      · cases taken
        exact .hashReplaced req salt _ _ ‹_›
      · cases taken
  | clearSessions req =>
      simp only [settingsStep] at taken
      split at taken
      · cases taken
        exact .sessionsCleared req _ _ ‹_›
      · cases taken
  | writeConfig req outcome =>
      simp only [settingsStep] at taken
      split at taken
      · cases taken
        exact .configWritten req outcome _ _ ‹_›
      · cases taken
  | _ => cases taken

/-- A step lets time pass or belongs to a login or a settings update. -/
theorem serveStep_cases (taken : serveStep env before label = some after) :
    (∃ nanos, label = .elapse nanos ∧
        after = { before with now := before.now + nanos }) ∨
      AuthMove env before label after ∨ SettingsMove env before label after := by
  cases label with
  | elapse nanos =>
      cases taken
      exact .inl ⟨nanos, rfl, rfl⟩
  | _ =>
      right
      first
        | exact .inl (authMove_of_authStep taken)
        | exact .inr (settingsMove_of_settingsStep taken)

end Steps

end Rylus
