import Rylus.ServeRequests

/-!
# Rotation against logins in flight

`POST /auth` verifies a code against the hash it cloned on arrival and only
later creates the session, while a rotation replaces the hash and then clears
the store.  A login whose clone is replaced and whose session is created
after the clearing survives the rotation.  This file shows that nothing else
leaves a stale login behind.
-/

namespace Rylus

variable {Req IpAddr Token Salt Hash : Type*}

/-- A request is between replacing the hash and clearing the sessions. -/
def SettingsStage.IsClearing : SettingsStage Token → Prop
  | .clearing _ _ => True
  | _ => False

instance : (stage : SettingsStage Token) → Decidable stage.IsClearing
  | .clearing _ _ => isTrue trivial
  | .arriving | .authenticating _ | .awaitingBody | .parsed _
  | .replacing _ _ | .writing _ _ | .done | .failed => isFalse id

namespace ServeState

/-- Some rotation is between its two steps. -/
def Rotating (state : ServeState Req IpAddr Token Hash) : Prop :=
  ∃ req, (state.settings req).IsClearing

section Logins

variable [DecidableEq Token]

def IsValid (state : ServeState Req IpAddr Token Hash)
    (token : Token) : Prop :=
  (state.context.sessionStore.isValid token state.now).1 = true

instance (state : ServeState Req IpAddr Token Hash) (token : Token) :
    Decidable (state.IsValid token) :=
  inferInstanceAs (Decidable (_ = true))

/-- Outside rotations, every valid token was issued by a verification against
the live access-code hash. -/
def NoStaleLogin (state : ServeState Req IpAddr Token Hash) : Prop :=
  ¬ state.Rotating → ∀ token, state.IsValid token →
    ∃ hash, state.issuedAgainst token = some hash ∧
      state.context.accessCodeHash = some hash

/-- A session is created only while the hash its login cloned is still the
live one, or while some rotation has yet to clear the sessions. -/
def LoginIsCurrent (state : ServeState Req IpAddr Token Hash) :
    ServeStep Req Token Salt → Prop
  | .createSession req _ => ∀ hash, state.auth req = .verified hash →
      state.context.accessCodeHash = some hash ∨ state.Rotating
  | _ => True

/-- A step that touches no live hash, issues nothing and starts or ends no
rotation. -/
structure KeepsLogins
    (before after : ServeState Req IpAddr Token Hash) : Prop where
  hash : after.context.accessCodeHash = before.context.accessCodeHash
  issued : after.issuedAgainst = before.issuedAgainst
  valid : ∀ token, after.IsValid token → before.IsValid token
  rotating : after.Rotating ↔ before.Rotating

theorem KeepsLogins.noStaleLogin
    {before after : ServeState Req IpAddr Token Hash}
    (keeps : KeepsLogins before after) (holds : before.NoStaleLogin) :
    after.NoStaleLogin := by
  intro quiet token valid
  rw [keeps.hash, keeps.issued]
  exact holds (fun rotating => quiet (keeps.rotating.mpr rotating)) token
    (keeps.valid token valid)

end Logins

theorem rotating_setSettings [DecidableEq Req]
    (state : ServeState Req IpAddr Token Hash)
    {req : Req} {stage : SettingsStage Token}
    (old : ¬ (state.settings req).IsClearing) (new : ¬ stage.IsClearing) :
    (state.setSettings req stage).Rotating ↔ state.Rotating := by
  constructor
  · rintro ⟨other, clearing⟩
    by_cases same : other = req
    · subst same
      simp [setSettings, new] at clearing
    · exact ⟨other, by simpa [setSettings, same] using clearing⟩
  · rintro ⟨other, clearing⟩
    by_cases same : other = req
    · subst same
      exact absurd clearing old
    · exact ⟨other, by simpa [setSettings, same] using clearing⟩

end ServeState

namespace SettingsUpdate

theorem not_isClearing_load (update : SettingsUpdate) (config : Config) :
    ¬ (update.load config : SettingsStage Token).IsClearing := by
  unfold load
  split
  · exact id
  · cases update.accessCode with
    | none => exact id
    | some code =>
        dsimp only
        split <;> exact id

end SettingsUpdate

open ServeState

variable [DecidableEq Req] [DecidableEq IpAddr] [DecidableEq Token]
variable {env : ServeEnv Req IpAddr Salt Hash}
variable {before after : ServeState Req IpAddr Token Hash}

theorem createSession_spec {req : Req} {token : Token}
    (taken : serveStep env before (.createSession req token) = some after) :
    ∃ hash, before.auth req = .verified hash ∧
      after.now = before.now ∧
      after.context.accessCodeHash = before.context.accessCodeHash ∧
      after.context.sessionStore =
        before.context.sessionStore.createSession token before.now ∧
      after.issuedAgainst =
        Function.update before.issuedAgainst token (some hash) ∧
      (after.Rotating ↔ before.Rotating) := by
  have moved : AuthMove env before (.createSession req token) after :=
    authMove_of_authStep taken
  cases moved with
  | created _ _ hash verified =>
      exact ⟨hash, verified, rfl, rfl, rfl, rfl, Iff.rfl⟩

theorem replaceHash_spec {req : Req} {salt : Salt}
    (taken : serveStep env before (.replaceHash req salt) = some after) :
    after.Rotating := by
  have moved : SettingsMove env before (.replaceHash req salt) after :=
    settingsMove_of_settingsStep taken
  cases moved with
  | hashReplaced =>
      exact ⟨req, by simp [setSettings, SettingsStage.IsClearing]⟩

theorem clearSessions_spec {req : Req}
    (taken : serveStep env before (.clearSessions req) = some after) :
    ∀ token, ¬ after.IsValid token := by
  have moved : SettingsMove env before (.clearSessions req) after :=
    settingsMove_of_settingsStep taken
  cases moved with
  | sessionsCleared =>
      intro token valid
      simp [IsValid, setSettings, setContext] at valid

omit [DecidableEq IpAddr] in
/-- A settings update that neither replaces the hash nor clears the sessions
starts and ends no rotation. -/
theorem keepsLogins_of_settingsMove {label : ServeStep Req Token Salt}
    (moved : SettingsMove env before label after)
    (notReplace : ∀ req salt, label ≠ .replaceHash req salt)
    (notClear : ∀ req, label ≠ .clearSessions req) :
    KeepsLogins before after := by
  cases moved with
  | started req cookie arriving =>
      refine ⟨rfl, rfl, fun _ valid => valid, ?_⟩
      apply rotating_setSettings
      · simp [arriving, SettingsStage.IsClearing]
      · split <;> exact id
  | lookedUp req token authenticating =>
      refine ⟨rfl, rfl,
        fun _ valid => SessionStore.isValid_of_isValid valid, ?_⟩
      apply rotating_setSettings (before.setContext _)
      · simp [setContext, authenticating, SettingsStage.IsClearing]
      · split <;> exact id
  | updateRead req body awaiting =>
      refine ⟨rfl, rfl, fun _ valid => valid, ?_⟩
      apply rotating_setSettings
      · simp [awaiting, SettingsStage.IsClearing]
      · cases body <;> exact id
  | configRead req update parsed =>
      refine ⟨rfl, rfl, fun _ valid => valid, ?_⟩
      apply rotating_setSettings
      · simp [parsed, SettingsStage.IsClearing]
      · exact update.not_isClearing_load _
  | hashReplaced req salt => exact absurd rfl (notReplace req salt)
  | sessionsCleared req => exact absurd rfl (notClear req)
  | configWritten req outcome update config writing =>
      refine ⟨rfl, rfl, fun _ valid => valid, ?_⟩
      apply rotating_setSettings { before with configFile := _ }
      · simp [writing, SettingsStage.IsClearing]
      · exact id

/-- Every other step keeps the logins as they are. -/
theorem keepsLogins_of_serveStep {label : ServeStep Req Token Salt}
    (taken : serveStep env before label = some after)
    (notCreate : ∀ req token, label ≠ .createSession req token)
    (notReplace : ∀ req salt, label ≠ .replaceHash req salt)
    (notClear : ∀ req, label ≠ .clearSessions req) :
    KeepsLogins before after := by
  rcases serveStep_cases taken with ⟨nanos, rfl, rfl⟩ | moved | moved
  · exact ⟨rfl, rfl, fun token valid =>
      SessionStore.isValid_of_le (Nat.le_add_right _ _) valid, Iff.rfl⟩
  · cases moved with
    | created req token => exact absurd rfl (notCreate req token)
    | _ => exact ⟨rfl, rfl, fun _ valid => valid, Iff.rfl⟩
  · exact keepsLogins_of_settingsMove moved notReplace notClear

/-- Creating a session keeps the logins fresh exactly if the login is
current. -/
theorem createSession_noStaleLogin_iff {req : Req} {token : Token}
    (holds : before.NoStaleLogin)
    (taken : serveStep env before (.createSession req token) = some after) :
    after.NoStaleLogin ↔
      before.LoginIsCurrent (.createSession req token : ServeStep Req Token Salt) := by
  obtain ⟨hash, stage, now, code, store, issued, rotating⟩ :=
    createSession_spec taken
  constructor
  · intro fresh hash' stage'
    cases stage.symm.trans stage'
    by_cases rotation : before.Rotating
    · exact Or.inr rotation
    · have valid : after.IsValid token := by
        rw [IsValid, store, now]
        exact SessionStore.isValid_createSession_self _ token _
      obtain ⟨live, isLive, hashIsLive⟩ :=
        fresh (fun rotates => rotation (rotating.mp rotates)) token valid
      rw [issued, Function.update_self] at isLive
      cases isLive
      exact Or.inl (code ▸ hashIsLive)
  · intro current quiet other valid
    rcases current hash stage with live | rotates
    · by_cases same : other = token
      · subst same
        exact ⟨hash, by rw [issued, Function.update_self], by rw [code, live]⟩
      · rw [IsValid, store, now,
          SessionStore.isValid_createSession_of_ne same] at valid
        rw [issued, Function.update_of_ne same, code]
        exact holds (fun rotates => quiet (rotating.mpr rotates)) other valid
    · exact absurd (rotating.mpr rotates) quiet

/-- No stale login survives along an execution exactly if every session is
created while its login is current. -/
theorem noStaleLogin_along_iff (accessCodeHash : Option Hash)
    (secureCookies : Bool) (configFile : Option Config) (now : Nat)
    (execution : Transition.Execution (serveStep env)
      (start accessCodeHash secureCookies configFile now :
        ServeState Req IpAddr Token Hash)) :
    execution.Along NoStaleLogin ↔ execution.StepsMeet LoginIsCurrent := by
  apply execution.along_iff_stepsMeet
  · intro _ token valid
    simp [IsValid, start, SessionStore.new, SessionStore.isValid] at valid
  · intro before label after _ holds taken
    cases label with
    | createSession req token =>
        exact createSession_noStaleLogin_iff holds taken
    | replaceHash req salt =>
        have rotating := replaceHash_spec taken
        simp [LoginIsCurrent, NoStaleLogin, rotating]
    | clearSessions req =>
        have cleared := clearSessions_spec taken
        simp [LoginIsCurrent, NoStaleLogin, cleared]
    | _ =>
        have keeps := keepsLogins_of_serveStep taken
          (by simp) (by simp) (by simp)
        simp [LoginIsCurrent, keeps.noStaleLogin holds]

/-! ### A login that survives the rotation -/

/-- A salted hash that keeps the code, and requests from one address. -/
def plainEnv {Req : Type*} : ServeEnv Req Unit Nat (Nat × String) where
  hashAccessCode salt code := (salt, code)
  verifyAccessCode code hash := hash.2 == code
  address _ := ()
  waylandSession := false

/-- Request 0 logs in with `old`.  Request 1 clones the hash of `old` and
waits for its body while request 2, under the session of request 0, rotates
the code to `new`; then request 1 goes on. -/
def loginAcrossRotation : List (ServeStep (Fin 3) Nat Nat) :=
  [.cloneHash 0, .checkLockout 0, .readCode 0 (some (some "old")),
    .verifyCode 0, .createSession 0 100,
    .cloneHash 1, .checkLockout 1,
    .startSettings 2 (some 100), .lookUpSession 2,
    .readUpdate 2 (some
      { bindAddress := none, webPort := none,
        accessCode := some (some "new"), tryVaapi := none,
        tryNvenc := none, waylandSupport := none }),
    .readConfig 2, .replaceHash 2 7, .clearSessions 2, .writeConfig 2 .written,
    .readCode 1 (some (some "old")), .verifyCode 1, .createSession 1 101]

theorem loginAcrossRotation_leaves_staleLogin :
    ∃ state, Transition.run (serveStep plainEnv)
        (start (some (3, "old")) true none 0) loginAcrossRotation =
          some state ∧ ¬ state.NoStaleLogin := by
  have observed : (Transition.run (serveStep plainEnv)
      (start (some (3, "old")) true none 0) loginAcrossRotation).any
        (fun state => decide ((∀ req, ¬ (state.settings req).IsClearing) ∧
          state.IsValid 101 ∧ state.issuedAgainst 101 = some (3, "old") ∧
          state.context.accessCodeHash = some (7, "new"))) = true := by
    decide
  obtain ⟨state, reached, facts⟩ := (Option.any_eq_true _ _).mp observed
  obtain ⟨quiet, valid, issued, live⟩ := of_decide_eq_true facts
  refine ⟨state, reached, fun fresh => ?_⟩
  obtain ⟨hash, issuedHash, liveHash⟩ :=
    fresh (fun ⟨req, clearing⟩ => quiet req clearing) 101 valid
  rw [issued] at issuedHash
  rw [live, ← issuedHash] at liveHash
  exact absurd liveHash (by decide)

end Rylus
