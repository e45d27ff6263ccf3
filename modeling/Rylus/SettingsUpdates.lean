import Mathlib.Data.List.Permutation
import Rylus.ServeStaleLogin

/-!
# Settings updates that overlap

`handle_post_config` reads the config file, changes what the request asks
for and writes the file back, without a lock around the three.  The history
kept here beside the server says what each request asked for, which
configuration it read, who had written the file by then, and what was written
in which order; it influences no step.
-/

namespace Rylus

namespace SettingsUpdate

/-- The fields `handle_post_config` changes up to the access code. -/
def edit (update : SettingsUpdate) (config : Config) : Config :=
  { config with
    bindAddress := (update.bindAddress.bind id).getD config.bindAddress
    webPort := update.webPort.getD config.webPort
    accessCode := update.accessCode.getD config.accessCode }

/-- The configuration a request writes, from the one it has read. -/
def apply (update : SettingsUpdate) (config : Config) : Config :=
  update.applyFlags (update.edit config)

/-- The configuration has what the update sets, among the fields that a
config file stores. -/
structure StoredIn (update : SettingsUpdate) (config : Config) : Prop where
  bindAddress : ∀ address, update.bindAddress = some (some address) →
    config.bindAddress = address
  webPort : ∀ port, update.webPort = some port → config.webPort = port
  accessCode : ∀ code, update.accessCode = some code →
    config.accessCode = code
  tryVaapi : ∀ flag, update.tryVaapi = some flag → config.tryVaapi = flag
  tryNvenc : ∀ flag, update.tryNvenc = some flag → config.tryNvenc = flag

/-- The configuration has all that the update sets. -/
def PersistedIn (update : SettingsUpdate) (config : Config) : Prop :=
  update.StoredIn config ∧
    ∀ flag, update.waylandSupport = some flag → config.waylandSupport = flag

/-- No field is set by both updates. -/
structure Disjoint (first second : SettingsUpdate) : Prop where
  bindAddress : first.bindAddress = none ∨ second.bindAddress = none
  webPort : first.webPort = none ∨ second.webPort = none
  accessCode : first.accessCode = none ∨ second.accessCode = none
  tryVaapi : first.tryVaapi = none ∨ second.tryVaapi = none
  tryNvenc : first.tryNvenc = none ∨ second.tryNvenc = none
  waylandSupport : first.waylandSupport = none ∨ second.waylandSupport = none

theorem Disjoint.symm {first second : SettingsUpdate}
    (disjoint : first.Disjoint second) : second.Disjoint first where
  bindAddress := disjoint.bindAddress.symm
  webPort := disjoint.webPort.symm
  accessCode := disjoint.accessCode.symm
  tryVaapi := disjoint.tryVaapi.symm
  tryNvenc := disjoint.tryNvenc.symm
  waylandSupport := disjoint.waylandSupport.symm

theorem storedIn_apply (update : SettingsUpdate) (config : Config) :
    update.StoredIn (update.apply config) := by
  constructor <;> intro value set <;> simp [apply, edit, applyFlags, set]

/-- An update leaves alone what it does not set. -/
theorem storedIn_apply_iff {first second : SettingsUpdate}
    (disjoint : first.Disjoint second) (config : Config) :
    first.StoredIn (second.apply config) ↔ first.StoredIn config := by
  have keeps {Value : Type} {one two : Option Value} (value : Value)
      (apart : one = none ∨ two = none) :
      ∀ wanted, one = some wanted → two.getD value = value := by
    rintro wanted rfl
    rcases apart with isNone | isNone
    · cases isNone
    · rw [isNone, Option.getD_none]
  have address : ∀ wanted, first.bindAddress = some (some wanted) →
      (second.bindAddress.bind id).getD config.bindAddress =
        config.bindAddress := by
    intro wanted set
    rcases disjoint.bindAddress with isNone | isNone
    · simp [isNone] at set
    · simp [isNone]
  constructor
  · intro stored
    constructor <;> intro wanted set
    · exact (address wanted set).symm.trans (stored.bindAddress wanted set)
    · exact (keeps _ disjoint.webPort wanted set).symm.trans
        (stored.webPort wanted set)
    · exact (keeps _ disjoint.accessCode wanted set).symm.trans
        (stored.accessCode wanted set)
    · exact (keeps _ disjoint.tryVaapi wanted set).symm.trans
        (stored.tryVaapi wanted set)
    · exact (keeps _ disjoint.tryNvenc wanted set).symm.trans
        (stored.tryNvenc wanted set)
  · intro stored
    constructor <;> intro wanted set
    · exact (address wanted set).trans (stored.bindAddress wanted set)
    · exact (keeps _ disjoint.webPort wanted set).trans
        (stored.webPort wanted set)
    · exact (keeps _ disjoint.accessCode wanted set).trans
        (stored.accessCode wanted set)
    · exact (keeps _ disjoint.tryVaapi wanted set).trans
        (stored.tryVaapi wanted set)
    · exact (keeps _ disjoint.tryNvenc wanted set).trans
        (stored.tryNvenc wanted set)

/-- Reading a file back changes no stored field. -/
theorem storedIn_readConfig (update : SettingsUpdate) (waylandSession : Bool)
    (config : Config) :
    update.StoredIn (readConfig waylandSession (some config)) ↔
      update.StoredIn config :=
  ⟨fun stored => { stored with }, fun stored => { stored with }⟩

end SettingsUpdate

/-- The update a request works on and the configuration it has so far. -/
def SettingsStage.held {Token : Type*} :
    SettingsStage Token → Option (SettingsUpdate × Config)
  | .replacing update config | .clearing update config
  | .writing update config => some (update, config)
  | _ => none

theorem SettingsUpdate.held_load {Token : Type*} {update asked : SettingsUpdate}
    {config base : Config}
    (holds : (update.load base : SettingsStage Token).held =
      some (asked, config)) :
    asked = update ∧ config = update.edit base := by
  unfold load at holds
  split at holds
  · cases holds
  · cases isCode : update.accessCode with
    | none =>
        simp only [isCode, SettingsStage.held, Option.some.injEq,
          Prod.mk.injEq] at holds
        obtain ⟨rfl, rfl⟩ := holds
        exact ⟨rfl, by simp [edit, isCode]⟩
    | some code =>
        have same : some (update, update.edit base) = some (asked, config) := by
          simp only [isCode] at holds
          split at holds <;> simpa [SettingsStage.held, edit, isCode] using holds
        cases same
        exact ⟨rfl, rfl⟩

/-- A request that sets the access code rotates it if the file has another
one. -/
theorem SettingsUpdate.load_of_accessCode {Token : Type*}
    {update : SettingsUpdate} {code : Option String}
    (sets : update.accessCode = some code)
    (parses : update.bindAddress ≠ some none) (base : Config) :
    (update.load base : SettingsStage Token) =
      if base.accessCode = code then .writing update (update.edit base)
      else .replacing update (update.edit base) := by
  unfold load
  split
  · exact absurd ‹_› parses
  · simp only [sets, edit, Option.getD_some]
    by_cases same : base.accessCode = code <;> simp [same]

theorem SettingsUpdate.load_waits {Token : Type*} (update : SettingsUpdate)
    (base : Config) :
    (update.load base : SettingsStage Token) ≠ .done ∧
      ∀ asked, (update.load base : SettingsStage Token) ≠ .parsed asked := by
  unfold load
  split
  · exact ⟨by simp, by simp⟩
  · cases update.accessCode with
    | none => exact ⟨by simp, by simp⟩
    | some code =>
        dsimp only
        split <;> exact ⟨by simp, by simp⟩

variable {Req IpAddr Token Salt Hash : Type*}

/-- A call of `write_config`. -/
structure ConfigWriting (Req : Type*) where
  req : Req
  config : Config
  outcome : ConfigWrite

/-- The config file after some calls of `write_config`. -/
def fileAfter (configFile : Option Config) (writes : List (ConfigWriting Req)) :
    Option Config :=
  writes.foldl (fun file write => write.outcome.leaves file write.config)
    configFile

@[simp]
theorem fileAfter_nil (configFile : Option Config) :
    fileAfter configFile ([] : List (ConfigWriting Req)) = configFile :=
  rfl

@[simp]
theorem fileAfter_append_singleton (configFile : Option Config)
    (writes : List (ConfigWriting Req)) (write : ConfigWriting Req) :
    fileAfter configFile (writes ++ [write]) =
      write.outcome.leaves (fileAfter configFile writes) write.config := by
  simp [fileAfter]

/-- The server, what each request asked for, the configuration it read and
who had written the file by then, and the writes so far. -/
structure UpdateHistory (Req IpAddr Token Hash : Type*) where
  serve : ServeState Req IpAddr Token Hash
  updates : Req → Option SettingsUpdate
  base : Req → Option Config
  seen : Req → List Req
  writes : List (ConfigWriting Req)

namespace UpdateHistory

open ServeState

/-- The server as `run` starts it. -/
def start (accessCodeHash : Option Hash) (secureCookies : Bool)
    (configFile : Option Config) (now : Nat) :
    UpdateHistory Req IpAddr Token Hash where
  serve := ServeState.start accessCodeHash secureCookies configFile now
  updates := fun _ => none
  base := fun _ => none
  seen := fun _ => []
  writes := []

/-- What is remembered of a step. -/
def note [DecidableEq Req] (history : UpdateHistory Req IpAddr Token Hash)
    (env : ServeEnv Req IpAddr Salt Hash) :
    ServeStep Req Token Salt → UpdateHistory Req IpAddr Token Hash
  | .readUpdate req body =>
      { history with updates := Function.update history.updates req body }
  | .readConfig req =>
      { history with
        base := Function.update history.base req
          (some (readConfig env.waylandSession history.serve.configFile))
        seen := Function.update history.seen req
          (history.writes.map ConfigWriting.req) }
  | .writeConfig req outcome =>
      match history.serve.settings req with
      | .writing update config =>
          { history with
            writes := history.writes ++
              [⟨req, update.applyFlags config, outcome⟩] }
      | _ => history
  | _ => history

/-- A step of the server, with its history. -/
def step [DecidableEq Req] [DecidableEq IpAddr] [DecidableEq Token]
    (env : ServeEnv Req IpAddr Salt Hash)
    (history : UpdateHistory Req IpAddr Token Hash)
    (label : ServeStep Req Token Salt) :
    Option (UpdateHistory Req IpAddr Token Hash) :=
  (serveStep env history.serve label).map fun next =>
    { history.note env label with serve := next }

/-- What the stages, the file and the history have to do with each other. -/
structure Consistent (env : ServeEnv Req IpAddr Salt Hash)
    (configFile : Option Config)
    (history : UpdateHistory Req IpAddr Token Hash) : Prop where
  file : history.serve.configFile = fileAfter configFile history.writes
  parsed : ∀ req update, history.serve.settings req = .parsed update →
    history.updates req = some update
  held : ∀ req update config,
    (history.serve.settings req).held = some (update, config) →
      history.updates req = some update ∧
        ∃ base, history.base req = some base ∧ config = update.edit base
  read : ∀ req base, history.base req = some base →
    ∃ earlier later, history.writes = earlier ++ later ∧
      history.seen req = earlier.map ConfigWriting.req ∧ req ∉ history.seen req ∧
        base = readConfig env.waylandSession (fileAfter configFile earlier)
  wrote : ∀ write ∈ history.writes,
    history.serve.settings write.req = .done ∧
      ∃ update base, history.updates write.req = some update ∧
        history.base write.req = some base ∧ write.config = update.apply base
  done : ∀ req, history.serve.settings req = .done →
    ∃ write ∈ history.writes, write.req = req
  nodup : (history.writes.map ConfigWriting.req).Nodup

variable {env : ServeEnv Req IpAddr Salt Hash} {configFile : Option Config}
  {history : UpdateHistory Req IpAddr Token Hash}

theorem consistent_start (accessCodeHash : Option Hash) (secureCookies : Bool)
    (now : Nat) :
    Consistent env configFile
      (start accessCodeHash secureCookies configFile now :
        UpdateHistory Req IpAddr Token Hash) := by
  constructor <;> simp [start, ServeState.start, SettingsStage.held]

/-- Two requests, and no others, have answered `{"ok":true}`, and the writes
have succeeded. -/
structure BothSaved (history : UpdateHistory Req IpAddr Token Hash)
    (one other : Req) : Prop where
  distinct : one ≠ other
  answered : ∀ req, history.serve.settings req = .done ↔
    req = one ∨ req = other
  succeeded : ∀ write ∈ history.writes, write.outcome = .written

/-- The second to write had read the file after the first had written it, or
had found in it already what the first one sets. -/
def KeepsEarlier (env : ServeEnv Req IpAddr Salt Hash)
    (configFile : Option Config)
    (history : UpdateHistory Req IpAddr Token Hash) : Prop :=
  ∀ earlier later,
    history.writes.map ConfigWriting.req = [earlier, later] →
      earlier ∈ history.seen later ∨
        ∀ update, history.updates earlier = some update →
          update.StoredIn (readConfig env.waylandSession configFile)

/-- What the file holds after two writes. -/
theorem Consistent.stored_iff (consistent : history.Consistent env configFile)
    {earlier later : Req} {first second : SettingsUpdate}
    (order : history.writes.map ConfigWriting.req = [earlier, later])
    (succeeded : ∀ write ∈ history.writes, write.outcome = .written)
    (isFirst : history.updates earlier = some first)
    (isSecond : history.updates later = some second)
    (disjoint : first.Disjoint second) :
    ∃ config, history.serve.configFile = some config ∧
      second.StoredIn config ∧
      (first.StoredIn config ↔ earlier ∈ history.seen later ∨
        first.StoredIn (readConfig env.waylandSession configFile)) := by
  obtain ⟨one, rest, isWrites, rfl, isRest⟩ := List.map_eq_cons_iff.mp order
  obtain ⟨two, rfl, rfl⟩ := List.map_eq_singleton_iff.mp isRest
  have member : one ∈ history.writes ∧ two ∈ history.writes := by
    simp [isWrites]
  obtain ⟨-, update, base, asked, -, isOne⟩ := consistent.wrote one member.1
  obtain rfl := Option.some.inj (asked.symm.trans isFirst)
  obtain ⟨-, update', base', asked', isBase, isTwo⟩ :=
    consistent.wrote two member.2
  obtain rfl := Option.some.inj (asked'.symm.trans isSecond)
  have isFile := consistent.file
  simp only [isWrites, fileAfter, List.foldl_cons, List.foldl_nil,
    succeeded two member.2, ConfigWrite.leaves] at isFile
  refine ⟨two.config, isFile, ?_, ?_⟩
  · rw [isTwo]
    exact update'.storedIn_apply base'
  · rw [isTwo, SettingsUpdate.storedIn_apply_iff disjoint]
    obtain ⟨before, after, split, isSeen, unseen, rfl⟩ :=
      consistent.read two.req base' isBase
    rw [isWrites] at split
    -- the file was read before both writes, between them, or after both
    rcases before with _ | ⟨write, _ | ⟨write', before⟩⟩
    · simp [isSeen]
    · obtain ⟨rfl, -⟩ := List.cons.inj split
      have stored : update.StoredIn (readConfig env.waylandSession
          (fileAfter configFile [one])) := by
        simp only [fileAfter, List.foldl_cons, List.foldl_nil,
          succeeded one member.1, ConfigWrite.leaves, isOne]
        rw [SettingsUpdate.storedIn_readConfig]
        exact update.storedIn_apply base
      simp [isSeen, stored]
    · obtain ⟨-, split'⟩ := List.cons.inj split
      obtain ⟨rfl, -⟩ := List.cons.inj split'
      exact absurd (by simp [isSeen]) unseen

variable [DecidableEq Req]

/-- A request moves on without ending: what is noted about other requests
stays, and what the invariant says of its new stage is given. -/
theorem Consistent.advance (consistent : history.Consistent env configFile)
    {next : UpdateHistory Req IpAddr Token Hash} (req : Req)
    (stage : SettingsStage Token)
    (file : next.serve.configFile = history.serve.configFile)
    (settings : next.serve.settings =
      Function.update history.serve.settings req stage)
    (writes : next.writes = history.writes)
    (others : ∀ other, other ≠ req →
      next.updates other = history.updates other ∧
        next.base other = history.base other ∧
        next.seen other = history.seen other)
    (notDone : history.serve.settings req ≠ .done) (stays : stage ≠ .done)
    (parsed : ∀ update, stage = .parsed update →
      next.updates req = some update)
    (held : ∀ update config, stage.held = some (update, config) →
      next.updates req = some update ∧
        ∃ base, next.base req = some base ∧ config = update.edit base)
    (read : ∀ base, next.base req = some base →
      ∃ earlier later, history.writes = earlier ++ later ∧
        next.seen req = earlier.map ConfigWriting.req ∧
          req ∉ next.seen req ∧
          base = readConfig env.waylandSession
            (fileAfter configFile earlier)) :
    next.Consistent env configFile := by
  have acting : next.serve.settings req = stage := by
    rw [settings, Function.update_self]
  have idle {other : Req} (different : other ≠ req) :
      next.serve.settings other = history.serve.settings other := by
    rw [settings, Function.update_of_ne different]
  constructor
  · rw [file, writes]
    exact consistent.file
  · intro other update isParsed
    by_cases same : other = req
    · subst same
      exact parsed update (acting.symm.trans isParsed)
    · rw [(others other same).1]
      exact consistent.parsed other update ((idle same).symm.trans isParsed)
  · intro other update config isHeld
    by_cases same : other = req
    · subst same
      exact held update config (acting ▸ isHeld)
    · obtain ⟨sameUpdate, sameBase, -⟩ := others other same
      rw [idle same] at isHeld
      rw [sameUpdate, sameBase]
      exact consistent.held other update config isHeld
  · intro other base isBase
    rw [writes]
    by_cases same : other = req
    · subst same
      exact read base isBase
    · obtain ⟨-, sameBase, sameSeen⟩ := others other same
      rw [sameBase] at isBase
      rw [sameSeen]
      exact consistent.read other base isBase
  · intro write member
    rw [writes] at member
    obtain ⟨isDone, rest⟩ := consistent.wrote write member
    have different : write.req ≠ req := by
      intro same
      exact notDone (same ▸ isDone)
    obtain ⟨sameUpdate, sameBase, -⟩ := others write.req different
    rw [idle different, sameUpdate, sameBase]
    exact ⟨isDone, rest⟩
  · intro other isDone
    rw [writes]
    by_cases same : other = req
    · rw [same, acting] at isDone
      exact absurd isDone stays
    · exact consistent.done other ((idle same).symm.trans isDone)
  · rw [writes]
    exact consistent.nodup

/-- Steps that read no body, read or write no file and only move a request
between stages. -/
theorem Consistent.restage (consistent : history.Consistent env configFile)
    {serve : ServeState Req IpAddr Token Hash} (req : Req)
    (stage : SettingsStage Token)
    (file : serve.configFile = history.serve.configFile)
    (settings : serve.settings =
      Function.update history.serve.settings req stage)
    (notDone : history.serve.settings req ≠ .done) (stays : stage ≠ .done)
    (unparsed : ∀ update, stage ≠ .parsed update)
    (holds : stage.held = none ∨
      stage.held = (history.serve.settings req).held) :
    { history with serve := serve }.Consistent env configFile := by
  refine consistent.advance req stage file settings rfl
    (fun _ _ => ⟨rfl, rfl, rfl⟩) notDone stays ?_ ?_ ?_
  · exact fun update isParsed => absurd isParsed (unparsed update)
  · intro update config isHeld
    rcases holds with isNone | isSame
    · rw [isNone] at isHeld
      cases isHeld
    · exact consistent.held req update config (isSame ▸ isHeld)
  · exact consistent.read req

/-- A request that awaits its body notes what it is asked for. -/
theorem Consistent.updateRead (consistent : history.Consistent env configFile)
    {req : Req} (body : Option SettingsUpdate)
    (awaiting : history.serve.settings req = .awaitingBody) :
    { history with
      updates := Function.update history.updates req body
      serve := history.serve.setSettings req
        (body.elim .failed .parsed) }.Consistent env configFile := by
  refine consistent.advance req (body.elim .failed .parsed) ?_ rfl ?_
    ?_ ?_ ?_ ?_ ?_ ?_
  · rfl
  · rfl
  · intro other different
    simp [different]
  · simp [awaiting]
  · cases body <;> simp
  · cases body <;> simp
  · cases body <;> simp [SettingsStage.held]
  · exact consistent.read req

/-- A request that reads the file notes its contents and who has written
it. -/
theorem Consistent.configRead (consistent : history.Consistent env configFile)
    {req : Req} {update : SettingsUpdate}
    (parsed : history.serve.settings req = .parsed update) :
    { history with
      base := Function.update history.base req
        (some (readConfig env.waylandSession history.serve.configFile))
      seen := Function.update history.seen req
        (history.writes.map ConfigWriting.req)
      serve := history.serve.setSettings req (update.load
        (readConfig env.waylandSession
          history.serve.configFile)) }.Consistent env configFile := by
  refine consistent.advance req (update.load _) ?_ rfl ?_ ?_ ?_ ?_ ?_ ?_ ?_
  · rfl
  · rfl
  · intro other different
    simp [different]
  · simp [parsed]
  · exact (update.load_waits _).1
  · exact fun asked isParsed => absurd isParsed ((update.load_waits _).2 asked)
  · intro asked config isHeld
    obtain ⟨rfl, rfl⟩ := SettingsUpdate.held_load isHeld
    exact ⟨consistent.parsed req _ parsed, _, by simp, rfl⟩
  · intro base isBase
    simp only [Function.update_self, Option.some.injEq] at isBase ⊢
    refine ⟨history.writes, [], by simp, rfl, ?_, ?_⟩
    · rw [List.mem_map]
      rintro ⟨write, member, rfl⟩
      rw [(consistent.wrote write member).1] at parsed
      cases parsed
    · rw [← isBase, consistent.file]

/-- Writing the file ends the request. -/
theorem Consistent.configWritten (consistent : history.Consistent env configFile)
    {req : Req} {update : SettingsUpdate} {config : Config}
    (outcome : ConfigWrite)
    (writing : history.serve.settings req = .writing update config) :
    { history with
      writes := history.writes ++
        [ConfigWriting.mk req (update.applyFlags config) outcome]
      serve := { history.serve with
        configFile := outcome.leaves history.serve.configFile
          (update.applyFlags config) }.setSettings req .done }.Consistent
      env configFile := by
  have unwritten : ∀ write ∈ history.writes, write.req ≠ req := by
    rintro write member rfl
    rw [(consistent.wrote write member).1] at writing
    cases writing
  constructor
  · simp only [setSettings, fileAfter_append_singleton, consistent.file]
  · intro other asked isParsed
    by_cases same : other = req
    · subst same
      simp [setSettings] at isParsed
    · simp only [setSettings, Function.update_of_ne same] at isParsed
      exact consistent.parsed other asked isParsed
  · intro other asked config' isHeld
    by_cases same : other = req
    · subst same
      simp [setSettings, SettingsStage.held] at isHeld
    · simp only [setSettings, Function.update_of_ne same] at isHeld
      exact consistent.held other asked config' isHeld
  · intro other base isBase
    obtain ⟨earlier, later, split, rest⟩ := consistent.read other base isBase
    exact ⟨earlier, later ++ [⟨req, update.applyFlags config, outcome⟩],
      by simp [split], rest⟩
  · intro write member
    rcases List.mem_append.mp member with isOld | isNew
    · simp only [setSettings, Function.update_of_ne (unwritten write isOld)]
      exact consistent.wrote write isOld
    · obtain rfl := List.mem_singleton.mp isNew
      obtain ⟨asked, base, isBase, rfl⟩ := consistent.held req update config
        (by rw [writing]; rfl)
      exact ⟨by simp [setSettings], update, base, asked, isBase, rfl⟩
  · intro other isDone
    by_cases same : other = req
    · exact ⟨_, List.mem_append_right _ (List.mem_singleton_self _), same.symm⟩
    · simp only [setSettings, Function.update_of_ne same] at isDone
      obtain ⟨write, member, isReq⟩ := consistent.done other isDone
      exact ⟨write, List.mem_append_left _ member, isReq⟩
  · rw [List.map_append, List.nodup_append]
    refine ⟨consistent.nodup, by simp, ?_⟩
    intro first isFirst second isSecond
    obtain ⟨write, member, rfl⟩ := List.mem_map.mp isFirst
    rw [List.map_singleton, List.mem_singleton] at isSecond
    exact isSecond ▸ unwritten write member

variable [DecidableEq IpAddr] [DecidableEq Token]

theorem Consistent.step (consistent : history.Consistent env configFile)
    {label : ServeStep Req Token Salt}
    {next : UpdateHistory Req IpAddr Token Hash}
    (taken : history.step env label = some next) :
    next.Consistent env configFile := by
  obtain ⟨serve, moved, rfl⟩ := Option.map_eq_some_iff.mp taken
  rcases serveStep_cases moved with ⟨nanos, rfl, rfl⟩ | login | settings
  · exact { consistent with }
  · cases login <;> exact { consistent with }
  · cases settings with
    | started req cookie arriving =>
        refine consistent.restage req _ ?_ rfl ?_ ?_ ?_ ?_
        · rfl
        · simp [arriving]
        · split <;> simp
        · split <;> simp
        · split <;> exact .inl rfl
    | lookedUp req token authenticating =>
        refine consistent.restage req _ ?_ rfl ?_ ?_ ?_ ?_
        · rfl
        · simp [authenticating]
        · split <;> simp
        · split <;> simp
        · split <;> exact .inl rfl
    | updateRead req body awaiting =>
        exact consistent.updateRead body awaiting
    | configRead req update parsed => exact consistent.configRead parsed
    | hashReplaced req salt update config replacing =>
        refine consistent.restage req _ ?_ rfl ?_ ?_ ?_ ?_
        · rfl
        · simp [replacing]
        · simp
        · simp
        · exact .inr (by rw [replacing]; rfl)
    | sessionsCleared req update config clearing =>
        refine consistent.restage req _ ?_ rfl ?_ ?_ ?_ ?_
        · rfl
        · simp [clearing]
        · simp
        · simp
        · exact .inr (by rw [clearing]; rfl)
    | configWritten req outcome update config writing =>
        simp only [note, writing]
        exact consistent.configWritten outcome writing

theorem consistent_of_execution (accessCodeHash : Option Hash)
    (secureCookies : Bool) (now : Nat)
    (execution : Transition.Execution (UpdateHistory.step env)
      (start accessCodeHash secureCookies configFile now :
        UpdateHistory Req IpAddr Token Hash)) :
    execution.final.Consistent env configFile := by
  have reached : Transition.Reachable (UpdateHistory.step env)
      (start accessCodeHash secureCookies configFile now) execution.final :=
    ⟨execution.labels, execution.runs⟩
  exact reached.invariant (consistent_start accessCodeHash secureCookies now)
    fun before label after consistent taken => consistent.step taken

/-- Two overlapping updates of different fields are both persisted if and
only if the second to write knew of the first one's fields, and neither asks
for a Wayland flag, which is not persisted, that differs from the session. -/
theorem persisted_iff_keepsEarlier (accessCodeHash : Option Hash)
    (secureCookies : Bool) (now : Nat)
    (execution : Transition.Execution (UpdateHistory.step env)
      (start accessCodeHash secureCookies configFile now :
        UpdateHistory Req IpAddr Token Hash))
    {one other : Req} {first second : SettingsUpdate}
    (saved : execution.final.BothSaved one other)
    (isFirst : execution.final.updates one = some first)
    (isSecond : execution.final.updates other = some second)
    (disjoint : first.Disjoint second) :
    (first.PersistedIn (readConfig env.waylandSession
        execution.final.serve.configFile) ∧
      second.PersistedIn (readConfig env.waylandSession
        execution.final.serve.configFile)) ↔
    execution.final.KeepsEarlier env configFile ∧
      ∀ flag, first.waylandSupport = some flag ∨
        second.waylandSupport = some flag → flag = env.waylandSession := by
  have consistent := consistent_of_execution accessCodeHash secureCookies now
    execution
  generalize execution.final = history at *
  have written : (history.writes.map ConfigWriting.req).Perm [one, other] := by
    rw [List.perm_ext_iff_of_nodup consistent.nodup
      (by simp [saved.distinct])]
    intro req
    rw [List.mem_map, List.mem_pair, ← saved.answered]
    constructor
    · rintro ⟨write, member, rfl⟩
      exact (consistent.wrote write member).1
    · exact consistent.done req
  have wayland (file : Config) :
      (readConfig env.waylandSession (some file)).waylandSupport =
        env.waylandSession :=
    rfl
  have flags {holdsFirst holdsSecond kept : Prop}
      (same : holdsFirst ∧ holdsSecond ↔ kept) :
      (holdsFirst ∧ ∀ flag, first.waylandSupport = some flag →
          env.waylandSession = flag) ∧
        (holdsSecond ∧ ∀ flag, second.waylandSupport = some flag →
          env.waylandSession = flag) ↔
      kept ∧ ∀ flag, first.waylandSupport = some flag ∨
        second.waylandSupport = some flag → flag = env.waylandSession := by
    grind
  rcases List.perm_pair.mp written with order | order
  · obtain ⟨config, isFile, holdsSecond, holdsFirst⟩ :=
      consistent.stored_iff order saved.succeeded isFirst isSecond disjoint
    simp only [SettingsUpdate.PersistedIn, isFile, wayland,
      SettingsUpdate.storedIn_readConfig]
    apply flags
    rw [holdsFirst]
    simp [KeepsEarlier, order, isFirst, holdsSecond]
  · obtain ⟨config, isFile, holdsFirst, holdsSecond⟩ :=
      consistent.stored_iff order saved.succeeded isSecond isFirst
        disjoint.symm
    simp only [SettingsUpdate.PersistedIn, isFile, wayland,
      SettingsUpdate.storedIn_readConfig]
    apply flags
    rw [holdsSecond]
    simp [KeepsEarlier, order, isSecond, holdsFirst]

/-! ### An update that is overwritten -/

inductive TwoRequests where
  | first
  | second
  deriving DecidableEq

/-- A body that sets nothing. -/
def unchanged : SettingsUpdate := ⟨none, none, none, none, none, none⟩

/-- The first request sets the port, the second one turns NVENC on. -/
def twoUpdates (filesTouched : List (ServeStep TwoRequests Nat Nat)) :
    List (ServeStep TwoRequests Nat Nat) :=
  [.startSettings .first none, .startSettings .second none,
    .readUpdate .first (some { unchanged with webPort := some 1800 }),
    .readUpdate .second (some { unchanged with tryNvenc := some true })] ++
      filesTouched

/-- The history of a fresh server without an access code. -/
def fresh : UpdateHistory TwoRequests Unit Nat (Nat × String) :=
  start none false none 0

/-- Both requests read the file before either writes it. -/
def overlapping : Transition.Execution (UpdateHistory.step plainEnv) fresh where
  labels := twoUpdates [.readConfig .first, .readConfig .second,
    .writeConfig .first .written, .writeConfig .second .written]
  final := _
  runs := rfl

/-- One request after the other. -/
def oneByOne : Transition.Execution (UpdateHistory.step plainEnv) fresh where
  labels := twoUpdates [.readConfig .first, .writeConfig .first .written,
    .readConfig .second, .writeConfig .second .written]
  final := _
  runs := rfl

theorem bothSaved_of_done
    {history : UpdateHistory TwoRequests Unit Nat (Nat × String)}
    (first : history.serve.settings .first = .done)
    (second : history.serve.settings .second = .done)
    (succeeded : ∀ write ∈ history.writes, write.outcome = .written) :
    history.BothSaved .first .second where
  distinct := by decide
  answered req := by
    cases req <;> simp [first, second]
  succeeded := succeeded

theorem disjoint_port_nvenc :
    { unchanged with webPort := some 1800 }.Disjoint
      { unchanged with tryNvenc := some true } := by
  constructor <;> simp [unchanged]

theorem persisted_iff_keepsEarlier_oneByOne :
    { unchanged with webPort := some 1800 }.PersistedIn
        (readConfig false oneByOne.final.serve.configFile) ∧
      { unchanged with tryNvenc := some true }.PersistedIn
        (readConfig false oneByOne.final.serve.configFile) := by
  have saved : oneByOne.final.BothSaved .first .second := by
    apply bothSaved_of_done rfl rfl
    rintro write (_ | ⟨_, _ | ⟨_, ⟨⟩⟩⟩) <;> rfl
  refine (persisted_iff_keepsEarlier none false 0 oneByOne saved rfl rfl
    disjoint_port_nvenc).mpr ⟨?_, by simp [unchanged]⟩
  rintro earlier later ⟨⟩
  exact .inl (List.mem_singleton_self TwoRequests.first)

theorem not_persisted_overlapping :
    ¬ ∀ (execution :
          Transition.Execution (UpdateHistory.step plainEnv) fresh)
        (one other : TwoRequests) (first second : SettingsUpdate),
      execution.final.BothSaved one other →
        execution.final.updates one = some first →
        execution.final.updates other = some second →
        first.Disjoint second →
        first.PersistedIn
            (readConfig false execution.final.serve.configFile) ∧
          second.PersistedIn
            (readConfig false execution.final.serve.configFile) := by
  intro persisted
  have saved : overlapping.final.BothSaved .first .second := by
    apply bothSaved_of_done rfl rfl
    rintro write (_ | ⟨_, _ | ⟨_, ⟨⟩⟩⟩) <;> rfl
  obtain ⟨⟨stored, -⟩, -⟩ := persisted overlapping .first .second _ _ saved rfl rfl
    disjoint_port_nvenc
  -- the second request wrote back the port it had read
  have port : (1701 : Nat) = 1800 := stored.webPort 1800 rfl
  cases port

end UpdateHistory

end Rylus
