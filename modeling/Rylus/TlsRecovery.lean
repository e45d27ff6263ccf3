import Rylus.TlsSetup

/-!
# What a stopped set-up leaves behind

Every start of the server in the automatic mode is a step, wherever it is
stopped.  The next start goes by whether the two files exist.
-/

namespace Rylus

namespace Tls

variable {Config : Type} {File : Type*} [DecidableEq File]

/-- `exists` answers by what is there, and keys are generated anew. -/
def Io.sees {tls : ServerConfigs Config} (io : Io tls) (certPath keyPath : String)
    (disk : Disk File) : Bool :=
  io.certExists == (disk.read certPath).isSome &&
    io.keyExists == (disk.read keyPath).isSome &&
    match io.generated with
    | .ok pair => disk.read keyPath != some pair.key
    | .error _ => true

/-- Nothing fails and nothing is stopped. -/
structure Io.Clean {tls : ServerConfigs Config} (io : Io tls)
    (certPath keyPath : String) (disk : Disk File) : Prop where
  certExists : io.certExists = (disk.read certPath).isSome
  keyExists : io.keyExists = (disk.read keyPath).isSome
  readCert : io.readCert = none
  readKey : io.readKey = none
  prepared : io.prepared.isSome
  writeCert : io.writeCert = .written
  writeKey : io.writeKey = .written

/-- All of the content has been written. -/
def FileWrite.Complete (content : List UInt8) : FileWrite → Prop
  | .written => True
  | .halted _ (some length) => content.length ≤ length
  | .halted _ none => False

namespace TlsSettings

variable (settings : TlsSettings) (tls : ServerConfigs Config)

def step (disk : Disk File) (io : Io tls) : Option (Disk File) :=
  if io.sees settings.autoCert settings.autoKey disk then
    some (settings.startTls tls io disk).1
  else none

/-- A start in which nothing fails has a configuration, made from a
certificate and a key that match. -/
def Recovers (disk : Disk File) : Prop :=
  ∀ io : Io tls, io.Clean settings.autoCert settings.autoKey disk →
    ∃ config cert key, (settings.startTls tls io disk).2 = some config ∧
      tls.buildServerConfig cert key = some config ∧ tls.Matching cert key

/-- Two files that are there are accepted. -/
def Loadable (disk : Disk File) : Prop :=
  ∀ cert key, disk.read settings.autoCert = some cert →
    disk.read settings.autoKey = some key →
      (tls.buildServerConfig cert key).isSome

/-- A start that opens the certificate for writing is only stopped, or fails,
when the key has been written, or else has not been there and not been
opened. -/
def Uncut (disk : Disk File) (io : Io tls) : Prop :=
  io.opensCert →
    (disk.read settings.autoKey = none ∧ ¬ io.opensKey) ∨
      (io.writeCert = .written ∧
        ∀ pair ∈ io.prepared, io.writeKey.Complete pair.key)

variable {settings tls} {disk next : Disk File} {io : Io tls}

theorem startTls_auto (auto : settings.resolveTlsMode = .auto) :
    settings.startTls tls io disk =
      ((loadOrGenerateCert tls settings.autoCert settings.autoKey io disk).1,
        (loadOrGenerateCert tls settings.autoCert settings.autoKey io
          disk).2.toOption) := by
  simp [startTls, auto]

/-- The next start goes well exactly if the files, should both be there, are
accepted. -/
theorem recovers_iff (auto : settings.resolveTlsMode = .auto)
    (available : Nonempty (SelfSigned tls)) :
    settings.Recovers tls disk ↔ settings.Loadable tls disk := by
  constructor
  · intro recovers cert key certIs keyIs
    obtain ⟨pair⟩ := available
    have clean : (Io.mk true true none none (.ok pair) none none .written
        .written : Io tls).Clean settings.autoCert settings.autoKey disk := by
      constructor <;> simp [certIs, keyIs, Io.prepared]
    obtain ⟨config, -, -, result, -⟩ := recovers _ clean
    rw [startTls_auto auto, load_of_read rfl rfl rfl rfl certIs keyIs,
      ServerConfigs.toOption_build] at result
    exact Option.isSome_of_eq_some result
  · intro loadable io clean
    obtain ⟨cert, key, accepted, result⟩ : ∃ cert key,
        (tls.buildServerConfig cert key).isSome ∧
          (settings.startTls tls io disk).2 =
            tls.buildServerConfig cert key := by
      rw [startTls_auto auto]
      by_cases exist : io.certExists ∧ io.keyExists
      · have certThere := clean.certExists.symm.trans exist.1
        have keyThere := clean.keyExists.symm.trans exist.2
        obtain ⟨cert, certIs⟩ := Option.isSome_iff_exists.mp certThere
        obtain ⟨key, keyIs⟩ := Option.isSome_iff_exists.mp keyThere
        refine ⟨cert, key, loadable cert key certIs keyIs, ?_⟩
        rw [load_of_read exist.1 exist.2 clean.readCert clean.readKey certIs
          keyIs, ServerConfigs.toOption_build]
      · obtain ⟨pair, prepared⟩ := Option.isSome_iff_exists.mp clean.prepared
        refine ⟨pair.cert, pair.key, pair.builds, ?_⟩
        rw [generate_prepared exist prepared, clean.writeCert, clean.writeKey,
          ServerConfigs.toOption_build]
    obtain ⟨config, isConfig⟩ := Option.isSome_iff_exists.mp accepted
    exact ⟨config, cert, key, result.trans isConfig, isConfig,
      tls.matching_of_build cert key accepted⟩

omit [DecidableEq File] in
theorem loadable_iff_of_cert {cert : List UInt8}
    (certIs : disk.read settings.autoCert = some cert) :
    settings.Loadable tls disk ↔ ∀ key, disk.read settings.autoKey = some key →
      (tls.buildServerConfig cert key).isSome := by
  constructor
  · exact fun accepted key keyIs => accepted cert key certIs keyIs
  · intro accepted other key otherIs keyIs
    rw [certIs] at otherIs
    cases otherIs
    exact accepted key keyIs

omit [DecidableEq File] in
/-- While the key is that of another pair, there must be none. -/
theorem loadable_iff_keyless {pair : SelfSigned tls} {length : Nat}
    (certIs : disk.read settings.autoCert = some (pair.cert.take length))
    (fresh : disk.read settings.autoKey ≠ some pair.key) :
    settings.Loadable tls disk ↔ disk.read settings.autoKey = none := by
  rw [loadable_iff_of_cert certIs]
  constructor
  · intro accepted
    rw [Option.eq_none_iff_forall_not_mem]
    intro key keyIs
    have different : key ≠ pair.key := by
      rintro rfl
      exact fresh keyIs
    have built := accepted key keyIs
    rw [pair.rejected length different] at built
    cases built
  · intro keyless key keyIs
    rw [keyless] at keyIs
    cases keyIs

omit [DecidableEq File] in
/-- Once the key is opened, all of it must be written. -/
theorem loadable_iff_complete {pair : SelfSigned tls} {length : Nat}
    (certIs : disk.read settings.autoCert = some pair.cert)
    (keyIs : disk.read settings.autoKey = some (pair.key.take length)) :
    settings.Loadable tls disk ↔ pair.key.length ≤ length := by
  rw [loadable_iff_of_cert certIs]
  constructor
  · intro accepted
    by_contra short
    have built := accepted _ keyIs
    rw [pair.key_truncated length (Nat.lt_of_not_le short)] at built
    cases built
  · intro complete key isKey
    rw [keyIs, List.take_of_length_le complete] at isKey
    cases isKey
    exact pair.builds

omit [DecidableEq File] in
theorem fresh_of_sees {certPath keyPath : String} {pair : SelfSigned tls}
    (sees : io.sees certPath keyPath disk) (prepared : io.prepared = some pair) :
    disk.read keyPath ≠ some pair.key := by
  have generated : io.generated = .ok pair := by
    rw [Io.prepared] at prepared
    split at prepared <;> simp_all
  simp only [Io.sees, generated, Bool.and_eq_true, bne_iff_ne] at sees
  exact sees.2

/-- Where the start is stopped decides whether the files can be loaded. -/
theorem loadable_generated_iff {pair : SelfSigned tls}
    (distinct :
      disk.resolve settings.autoCert ≠ disk.resolve settings.autoKey)
    (opens : io.opensCert) (prepared : io.prepared = some pair)
    (fresh : disk.read settings.autoKey ≠ some pair.key) :
    settings.Loadable tls
        (loadOrGenerateCert tls settings.autoCert settings.autoKey io disk).1 ↔
      settings.Uncut tls disk io := by
  rw [generate_prepared opens.1 prepared]
  cases cert : io.writeCert with
  | halted halt length =>
      cases length with
      | none => exact absurd cert (opens.2.2 halt)
      | some length =>
          have keyKept : (disk.write settings.autoCert
              (.halted halt (some length)) pair.cert).read settings.autoKey =
                disk.read settings.autoKey :=
            Disk.read_write_of_ne _ _ distinct.symm
          dsimp only
          rw [loadable_iff_keyless (Disk.read_write_self _ _ _ _)
            (by rwa [keyKept]), keyKept]
          simp [Uncut, opens, cert, Io.opensKey]
  | written =>
      have keyKept : (disk.write settings.autoCert .written pair.cert).read
          settings.autoKey = disk.read settings.autoKey :=
        Disk.read_write_of_ne _ _ distinct.symm
      have certIs : ((disk.write settings.autoCert .written pair.cert).write
          settings.autoKey io.writeKey pair.key).read settings.autoCert =
            some pair.cert :=
        Disk.read_write_write _ _ _ _ distinct
      have keyIs := Disk.read_write_self
        (disk.write settings.autoCert .written pair.cert) settings.autoKey
        io.writeKey pair.key
      rw [keyKept] at keyIs
      dsimp only
      cases key : io.writeKey with
      | halted halt length =>
          rw [key] at certIs keyIs
          cases length with
          | none =>
              have whole : pair.cert.take pair.cert.length = pair.cert :=
                List.take_length
              have certWhole := certIs.trans (congrArg some whole.symm)
              dsimp only [FileWrite.leaves] at keyIs
              rw [loadable_iff_keyless certWhole (by rwa [keyIs]), keyIs]
              simp [Uncut, opens, cert, key, prepared, Io.opensKey,
                FileWrite.Complete]
          | some length =>
              rw [loadable_iff_complete certIs keyIs]
              simp [Uncut, opens, opens.1, cert, key, prepared, Io.opensKey,
                FileWrite.Complete]
      | written =>
          rw [key] at certIs keyIs
          have whole : pair.key.take pair.key.length = pair.key :=
            List.take_length
          have keyWhole := keyIs.trans (congrArg some whole.symm)
          rw [loadable_iff_complete certIs keyWhole]
          simp [Uncut, cert, key, prepared, FileWrite.Complete]

theorem loadable_startTls_iff (auto : settings.resolveTlsMode = .auto)
    (distinct :
      disk.resolve settings.autoCert ≠ disk.resolve settings.autoKey)
    (loadable : settings.Loadable tls disk)
    (taken : settings.step tls disk io = some next) :
    settings.Loadable tls next ↔ settings.Uncut tls disk io := by
  simp only [step, Option.ite_none_right_eq_some, Option.some.injEq,
    startTls_auto auto] at taken
  obtain ⟨sees, rfl⟩ := taken
  by_cases opens : io.opensCert
  · obtain ⟨pair, prepared⟩ := Option.isSome_iff_exists.mp opens.2.1
    exact loadable_generated_iff distinct opens prepared
      (fresh_of_sees sees prepared)
  · have notKey : ¬ io.opensKey := fun opensKey =>
      opens (Io.opensCert_of_opensKey opensKey)
    apply iff_of_true
    · intro cert key certIs keyIs
      rw [read_of_not_opened (absurd · opens) (absurd · notKey)] at certIs keyIs
      exact loadable cert key certIs keyIs
    · exact fun again => absurd again opens

theorem resolve_of_step (auto : settings.resolveTlsMode = .auto)
    (taken : settings.step tls disk io = some next) :
    next.resolve = disk.resolve := by
  simp only [step, Option.ite_none_right_eq_some, Option.some.injEq,
    startTls_auto auto] at taken
  rw [← taken.2]
  exact resolve_loadOrGenerateCert

/-- In whatever order starts are stopped, the next one recovers exactly if the
files there were at first are accepted and no start has been cut between the
certificate and the key. -/
theorem recovers_along_iff {initial : Disk File}
    (auto : settings.resolveTlsMode = .auto)
    (distinct :
      initial.resolve settings.autoCert ≠ initial.resolve settings.autoKey)
    (available : Nonempty (SelfSigned tls))
    (execution : Transition.Execution (settings.step tls) initial) :
    execution.Along (settings.Recovers tls) ↔
      settings.Loadable tls initial ∧
        execution.StepsMeet (settings.Uncut tls) := by
  have exactStep : ∀ before io after,
      Transition.Reachable (settings.step tls) initial before →
      settings.Recovers tls before →
      settings.step tls before io = some after →
        (settings.Recovers tls after ↔ settings.Uncut tls before io) := by
    intro before io after reached recovers taken
    have same : before.resolve = initial.resolve := by
      apply @Transition.Reachable.invariant _ _ _ _ _
        (fun disk => disk.resolve = initial.resolve) reached
      · rfl
      · exact fun _ _ _ same taken => (resolve_of_step auto taken).trans same
    rw [recovers_iff auto available] at recovers ⊢
    apply loadable_startTls_iff auto _ recovers taken
    rwa [same]
  constructor
  · intro along
    have starts : settings.Recovers tls initial := along [] _ initial rfl rfl
    exact ⟨(recovers_iff auto available).mp starts,
      (execution.along_iff_stepsMeet starts exactStep).mp along⟩
  · rintro ⟨loadable, uncut⟩
    have starts := (recovers_iff auto available).mpr loadable
    exact (execution.along_iff_stepsMeet starts exactStep).mpr uncut

def defaultSettings : TlsSettings where
  tlsMode := none
  tlsCertPath := none
  tlsKeyPath := none
  stateDir := some "/home/user/.local/state"
  configDir := none

def emptyDisk : Disk String where
  resolve := id
  files _ := none

/-- A start that is stopped when it has written the certificate. -/
def stoppedIo (serial : UInt8) (length : Option Nat) : Io twinConfigs :=
  { smoothIo false false serial with
    writeKey := .halted .stopped length }

/-- The first start is stopped before the key is opened. -/
def stoppedBeforeKey :
    Transition.Execution (defaultSettings.step twinConfigs) emptyDisk where
  labels := [stoppedIo 1 none, smoothIo true false 2]
  final := _
  runs := rfl

theorem recovers_along_iff_stoppedBeforeKey :
    stoppedBeforeKey.Along (defaultSettings.Recovers twinConfigs) := by
  apply (recovers_along_iff rfl (by decide) ⟨twins 1⟩
    stoppedBeforeKey).mpr
  constructor
  · intro cert key certIs
    cases certIs
  · refine stoppedBeforeKey.stepsMeet_of_meetsFrom ⟨?_, ?_⟩
    · intro _
      left
      exact ⟨rfl, fun opens => opens.2.2.2 .stopped rfl⟩
    · rintro _ ⟨⟩
      constructor
      · intro _
        exact .inr ⟨rfl, fun _ _ => trivial⟩
      · exact fun _ _ => trivial

/-- The first start is stopped when the key is an empty file. -/
def stoppedInKey :
    Transition.Execution (defaultSettings.step twinConfigs) emptyDisk where
  labels := [stoppedIo 1 (some 0)]
  final := _
  runs := rfl

/-- The next start finds both files and has no configuration. -/
theorem stoppedInKey_not_recovers :
    ¬ ∀ (initial : Disk String)
        (execution :
          Transition.Execution (defaultSettings.step twinConfigs) initial),
      initial.resolve defaultSettings.autoCert ≠
          initial.resolve defaultSettings.autoKey →
        execution.Along (defaultSettings.Recovers twinConfigs) := by
  intro holds
  have recovers := holds emptyDisk stoppedInKey (by decide) [_] [] _
    rfl rfl
  obtain ⟨config, -, -, result, -⟩ := recovers (smoothIo true true 2)
    (by constructor <;> decide)
  exact absurd (Option.isSome_of_eq_some result) (by decide)

end TlsSettings

end Tls

end Rylus
