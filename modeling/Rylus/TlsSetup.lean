import Rylus.LabelledExecution

/-!
# The certificate and the key of the server

`load_or_generate_cert` loads the two files when both exist, and else generates
a pair and writes them one after the other.  What each call to the operating
system answers is given from outside: it succeeds, it fails, or the server is
stopped in it.
-/

namespace Rylus

namespace Tls

/-- `build_server_config`; it rejects what does not match. -/
structure ServerConfigs (Config : Type) where
  buildServerConfig : List UInt8 → List UInt8 → Option Config
  Matching : List UInt8 → List UInt8 → Prop
  matching_of_build : ∀ cert key, (buildServerConfig cert key).isSome →
    Matching cert key

/-- What `generate_self_signed_cert` returns is accepted as a whole, and
neither file with another key or in part. -/
structure SelfSigned {Config : Type} (tls : ServerConfigs Config) where
  cert : List UInt8
  key : List UInt8
  builds : (tls.buildServerConfig cert key).isSome
  cert_truncated : ∀ length < cert.length, ∀ other,
    tls.buildServerConfig (cert.take length) other = none
  key_truncated : ∀ length < key.length, ∀ other,
    tls.buildServerConfig other (key.take length) = none
  mismatched : ∀ other ≠ key, tls.buildServerConfig cert other = none

/-- A call returns an error, or the server is stopped in it. -/
inductive Halt where
  | failed
  | stopped
  deriving DecidableEq

/-- A file is opened, which creates or truncates it, and written; it may halt
before it is opened or after some bytes. -/
inductive FileWrite where
  | written
  | halted (halt : Halt) (length : Option Nat)
  deriving DecidableEq

/-- What is in the file after a write of `content`. -/
def FileWrite.leaves (outcome : FileWrite) (content : List UInt8)
    (old : Option (List UInt8)) : Option (List UInt8) :=
  match outcome with
  | written => some content
  | halted _ none => old
  | halted _ (some length) => some (content.take length)

/-- The answers to one call of `load_or_generate_cert`, in its order. -/
structure Io {Config : Type} (tls : ServerConfigs Config) where
  certExists : Bool
  keyExists : Bool
  readCert : Option Halt
  readKey : Option Halt
  generated : Except Halt (SelfSigned tls)
  createDirAll : Option Halt
  setPermissions : Option Halt
  writeCert : FileWrite
  writeKey : FileWrite

/-- The files; paths may be links to one file. -/
structure Disk (File : Type*) where
  resolve : String → File
  files : File → Option (List UInt8)

namespace Disk

variable {File : Type*}

def read (disk : Disk File) (path : String) : Option (List UInt8) :=
  disk.files (disk.resolve path)

def write [DecidableEq File] (disk : Disk File) (path : String)
    (outcome : FileWrite) (content : List UInt8) : Disk File :=
  { disk with
    files := Function.update disk.files (disk.resolve path)
      (outcome.leaves content (disk.read path)) }

/-- A file that exists before has the same content after. -/
def Keeps (before after : Disk File) (path : String) : Prop :=
  ∀ content, before.read path = some content →
    after.read path = some content

/-- `std::fs::read`. -/
def readFile (disk : Disk File) (path : String) (answer : Option Halt) :
    Except Halt (List UInt8) :=
  match answer, disk.read path with
  | some halt, _ => .error halt
  | none, none => .error .failed
  | none, some content => .ok content

/-- A file that is not opened is left alone. -/
@[simp]
theorem write_not_opened [DecidableEq File] (disk : Disk File) (path : String)
    (halt : Halt) (content : List UInt8) :
    disk.write path (.halted halt none) content = disk := by
  simp [write, read, FileWrite.leaves]

theorem read_write_self [DecidableEq File] (disk : Disk File) (path : String)
    (outcome : FileWrite) (content : List UInt8) :
    (disk.write path outcome content).read path =
      outcome.leaves content (disk.read path) := by
  simp [read, write]

theorem read_write_of_ne [DecidableEq File] {disk : Disk File}
    {path other : String} (outcome : FileWrite) (content : List UInt8)
    (distinct : disk.resolve other ≠ disk.resolve path) :
    (disk.write path outcome content).read other = disk.read other := by
  simp [read, write, distinct]

theorem read_write_write [DecidableEq File] {disk : Disk File}
    {path other : String} (first second : FileWrite)
    (content content' : List UInt8)
    (distinct : disk.resolve path ≠ disk.resolve other) :
    ((disk.write path first content).write other second content').read path =
      first.leaves content (disk.read path) := by
  rw [read_write_of_ne, read_write_self]
  exact distinct

end Disk

variable {Config : Type} {File : Type*} [DecidableEq File]

/-- The result of `build_server_config` as that of the whole call. -/
def ServerConfigs.build (tls : ServerConfigs Config)
    (cert key : List UInt8) : Except Halt Config :=
  match tls.buildServerConfig cert key with
  | some config => .ok config
  | none => .error .failed

@[simp]
theorem ServerConfigs.toOption_build (tls : ServerConfigs Config)
    (cert key : List UInt8) :
    (tls.build cert key).toOption = tls.buildServerConfig cert key := by
  rw [build]
  cases tls.buildServerConfig cert key <;> rfl

def loadOrGenerateCert (tls : ServerConfigs Config) (certPath keyPath : String)
    (io : Io tls) (disk : Disk File) : Disk File × Except Halt Config :=
  if io.certExists && io.keyExists then
    (disk, do
      let cert ← disk.readFile certPath io.readCert
      let key ← disk.readFile keyPath io.readKey
      tls.build cert key)
  else
    match io.generated with
    | .error halt => (disk, .error halt)
    | .ok pair =>
        match io.createDirAll, io.setPermissions with
        | some halt, _ => (disk, .error halt)
        | none, some halt => (disk, .error halt)
        | none, none =>
            let disk := disk.write certPath io.writeCert pair.cert
            match io.writeCert with
            | .halted halt _ => (disk, .error halt)
            | .written =>
                let disk := disk.write keyPath io.writeKey pair.key
                match io.writeKey with
                | .halted halt _ => (disk, .error halt)
                | .written => (disk, tls.build pair.cert pair.key)

inductive TlsMode where
  | disabled
  | auto
  | certified

/-- The fields of `Config` about TLS and what `dirs` answers. -/
structure TlsSettings where
  tlsMode : Option String
  tlsCertPath : Option String
  tlsKeyPath : Option String
  stateDir : Option String
  configDir : Option String

namespace TlsSettings

def resolveTlsMode (settings : TlsSettings) : TlsMode :=
  match settings.tlsMode with
  | some "disabled" | some "off" | some "none" => .disabled
  | some "certified" => .certified
  | some "auto" | none => .auto
  | _ => .auto

def certDir (settings : TlsSettings) : String :=
  ((settings.stateDir.or settings.configDir).getD ".") ++ "/rylus"

def autoCert (settings : TlsSettings) : String :=
  settings.certDir ++ "/cert-v2.der"

def autoKey (settings : TlsSettings) : String :=
  settings.certDir ++ "/key-v2.der"

/-- The TLS part of `Rylus::start`; without a configuration the server speaks
plain TCP. -/
def startTls (tls : ServerConfigs Config) (settings : TlsSettings) (io : Io tls)
    (disk : Disk File) : Disk File × Option Config :=
  match settings.resolveTlsMode with
  | .disabled => (disk, none)
  | .auto =>
      let (disk, result) :=
        loadOrGenerateCert tls settings.autoCert settings.autoKey io disk
      (disk, result.toOption)
  | .certified =>
      let certPath := settings.tlsCertPath.getD ""
      let keyPath := settings.tlsKeyPath.getD ""
      if certPath.isEmpty || keyPath.isEmpty then (disk, none)
      else
        let (disk, result) := loadOrGenerateCert tls certPath keyPath io disk
        (disk, result.toOption)

end TlsSettings

/-! ### What is written -/

namespace Io

variable {tls : ServerConfigs Config}

/-- The pair that is generated and for which there is a directory. -/
def prepared (io : Io tls) : Option (SelfSigned tls) :=
  match io.generated, io.createDirAll, io.setPermissions with
  | .ok pair, none, none => some pair
  | _, _, _ => none

/-- Whether the certificate is opened for writing. -/
def opensCert (io : Io tls) : Prop :=
  ¬ (io.certExists ∧ io.keyExists) ∧ io.prepared.isSome ∧
    ∀ halt, io.writeCert ≠ .halted halt none

/-- Whether the key is opened for writing. -/
def opensKey (io : Io tls) : Prop :=
  ¬ (io.certExists ∧ io.keyExists) ∧ io.prepared.isSome ∧
    io.writeCert = .written ∧ ∀ halt, io.writeKey ≠ .halted halt none

end Io

variable {tls : ServerConfigs Config} {certPath keyPath : String} {io : Io tls}
  {disk : Disk File}

/-- With the key of another pair no part of the certificate is accepted. -/
theorem SelfSigned.rejected (pair : SelfSigned tls) (length : Nat)
    {other : List UInt8} (different : other ≠ pair.key) :
    tls.buildServerConfig (pair.cert.take length) other = none := by
  rcases Nat.lt_or_ge length pair.cert.length with short | complete
  · exact pair.cert_truncated length short other
  · rw [List.take_of_length_le complete]
    exact pair.mismatched other different

theorem Io.opensCert_of_opensKey (opens : io.opensKey) : io.opensCert := by
  obtain ⟨missing, prepared, written, -⟩ := opens
  exact ⟨missing, prepared, by simp [written]⟩

/-- Two files that exist are loaded. -/
theorem load_of_exist (cert : io.certExists) (key : io.keyExists) :
    loadOrGenerateCert tls certPath keyPath io disk =
      (disk, do
        let cert ← disk.readFile certPath io.readCert
        let key ← disk.readFile keyPath io.readKey
        tls.build cert key) := by
  simp [loadOrGenerateCert, cert, key]

/-- Two files that can be read are loaded. -/
theorem load_of_read {cert key : List UInt8} (certExists : io.certExists)
    (keyExists : io.keyExists) (certRead : io.readCert = none)
    (keyRead : io.readKey = none) (certIs : disk.read certPath = some cert)
    (keyIs : disk.read keyPath = some key) :
    loadOrGenerateCert tls certPath keyPath io disk =
      (disk, tls.build cert key) := by
  rw [load_of_exist certExists keyExists]
  simp only [Disk.readFile, certRead, keyRead, certIs, keyIs]
  rfl

/-- Without a pair and a directory nothing is written. -/
theorem generate_unprepared (missing : ¬ (io.certExists ∧ io.keyExists))
    (unprepared : io.prepared = none) :
    (loadOrGenerateCert tls certPath keyPath io disk).1 = disk := by
  have missing' : (io.certExists && io.keyExists) = false := by
    simpa using missing
  simp only [loadOrGenerateCert, missing', Io.prepared] at unprepared ⊢
  cases generated : io.generated <;> cases created : io.createDirAll <;>
    cases restricted : io.setPermissions <;>
    simp_all

/-- The certificate is written, and then the key. -/
theorem generate_prepared {pair : SelfSigned tls}
    (missing : ¬ (io.certExists ∧ io.keyExists))
    (prepared : io.prepared = some pair) :
    loadOrGenerateCert tls certPath keyPath io disk =
      match io.writeCert with
      | .halted halt _ =>
          (disk.write certPath io.writeCert pair.cert, .error halt)
      | .written =>
          ((disk.write certPath .written pair.cert).write keyPath io.writeKey
              pair.key,
            match io.writeKey with
            | .halted halt _ => .error halt
            | .written => tls.build pair.cert pair.key) := by
  have missing' : (io.certExists && io.keyExists) = false := by
    simpa using missing
  simp only [loadOrGenerateCert, missing', Io.prepared] at prepared ⊢
  cases generated : io.generated <;> cases created : io.createDirAll <;>
    cases restricted : io.setPermissions <;>
    simp_all only [reduceCtorEq, Option.some.injEq]
  cases io.writeCert with
  | halted halt length => rfl
  | written => cases io.writeKey <;> rfl

theorem resolve_loadOrGenerateCert :
    (loadOrGenerateCert tls certPath keyPath io disk).1.resolve =
      disk.resolve := by
  unfold loadOrGenerateCert
  repeat' split
  all_goals rfl

/-- A file that is not opened for writing is what it was. -/
theorem read_of_not_opened {path : String}
    (notCert : io.opensCert → disk.resolve path ≠ disk.resolve certPath)
    (notKey : io.opensKey → disk.resolve path ≠ disk.resolve keyPath) :
    (loadOrGenerateCert tls certPath keyPath io disk).1.read path =
      disk.read path := by
  by_cases exist : io.certExists ∧ io.keyExists
  · rw [load_of_exist exist.1 exist.2]
  cases prepared : io.prepared with
  | none => rw [generate_unprepared exist prepared]
  | some pair =>
      have isPrepared : io.prepared.isSome := by simp [prepared]
      rw [generate_prepared exist prepared]
      cases cert : io.writeCert with
      | halted halt length =>
          cases length with
          | none => simp
          | some length =>
              apply Disk.read_write_of_ne
              apply notCert
              exact ⟨exist, isPrepared, by simp [cert]⟩
      | written =>
          have otherCert : disk.resolve path ≠ disk.resolve certPath :=
            notCert ⟨exist, isPrepared, by simp [cert]⟩
          have unwritten : (disk.write certPath .written pair.cert).read path =
              disk.read path :=
            Disk.read_write_of_ne _ _ otherCert
          cases key : io.writeKey with
          | halted halt length =>
              cases length with
              | none => simp [unwritten]
              | some length =>
                  have otherKey := notKey
                    ⟨exist, isPrepared, cert, by simp [key]⟩
                  rw [← unwritten]
                  exact Disk.read_write_of_ne _ _ otherKey
          | written =>
              have otherKey := notKey
                ⟨exist, isPrepared, cert, by simp [key]⟩
              rw [← unwritten]
              exact Disk.read_write_of_ne _ _ otherKey

/-- When both writes succeed the files hold the new pair; one file for both
holds the key. -/
theorem read_of_generated {pair : SelfSigned tls}
    (missing : ¬ (io.certExists ∧ io.keyExists))
    (prepared : io.prepared = some pair) (cert : io.writeCert = .written)
    (key : io.writeKey = .written) :
    (loadOrGenerateCert tls certPath keyPath io disk).1.read keyPath =
        some pair.key ∧
      (disk.resolve certPath ≠ disk.resolve keyPath →
        (loadOrGenerateCert tls certPath keyPath io disk).1.read certPath =
          some pair.cert) := by
  rw [generate_prepared missing prepared, cert, key]
  constructor
  · exact Disk.read_write_self _ _ _ _
  · intro distinct
    exact Disk.read_write_write _ _ _ _ distinct

/-- Nothing is written when both files are there or there is no pair or no
directory; an existing file that is not opened for writing is kept; when
`exists` misses one of the files and nothing fails, both are replaced. -/
theorem kept_unless_opened (tls : ServerConfigs Config)
    (certPath keyPath : String) (io : Io tls) (disk : Disk File) :
    ((io.certExists ∧ io.keyExists) ∨ io.prepared = none →
        (loadOrGenerateCert tls certPath keyPath io disk).1 = disk) ∧
      (∀ path ∈ [certPath, keyPath],
        (io.opensCert → disk.resolve path ≠ disk.resolve certPath) →
        (io.opensKey → disk.resolve path ≠ disk.resolve keyPath) →
          disk.Keeps (loadOrGenerateCert tls certPath keyPath io disk).1
            path) ∧
      ∀ pair, ¬ (io.certExists ∧ io.keyExists) → io.prepared = some pair →
        io.writeCert = .written → io.writeKey = .written →
          (loadOrGenerateCert tls certPath keyPath io disk).1.read keyPath =
              some pair.key ∧
            (disk.resolve certPath ≠ disk.resolve keyPath →
              (loadOrGenerateCert tls certPath keyPath io disk).1.read
                certPath = some pair.cert) := by
  refine ⟨?_, ?_, fun pair => read_of_generated⟩
  · intro spared
    by_cases exist : io.certExists ∧ io.keyExists
    · rw [load_of_exist exist.1 exist.2]
    · exact generate_unprepared exist (spared.resolve_left exist)
  · intro path _ notCert notKey content existed
    rw [read_of_not_opened notCert notKey, existed]

/-- A certificate matches the key with the same bytes, of which there is
one. -/
def twinConfigs : ServerConfigs (List UInt8) where
  buildServerConfig cert key :=
    if cert.length = 1 ∧ key = cert then some cert else none
  Matching cert key := key = cert
  matching_of_build cert key built := by
    by_contra different
    simp [different] at built

def twins (serial : UInt8) : SelfSigned twinConfigs where
  cert := [serial]
  key := [serial]
  builds := by simp [twinConfigs]
  cert_truncated length short other := by
    obtain rfl := Nat.lt_one_iff.mp short
    rfl
  key_truncated length short other := by
    obtain rfl := Nat.lt_one_iff.mp short
    simp only [twinConfigs, List.take_zero, ite_eq_right_iff, reduceCtorEq,
      imp_false, not_and]
    rintro single rfl
    simp at single
  mismatched other different := by
    simp [twinConfigs, different]

/-- Nothing fails. -/
def smoothIo (certExists keyExists : Bool) (serial : UInt8) :
    Io twinConfigs where
  certExists := certExists
  keyExists := keyExists
  readCert := none
  readKey := none
  generated := .ok (twins serial)
  createDirAll := none
  setPermissions := none
  writeCert := .written
  writeKey := .written

/-- The operator has a certificate, and no key where it is looked for. -/
def certOnly : Disk String where
  resolve := id
  files path := if path = "tls/cert.der" then some [7] else none

/-- The certificate is replaced. -/
theorem certOnly_not_kept :
    ¬ ∀ (certPath keyPath : String) (io : Io twinConfigs) (disk : Disk String),
      io.certExists = (disk.read certPath).isSome →
      io.keyExists = (disk.read keyPath).isSome →
        ∀ path ∈ [certPath, keyPath],
          disk.Keeps
            (loadOrGenerateCert twinConfigs certPath keyPath io disk).1
            path := by
  intro holds
  have kept := holds "tls/cert.der" "tls/key.der" (smoothIo true false 1)
    certOnly rfl rfl "tls/cert.der" (by simp) [7] rfl
  exact absurd kept (by decide)

end Tls

end Rylus
