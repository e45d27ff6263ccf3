import Rylus.LabelledExecution
import Rylus.Protocol

/-!
# The configuration of a session

`RylusClientHandler` lists what can be captured and applies every `Config` of
its client, on Linux: it installs an input device and starts the video.  The
enumeration of capturables, the outcome of creating virtual devices and the
fate of the video thread come with each step.
-/

namespace Rylus

/-- `std::io::ErrorKind` as far as it is looked at. -/
inductive IoErrorKind where
  | permissionDenied
  | notFound
  | other
  deriving DecidableEq

inductive CErrorCode where
  | noError
  | genericError
  | uInputNotAccessible
  deriving DecidableEq

/-- `map_io_error`. -/
def mapIoError : IoErrorKind → CErrorCode
  | .permissionDenied | .notFound => .uInputNotAccessible
  | .other => .genericError

/-- The outcomes of `create_stylus`, `create_mouse`, `create_touch` and
`create_keyboard`, if they are reached. -/
structure DeviceCreation where
  stylus : Option IoErrorKind
  mouse : Option IoErrorKind
  touch : Option IoErrorKind
  keyboard : Option IoErrorKind
  deriving DecidableEq

/-- The first failure ends the creation. -/
def DeviceCreation.failure (creation : DeviceCreation) : Option IoErrorKind :=
  creation.stylus <|> creation.mouse <|> creation.touch <|> creation.keyboard

/-- The input device of a session; the names of uinput devices come from the
client name they were created with. -/
inductive InstalledDevice (Capturable : Type*) where
  | uInputDevice (id : Option String) (capturable : Capturable)
  | enigoDevice (capturable : Capturable)
  deriving DecidableEq

namespace InstalledDevice

variable {Capturable : Type*}

/-- `device_type() == InputDeviceType::UInputDevice`. -/
def isUInput : InstalledDevice Capturable → Bool
  | .uInputDevice _ _ => true
  | .enigoDevice _ => false

def setCapturable (device : InstalledDevice Capturable)
    (capturable : Capturable) : InstalledDevice Capturable :=
  match device with
  | .uInputDevice id _ => .uInputDevice id capturable
  | .enigoDevice _ => .enigoDevice capturable

/-- `UInputDevice::new`. -/
def newUInput (capturable : Capturable) (id : Option String)
    (creation : DeviceCreation) :
    Except CErrorCode (InstalledDevice Capturable) :=
  match creation.failure with
  | some kind => .error (mapIoError kind)
  | none => .ok (.uInputDevice id capturable)

end InstalledDevice

/-- The configuration that `VideoCommands::Start` carries. -/
structure VideoConfig (Number Capturable : Type*) where
  capturable : Capturable
  captureCursor : Bool
  maxWidth : UInt64
  maxHeight : UInt64
  frameRate : Number
  deriving DecidableEq

structure RylusClientHandler (Number Capturable : Type*) where
  inputDevice : Option (InstalledDevice Capturable)
  capturables : List Capturable
  captureCursor : Bool
  clientName : Option String
  sent : List (MessageOutbound Number)
  started : List (VideoConfig Number Capturable)
  uinputInaccessible : Nat
  deriving DecidableEq

namespace RylusClientHandler

variable {Number Capturable : Type*}

def new : RylusClientHandler Number Capturable where
  inputDevice := none
  capturables := []
  captureCursor := false
  clientName := none
  sent := []
  started := []
  uinputInaccessible := 0

/-- `send_capturable_list`. -/
def sendCapturableList (name : Capturable → String)
    (handler : RylusClientHandler Number Capturable)
    (enumerated : List Capturable) :
    RylusClientHandler Number Capturable :=
  { handler with
    capturables := enumerated
    sent := handler.sent ++ [.capturableList (enumerated.map name)] }

/-- The device `update_config` goes on with. -/
def chooseDevice (handler : RylusClientHandler Number Capturable)
    (uinputSupport clientNameChanged : Bool) (capturable : Capturable)
    (creation : DeviceCreation) :
    Except CErrorCode (InstalledDevice Capturable) :=
  match uinputSupport, handler.inputDevice with
  | true, some device =>
      if !clientNameChanged && device.isUInput then
        .ok (device.setCapturable capturable)
      else
        InstalledDevice.newUInput capturable handler.clientName creation
  | true, none =>
      InstalledDevice.newUInput capturable handler.clientName creation
  | false, some device =>
      if device.isUInput then .ok (.enigoDevice capturable)
      else .ok (device.setCapturable capturable)
  | false, none => .ok (.enigoDevice capturable)

/-- `update_config`; `videoAlive` tells whether the video thread still takes
commands. -/
def updateConfig (handler : RylusClientHandler Number Capturable)
    (config : ClientConfiguration Number) (creation : DeviceCreation)
    (videoAlive : Bool) : RylusClientHandler Number Capturable :=
  let clientNameChanged := decide (handler.clientName ≠ config.clientName)
  let handler :=
    if clientNameChanged then { handler with clientName := config.clientName }
    else handler
  match handler.capturables[config.capturableId.toNat]? with
  | some capturable =>
      let handler := { handler with captureCursor := config.captureCursor }
      match handler.chooseDevice config.uinputSupport clientNameChanged
          capturable creation with
      | .ok device =>
          let handler := { handler with inputDevice := some device }
          if videoAlive then
            { handler with
              started := handler.started ++
                [{ capturable := capturable
                   captureCursor := config.captureCursor
                   maxWidth := config.maxWidth
                   maxHeight := config.maxHeight
                   frameRate := config.frameRate }] }
          else
            { handler with
              sent := handler.sent ++
                [.error "Failed to start video capture."] }
      | .error code =>
          { handler with
            uinputInaccessible :=
              if code = .uInputNotAccessible then
                handler.uinputInaccessible + 1
              else
                handler.uinputInaccessible
            sent := handler.sent ++
              [.configError "Failed to create uinput device!"] }
  | none =>
      { handler with
        sent := handler.sent ++
          [.configError ("No capturable selected. " ++
            "Click \"Refresh List\" to request screen access.")] }

/-- Messages that concern the configuration. -/
inductive ConfigStep (Number Capturable : Type*) where
  | getCapturableList (enumerated : List Capturable)
  | config (config : ClientConfiguration Number) (creation : DeviceCreation)
      (videoAlive : Bool)

def step (name : Capturable → String)
    (handler : RylusClientHandler Number Capturable) :
    ConfigStep Number Capturable →
      Option (RylusClientHandler Number Capturable)
  | .getCapturableList enumerated =>
      some (handler.sendCapturableList name enumerated)
  | .config config creation videoAlive =>
      some (handler.updateConfig config creation videoAlive)

/-- The id names no capturable of the current list. -/
def OutOfRange (handler : RylusClientHandler Number Capturable)
    (config : ClientConfiguration Number) : Prop :=
  handler.capturables.length ≤ config.capturableId.toNat

/-- A uinput device has to be created, and that fails. -/
def CreationFails (handler : RylusClientHandler Number Capturable)
    (config : ClientConfiguration Number) (creation : DeviceCreation) : Prop :=
  ¬ handler.OutOfRange config ∧ config.uinputSupport = true ∧
    (handler.clientName = config.clientName →
      ∀ device, handler.inputDevice = some device → device.isUInput = false) ∧
    creation.failure ≠ none

/-- With uinput support the device is new and has the name just configured,
or it is the old one and the name is too. -/
def DeviceFor (handler : RylusClientHandler Number Capturable)
    (config : ClientConfiguration Number)
    (device : InstalledDevice Capturable) : Prop :=
  if config.uinputSupport then
    ∃ id capturable, device = .uInputDevice id capturable ∧
      (id = config.clientName ∨
        handler.clientName = config.clientName ∧
          ∃ old, handler.inputDevice = some (.uInputDevice id old))
  else
    device.isUInput = false

/-- What `update_config` does. -/
inductive ConfigMove (handler : RylusClientHandler Number Capturable)
    (config : ClientConfiguration Number) (creation : DeviceCreation)
    (videoAlive : Bool) : RylusClientHandler Number Capturable → Prop
  | outOfRange (text : String) (isOut : handler.OutOfRange config) :
      ConfigMove handler config creation videoAlive
        { handler with
          clientName := config.clientName
          sent := handler.sent ++ [.configError text] }
  | creationFails (text : String) (inaccessible : Nat)
      (fails : handler.CreationFails config creation) :
      ConfigMove handler config creation videoAlive
        { handler with
          clientName := config.clientName
          captureCursor := config.captureCursor
          uinputInaccessible := inaccessible
          sent := handler.sent ++ [.configError text] }
  | started (capturable : Capturable) (device : InstalledDevice Capturable)
      (isListed : handler.capturables[config.capturableId.toNat]? =
        some capturable)
      (chosen : handler.DeviceFor config device)
      (noFailure : ¬ handler.CreationFails config creation)
      (alive : videoAlive = true) :
      ConfigMove handler config creation videoAlive
        { handler with
          clientName := config.clientName
          captureCursor := config.captureCursor
          inputDevice := some device
          started := handler.started ++
            [{ capturable := capturable
               captureCursor := config.captureCursor
               maxWidth := config.maxWidth
               maxHeight := config.maxHeight
               frameRate := config.frameRate }] }
  | videoGone (text : String) (device : InstalledDevice Capturable)
      (inRange : ¬ handler.OutOfRange config)
      (chosen : handler.DeviceFor config device)
      (noFailure : ¬ handler.CreationFails config creation)
      (gone : videoAlive = false) :
      ConfigMove handler config creation videoAlive
        { handler with
          clientName := config.clientName
          captureCursor := config.captureCursor
          inputDevice := some device
          sent := handler.sent ++ [.error text] }

/-- Choosing a device fails only if it has to be created. -/
theorem chooseDevice_cases (handler : RylusClientHandler Number Capturable)
    (config : ClientConfiguration Number) (capturable : Capturable)
    (creation : DeviceCreation) (inRange : ¬ handler.OutOfRange config) :
    match ({ handler with
        clientName := config.clientName
        captureCursor := config.captureCursor }).chooseDevice
          config.uinputSupport (handler.clientName ≠ config.clientName)
            capturable creation with
    | .error _ => handler.CreationFails config creation
    | .ok device => handler.DeviceFor config device ∧
        ¬ handler.CreationFails config creation := by
  unfold chooseDevice DeviceFor CreationFails InstalledDevice.newUInput
  cases support : config.uinputSupport with
  | false =>
      cases installed : handler.inputDevice with
      | none => simp [InstalledDevice.isUInput]
      | some device =>
          cases device <;>
            simp [InstalledDevice.isUInput, InstalledDevice.setCapturable]
  | true =>
      by_cases same : handler.clientName = config.clientName
      · cases installed : handler.inputDevice with
        | none => cases failure : creation.failure <;> simp [inRange]
        | some device =>
            cases device <;> cases failure : creation.failure <;>
              simp [same, inRange, InstalledDevice.isUInput,
                InstalledDevice.setCapturable]
      · cases installed : handler.inputDevice with
        | none => cases failure : creation.failure <;> simp [inRange, same]
        | some device =>
            cases failure : creation.failure <;> simp [same, inRange]

theorem configMove_of_updateConfig
    (handler : RylusClientHandler Number Capturable)
    (config : ClientConfiguration Number) (creation : DeviceCreation)
    (videoAlive : Bool) :
    handler.ConfigMove config creation videoAlive
      (handler.updateConfig config creation videoAlive) := by
  have renamed : (if decide (handler.clientName ≠ config.clientName) = true
      then { handler with clientName := config.clientName } else handler) =
        { handler with clientName := config.clientName } := by
    by_cases same : handler.clientName = config.clientName
    · simp [← same]
    · simp [same]
  unfold updateConfig
  simp only [renamed]
  cases listed : handler.capturables[config.capturableId.toNat]? with
  | none =>
      exact .outOfRange _ (List.getElem?_eq_none_iff.mp listed)
  | some capturable =>
      have inRange : ¬ handler.OutOfRange config := by
        obtain ⟨inside, -⟩ := List.getElem?_eq_some_iff.mp listed
        exact Nat.not_le.mpr inside
      have choice := handler.chooseDevice_cases config capturable creation
        inRange
      simp only
      split at choice
      · rename_i code chosen
        simp only [chosen]
        exact .creationFails _ _ choice
      · rename_i device chosen
        simp only [chosen]
        cases videoAlive with
        | true =>
            exact .started capturable device listed choice.1 choice.2 rfl
        | false => exact .videoGone _ device inRange choice.1 choice.2 rfl

/-- A `Config` was answered with `ConfigError`. -/
def Rejected (before after : RylusClientHandler Number Capturable) : Prop :=
  ∃ text, after.sent = before.sent ++ [.configError text]

/-- Nothing but the answer is new. -/
structure SameConfiguration
    (before after : RylusClientHandler Number Capturable) : Prop where
  clientName : after.clientName = before.clientName
  captureCursor : after.captureCursor = before.captureCursor
  inputDevice : after.inputDevice = before.inputDevice
  started : after.started = before.started

/-- What the answer to a `Config` promises: rejected, nothing has changed;
accepted, a uinput device is the current client's. -/
def AnswerHolds (name : Capturable → String)
    (before : RylusClientHandler Number Capturable) :
    ConfigStep Number Capturable → Prop
  | label@(.config config _ _) => ∀ after, before.step name label = some after →
      (Rejected before after → before.SameConfiguration after) ∧
        (¬ Rejected before after → config.uinputSupport = true →
          ∃ capturable, after.inputDevice =
            some (.uInputDevice after.clientName capturable))
  | .getCapturableList _ => True

/-- A `Config` that will be rejected changes neither the client name nor, if
it gets that far, the cursor flag. -/
def RejectsOnlyUnchanged (handler : RylusClientHandler Number Capturable) :
    ConfigStep Number Capturable → Prop
  | .config config creation _ =>
      (handler.OutOfRange config →
        config.clientName = handler.clientName) ∧
      (handler.CreationFails config creation →
        config.clientName = handler.clientName ∧
          config.captureCursor = handler.captureCursor)
  | .getCapturableList _ => True

/-- A uinput device is the one of the current client. -/
def DeviceIsClients (handler : RylusClientHandler Number Capturable) : Prop :=
  ∀ id capturable, handler.inputDevice = some (.uInputDevice id capturable) →
    id = handler.clientName

variable {handler after : RylusClientHandler Number Capturable}
  {config : ClientConfiguration Number} {creation : DeviceCreation}
  {videoAlive : Bool}

theorem rejected_iff (moved : handler.ConfigMove config creation videoAlive after) :
    Rejected handler after ↔
      handler.OutOfRange config ∨ handler.CreationFails config creation := by
  cases moved with
  | outOfRange text isOut => exact iff_of_true ⟨text, rfl⟩ (.inl isOut)
  | creationFails text inaccessible fails =>
      exact iff_of_true ⟨text, rfl⟩ (.inr fails)
  | started capturable device isListed chosen noFailure alive =>
      have inRange : ¬ handler.OutOfRange config := by
        obtain ⟨inside, -⟩ := List.getElem?_eq_some_iff.mp isListed
        exact Nat.not_le.mpr inside
      apply iff_of_false
      · rintro ⟨text, answered⟩
        simp at answered
      · exact not_or.mpr ⟨inRange, noFailure⟩
  | videoGone text device inRange chosen noFailure gone =>
      apply iff_of_false
      · rintro ⟨other, answered⟩
        simp at answered
      · exact not_or.mpr ⟨inRange, noFailure⟩

/-- What is started is looked up in the current list. -/
theorem started_of_configMove
    (moved : handler.ConfigMove config creation videoAlive after) :
    (∃ video, after.started = handler.started ++ [video] ∧
        handler.capturables[config.capturableId.toNat]? =
          some video.capturable ∧
        ¬ handler.CreationFails config creation ∧ videoAlive = true) ∨
      after.started = handler.started ∧
        (¬ handler.CreationFails config creation → videoAlive = true →
          handler.capturables[config.capturableId.toNat]? = none) := by
  cases moved with
  | outOfRange text isOut =>
      exact .inr ⟨rfl, fun _ _ => List.getElem?_eq_none_iff.mpr isOut⟩
  | creationFails text inaccessible fails =>
      exact .inr ⟨rfl, fun noFailure => absurd fails noFailure⟩
  | started capturable device isListed chosen noFailure alive =>
      exact .inl ⟨_, rfl, isListed, noFailure, alive⟩
  | videoGone text device inRange chosen noFailure gone =>
      exact .inr ⟨rfl, fun _ alive => by simp [gone] at alive⟩

/-- With uinput support an accepted device is the current client's if the one
before was. -/
theorem deviceFor_clients {device : InstalledDevice Capturable}
    (owned : handler.DeviceIsClients)
    (chosen : handler.DeviceFor config device)
    (support : config.uinputSupport = true) :
    ∃ capturable, device = .uInputDevice config.clientName capturable := by
  simp only [DeviceFor, support, if_true] at chosen
  obtain ⟨id, capturable, rfl, rfl | ⟨same, old, installed⟩⟩ := chosen
  · exact ⟨capturable, rfl⟩
  · exact ⟨capturable, by rw [owned id old installed, same]⟩

theorem deviceIsClients_of_deviceFor {device : InstalledDevice Capturable}
    (owned : handler.DeviceIsClients)
    (chosen : handler.DeviceFor config device)
    {id : Option String} {capturable : Capturable}
    (isUInput : device = .uInputDevice id capturable) :
    id = config.clientName := by
  cases support : config.uinputSupport with
  | true =>
      obtain ⟨other, isClients⟩ := deviceFor_clients owned chosen support
      rw [isUInput] at isClients
      cases isClients
      rfl
  | false =>
      simp [DeviceFor, support, isUInput, InstalledDevice.isUInput] at chosen

theorem accepted_device (owned : handler.DeviceIsClients)
    (moved : handler.ConfigMove config creation videoAlive after)
    (accepted : ¬ Rejected handler after)
    (support : config.uinputSupport = true) :
    ∃ capturable,
      after.inputDevice = some (.uInputDevice after.clientName capturable) := by
  cases moved with
  | outOfRange text isOut => exact absurd ⟨text, rfl⟩ accepted
  | creationFails text inaccessible fails => exact absurd ⟨text, rfl⟩ accepted
  | started capturable device isListed chosen noFailure alive =>
      obtain ⟨other, isClients⟩ := deviceFor_clients owned chosen support
      exact ⟨other, congrArg some isClients⟩
  | videoGone text device inRange chosen noFailure gone =>
      obtain ⟨other, isClients⟩ := deviceFor_clients owned chosen support
      exact ⟨other, congrArg some isClients⟩

/-- A guarded `Config` leaves the device with the current client. -/
theorem deviceIsClients_of_configMove (owned : handler.DeviceIsClients)
    (guarded : handler.OutOfRange config ∨
      handler.CreationFails config creation →
        config.clientName = handler.clientName)
    (moved : handler.ConfigMove config creation videoAlive after) :
    after.DeviceIsClients := by
  cases moved with
  | outOfRange text isOut =>
      intro id capturable installed
      exact (owned id capturable installed).trans (guarded (.inl isOut)).symm
  | creationFails text inaccessible fails =>
      intro id capturable installed
      exact (owned id capturable installed).trans (guarded (.inr fails)).symm
  | started capturable device isListed chosen noFailure alive =>
      intro id other installed
      exact deviceIsClients_of_deviceFor owned chosen
        (Option.some.inj installed)
  | videoGone text device inRange chosen noFailure gone =>
      intro id other installed
      exact deviceIsClients_of_deviceFor owned chosen
        (Option.some.inj installed)

/-- A rejected `Config` changes nothing exactly if what it stores before it is
rejected is stored already. -/
theorem sameConfiguration_iff
    (moved : handler.ConfigMove config creation videoAlive after)
    (rejected : Rejected handler after) :
    handler.SameConfiguration after ↔
      (handler.OutOfRange config →
          config.clientName = handler.clientName) ∧
        (handler.CreationFails config creation →
          config.clientName = handler.clientName ∧
            config.captureCursor = handler.captureCursor) := by
  cases moved with
  | outOfRange text isOut =>
      have notFails : ¬ handler.CreationFails config creation :=
        fun fails => fails.1 isOut
      constructor
      · exact fun same => ⟨fun _ => same.clientName, fun fails =>
          absurd fails notFails⟩
      · exact fun guarded => ⟨guarded.1 isOut, rfl, rfl, rfl⟩
  | creationFails text inaccessible fails =>
      constructor
      · exact fun same => ⟨fun isOut => absurd isOut fails.1, fun _ =>
          ⟨same.clientName, same.captureCursor⟩⟩
      · intro guarded
        obtain ⟨clientName, captureCursor⟩ := guarded.2 fails
        exact ⟨clientName, captureCursor, rfl, rfl⟩
  | started capturable device isListed chosen noFailure alive =>
      obtain ⟨text, answered⟩ := rejected
      simp at answered
  | videoGone text device inRange chosen noFailure gone =>
      obtain ⟨other, answered⟩ := rejected
      simp at answered

/-- All answers of a session hold exactly if no rejected `Config` came with
another client name or, when the device could not be created, another
cursor flag. -/
theorem answersHold_iff_rejectsOnlyUnchanged (name : Capturable → String)
    (execution : Transition.Execution (step name)
      (new : RylusClientHandler Number Capturable)) :
    execution.StepsMeet (AnswerHolds name) ↔
      execution.StepsMeet RejectsOnlyUnchanged := by
  apply execution.stepsMeet_iff_stepsMeet DeviceIsClients
  · intro id capturable installed
    cases installed
  · intro before label after moved holds
    cases label with
    | getCapturableList enumerated => trivial
    | config config creation videoAlive =>
        have move :=
          before.configMove_of_updateConfig config creation videoAlive
        have kept := (holds _ rfl).1
        by_cases rejected :
          Rejected before (before.updateConfig config creation videoAlive)
        · exact (sameConfiguration_iff move rejected).mp (kept rejected)
        · rw [rejected_iff move, not_or] at rejected
          exact ⟨fun isOut => absurd isOut rejected.1, fun fails =>
            absurd fails rejected.2⟩
  · intro before label after owned guarded moved
    cases label with
    | getCapturableList enumerated =>
        cases moved
        exact owned
    | config config creation videoAlive =>
        cases moved
        apply deviceIsClients_of_configMove owned ?_
          (before.configMove_of_updateConfig config creation videoAlive)
        rintro (isOut | fails)
        · exact guarded.1 isOut
        · exact (guarded.2 fails).1
  · intro before label after owned guarded moved
    cases label with
    | getCapturableList enumerated => trivial
    | config config creation videoAlive =>
        rintro _ ⟨⟩
        have move :=
          before.configMove_of_updateConfig config creation videoAlive
        refine ⟨fun rejected =>
          (sameConfiguration_iff move rejected).mpr guarded, ?_⟩
        exact accepted_device owned move

/-- A `Config` of a client with a uinput device. -/
def configFor (capturableId : UInt64) (clientName : String) :
    ClientConfiguration Unit where
  uinputSupport := true
  capturableId := capturableId
  captureCursor := true
  maxWidth := 1920
  maxHeight := 1080
  clientName := some clientName
  frameRate := ()

/-- A client is renamed by a `Config` that is rejected, and the next one keeps
the device with the old name. -/
theorem not_answersHold_after_rejected_rename :
    ∃ execution : Transition.Execution
        (step fun _ : Unit => "Desktop")
        (new : RylusClientHandler Unit Unit),
      execution.labels =
          [.getCapturableList [()],
            .config (configFor 0 "tablet") ⟨none, none, none, none⟩ true,
            .config (configFor 1 "phone") ⟨none, none, none, none⟩ true,
            .config (configFor 0 "phone") ⟨none, none, none, none⟩ true] ∧
        ¬ execution.StepsMeet (AnswerHolds fun _ => "Desktop") := by
  refine ⟨⟨_, _, rfl⟩, rfl, fun holds => ?_⟩
  have answered := (holds
    [.getCapturableList [()],
      .config (configFor 0 "tablet") ⟨none, none, none, none⟩ true,
      .config (configFor 1 "phone") ⟨none, none, none, none⟩ true]
    (.config (configFor 0 "phone") ⟨none, none, none, none⟩ true) []
    _ rfl rfl _ rfl).2
  obtain ⟨capturable, installed⟩ := answered
    (by rintro ⟨text, sent⟩; cases sent) rfl
  cases capturable
  exact absurd installed (by decide)

end RylusClientHandler

end Rylus
