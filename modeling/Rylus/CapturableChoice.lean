import Rylus.CapturableSelect
import Rylus.ClientHandler

/-!
# What the client selects and what the server captures

The browser picks a capturable by its position in the list it shows, the
server looks the position up in the list it enumerated last.  Messages of one
connection arrive in order; a label is one action of the user, of the browser
or of the server, and carries what an enumeration finds.

Lists on their way keep the capturables behind the names, and a `Config` keeps
the list shown and the option selected when it was sent.  Neither influences a
step.
-/

namespace Rylus

inductive ClientMessage (Number Capturable : Type*) where
  | getCapturableList
  | config (config : ServerConfig Number) (shown : List Capturable)
      (selected : Option Nat)

structure ClientConnection (Number Capturable : Type*) where
  handler : RylusClientHandler Number Capturable
  toServer : List (ClientMessage Number Capturable)
  toBrowser : List (List Capturable)

def ClientConnection.new {Number Capturable : Type*} :
    ClientConnection Number Capturable :=
  ⟨.new, [], []⟩

/-- A capturable that was started, and the selection it was started for. -/
structure StartedCapture (Capturable : Type*) where
  capturable : Capturable
  shown : List Capturable
  selected : Option Nat

structure CaptureSystem (Number Capturable : Type*) where
  settings : Settings Number
  shown : List Capturable
  socketOpen : Bool
  current : Nat
  connections : Nat → ClientConnection Number Capturable
  started : List (StartedCapture Capturable)

inductive CaptureStep (Number Capturable : Type*) where
  | connect
  | disconnect
  | refresh
  | pick (index : Nat)
  | change (uinputSupport captureCursor : Bool) (maxWidth maxHeight : UInt64)
      (frameRate : Number) (clientName : String)
  | receiveList
  | serve (connection : Nat) (enumerated : List Capturable)
      (creation : DeviceCreation) (videoAlive : Bool)

namespace CaptureSystem

variable {Number Capturable : Type*}

/-- The page before the first connection. -/
def start (settings : Settings Number) : CaptureSystem Number Capturable where
  settings := { settings with capturableSelect := .empty }
  shown := []
  socketOpen := false
  current := 0
  connections := fun _ => .new
  started := []

/-- `wsSend`. -/
def wsSend (system : CaptureSystem Number Capturable)
    (message : ClientMessage Number Capturable) :
    CaptureSystem Number Capturable :=
  if system.socketOpen then
    let connection := system.connections system.current
    { system with
      connections := Function.update system.connections system.current
        { connection with toServer := connection.toServer ++ [message] } }
  else
    system

/-- Send a `Config`, if there is one, for the list shown. -/
def sendConfig (system : CaptureSystem Number Capturable)
    (config : Option (ServerConfig Number)) :
    CaptureSystem Number Capturable :=
  match config with
  | some config => system.wsSend
      (.config config system.shown
        system.settings.capturableSelect.selectedIndex)
  | none => system

/-- `onopen` of the first socket and of every later one. -/
def connect (system : CaptureSystem Number Capturable) :
    CaptureSystem Number Capturable :=
  let system :=
    { system with
      socketOpen := true
      current := system.current + 1
      connections :=
        Function.update system.connections (system.current + 1) .new }
  let system := system.wsSend .getCapturableList
  system.sendConfig system.settings.sendServerConfig

/-- The session thread handles the next message of a connection. -/
def serve (name : Capturable → String)
    (system : CaptureSystem Number Capturable) (id : Nat)
    (enumerated : List Capturable) (creation : DeviceCreation)
    (videoAlive : Bool) : Option (CaptureSystem Number Capturable) :=
  let connection := system.connections id
  match connection.toServer with
  | [] => none
  | .getCapturableList :: toServer =>
      some { system with
        connections := Function.update system.connections id
          { handler := connection.handler.sendCapturableList name enumerated
            toServer := toServer
            toBrowser := connection.toBrowser ++ [enumerated] } }
  | .config config shown selected :: toServer =>
      match config.parse with
      | none =>
          some { system with
            connections := Function.update system.connections id
              { connection with toServer := toServer } }
      | some config =>
          let handler :=
            connection.handler.updateConfig config creation videoAlive
          let videos := handler.started.drop connection.handler.started.length
          some { system with
            connections := Function.update system.connections id
              { connection with handler := handler, toServer := toServer }
            started := system.started ++
              videos.map fun video => ⟨video.capturable, shown, selected⟩ }

def step (name : Capturable → String)
    (system : CaptureSystem Number Capturable) :
    CaptureStep Number Capturable → Option (CaptureSystem Number Capturable)
  | .connect => some system.connect
  | .disconnect => some { system with socketOpen := false }
  | .refresh => some (system.wsSend .getCapturableList)
  | .pick index =>
      let system :=
        { system with
          settings := { system.settings with
            capturableSelect := system.settings.capturableSelect.pick index } }
      some (system.sendConfig system.settings.sendServerConfig)
  | .change uinputSupport captureCursor maxWidth maxHeight frameRate
      clientName =>
      let system :=
        { system with
          settings :=
            { capturableSelect := system.settings.capturableSelect
              uinputSupport := uinputSupport
              captureCursor := captureCursor
              maxWidth := maxWidth
              maxHeight := maxHeight
              frameRate := frameRate
              clientName := clientName } }
      some (system.sendConfig system.settings.sendServerConfig)
  | .receiveList =>
      let connection := system.connections system.current
      match system.socketOpen, connection.toBrowser with
      | true, list :: toBrowser =>
          let (settings, config) :=
            system.settings.onCapturableList (list.map name)
          let system :=
            { system with
              settings := settings
              shown := list
              connections := Function.update system.connections system.current
                { connection with toBrowser := toBrowser } }
          some (system.sendConfig config)
      | _, _ => none
  | .serve id enumerated creation videoAlive =>
      system.serve name id enumerated creation videoAlive

/-- Whatever was started is the entry selected in the list shown. -/
def CapturesSelected (system : CaptureSystem Number Capturable) : Prop :=
  ∀ capture ∈ system.started, ∃ index, capture.selected = some index ∧
    capture.shown[index]? = some capture.capturable

/-- A `Config` that starts a capturable was sent while an option was selected,
and where it points the server's newest list still has the entry of the list
that was shown. -/
def StartsFromSameList (system : CaptureSystem Number Capturable) :
    CaptureStep Number Capturable → Prop
  | .serve id _ creation videoAlive =>
      ∀ sent shown selected toServer config capturable,
        (system.connections id).toServer =
            .config sent shown selected :: toServer →
          sent.parse = some config →
            (system.connections id).handler.capturables[
                config.capturableId.toNat]? = some capturable →
              ¬ (system.connections id).handler.CreationFails config creation →
                videoAlive = true →
                  selected ≠ none ∧
                    shown[config.capturableId.toNat]? = some capturable
  | _ => True

variable {name : Capturable → String}
  {system next : CaptureSystem Number Capturable}

/-- The select shows the list shown, and every `Config` on its way asks for
the option selected, or for the first. -/
structure Consistent (name : Capturable → String)
    (system : CaptureSystem Number Capturable) : Prop where
  isShown : system.settings.capturableSelect.Shows (system.shown.map name)
  asks : ∀ id config shown selected,
    .config config shown selected ∈ (system.connections id).toServer →
      config.capturableId = some (selected.getD 0)

theorem started_wsSend (message : ClientMessage Number Capturable) :
    (system.wsSend message).started = system.started := by
  unfold wsSend
  split <;> rfl

theorem started_sendConfig (config : Option (ServerConfig Number)) :
    (system.sendConfig config).started = system.started := by
  cases config with
  | none => rfl
  | some config => exact started_wsSend _

theorem consistent_wsSend (holds : system.Consistent name)
    (message : ClientMessage Number Capturable)
    (asks : ∀ config shown selected,
      message = .config config shown selected →
        config.capturableId = some (selected.getD 0)) :
    (system.wsSend message).Consistent name := by
  unfold wsSend
  split
  · refine ⟨holds.isShown, ?_⟩
    intro id config shown selected queued
    by_cases isCurrent : id = system.current
    · subst isCurrent
      simp only [Function.update_self, List.mem_append,
        List.mem_singleton] at queued
      rcases queued with before | isLast
      · exact holds.asks _ config shown selected before
      · exact asks config shown selected isLast.symm
    · simp only [Function.update_of_ne isCurrent] at queued
      exact holds.asks id config shown selected queued
  · exact holds

theorem consistent_sendConfig (holds : system.Consistent name)
    (config : Option (ServerConfig Number))
    (isOwn : ∀ sent, config = some sent →
      system.settings.sendServerConfig = some sent) :
    (system.sendConfig config).Consistent name := by
  cases config with
  | none => exact holds
  | some config =>
      apply consistent_wsSend holds
      rintro _ _ _ ⟨⟩
      have own := isOwn config rfl
      unfold Settings.sendServerConfig at own
      split at own
      · cases own
      · cases own
        exact holds.isShown.numberOf_value

theorem consistent_connect (holds : system.Consistent name) :
    system.connect.Consistent name := by
  apply consistent_sendConfig
  · apply consistent_wsSend
    · refine ⟨holds.isShown, ?_⟩
      intro id config shown selected queued
      by_cases isNew : id = system.current + 1
      · subst isNew
        simp [ClientConnection.new] at queued
      · simp only [Function.update_of_ne isNew] at queued
        exact holds.asks id config shown selected queued
    · intro _ _ _ isConfig
      cases isConfig
  · intro sent isSent
    simpa [wsSend] using isSent

/-- No queue gets longer when that of one connection gets shorter. -/
theorem mem_toServer_of_update {id other : Nat}
    {connection : ClientConnection Number Capturable}
    {message : ClientMessage Number Capturable}
    (shorter : ∀ message ∈ connection.toServer,
      message ∈ (system.connections id).toServer)
    (queued : message ∈
      (Function.update system.connections id connection other).toServer) :
    message ∈ (system.connections other).toServer := by
  by_cases same : other = id
  · subst same
    rw [Function.update_self] at queued
    exact shorter message queued
  · rwa [Function.update_of_ne same] at queued

/-- Receiving a list leaves the queues to the server alone. -/
theorem toServer_receive (other : Nat) (toBrowser : List (List Capturable)) :
    (Function.update system.connections system.current
      { handler := (system.connections system.current).handler
        toServer := (system.connections system.current).toServer
        toBrowser := toBrowser } other).toServer =
      (system.connections other).toServer := by
  by_cases same : other = system.current
  · subst same
    rw [Function.update_self]
  · rw [Function.update_of_ne same]

/-- Handling a message only takes it off its queue. -/
theorem consistent_serve (holds : system.Consistent name) {id : Nat}
    {enumerated : List Capturable} {creation : DeviceCreation}
    {videoAlive : Bool}
    (served : system.serve name id enumerated creation videoAlive =
      some next) : next.Consistent name := by
  unfold serve at served
  simp only at served
  split at served
  · cases served
  · rename_i toServer queued
    cases served
    exact ⟨holds.isShown, fun other config shown selected member =>
      holds.asks other config shown selected
        (mem_toServer_of_update
          (fun message later => by simp [queued, later]) member)⟩
  · rename_i config shown selected toServer queued
    split at served
    · cases served
      exact ⟨holds.isShown, fun other config shown selected member =>
        holds.asks other config shown selected
          (mem_toServer_of_update
          (fun message later => by simp [queued, later]) member)⟩
    · cases served
      exact ⟨holds.isShown, fun other config shown selected member =>
        holds.asks other config shown selected
          (mem_toServer_of_update
          (fun message later => by simp [queued, later]) member)⟩

theorem consistent_step (holds : system.Consistent name)
    {label : CaptureStep Number Capturable}
    (moved : system.step name label = some next) : next.Consistent name := by
  cases label with
  | connect =>
      cases moved
      exact consistent_connect holds
  | disconnect =>
      cases moved
      exact ⟨holds.isShown, holds.asks⟩
  | refresh =>
      cases moved
      apply consistent_wsSend holds
      intro _ _ _ isConfig
      cases isConfig
  | pick index =>
      cases moved
      apply consistent_sendConfig
      · exact ⟨holds.isShown.pick index, holds.asks⟩
      · exact fun sent isSent => isSent
  | change uinputSupport captureCursor maxWidth maxHeight frameRate
      clientName =>
      cases moved
      apply consistent_sendConfig
      · exact ⟨holds.isShown, holds.asks⟩
      · exact fun sent isSent => isSent
  | receiveList =>
      simp only [step] at moved
      split at moved
      · rename_i list toBrowser _ queued
        cases moved
        apply consistent_sendConfig
        · refine ⟨(Settings.onCapturableList_select _ _).1, ?_⟩
          intro other config shown selected member
          simp only [toServer_receive] at member
          exact holds.asks other config shown selected member
        · intro sent isSent
          rw [Settings.onCapturableList_sent] at isSent
          split at isSent
          · cases isSent
          · exact isSent
      · cases moved
  | serve id enumerated creation videoAlive =>
      exact consistent_serve holds moved

/-- A step of the server keeps the selection exactly if what it starts comes
from the same list. -/
theorem capturesSelected_serve_iff (consistent : system.Consistent name)
    (holds : system.CapturesSelected) {id : Nat}
    {enumerated : List Capturable} {creation : DeviceCreation}
    {videoAlive : Bool}
    (served : system.serve name id enumerated creation videoAlive =
      some next) :
    next.CapturesSelected ↔
      system.StartsFromSameList (.serve id enumerated creation videoAlive) := by
  unfold serve at served
  simp only at served
  simp only [StartsFromSameList]
  split at served
  · cases served
  · rename_i toServer queued
    cases served
    apply iff_of_true holds
    intro _ _ _ _ _ _ isConfig
    rw [queued] at isConfig
    cases isConfig
  · rename_i sent shown selected toServer queued
    split at served
    · rename_i unparsed
      cases served
      apply iff_of_true holds
      intro _ _ _ _ _ _ isConfig parsed
      rw [queued] at isConfig
      cases isConfig
      rw [unparsed] at parsed
      cases parsed
    · rename_i config parsed
      cases served
      have asks := consistent.asks id sent shown selected (by simp [queued])
      rcases RylusClientHandler.started_of_configMove
          ((system.connections id).handler.configMove_of_updateConfig config
            creation videoAlive) with
        ⟨video, starts, isListed, noFailure, alive⟩ | ⟨same, notStarted⟩
      · have isAsked : selected.getD 0 = config.capturableId.toNat := by
          rw [ServerConfig.capturableId_of_parse parsed] at asks
          exact (Option.some.inj asks).symm
        constructor
        · intro keeps sent' shown' selected' toServer' config' capturable'
            isNext parsed' isListed' _ _
          rw [queued] at isNext
          cases isNext
          rw [parsed] at parsed'
          cases parsed'
          rw [isListed] at isListed'
          cases isListed'
          obtain ⟨index, isSelected, isEntry⟩ := keeps
            ⟨video.capturable, shown, selected⟩ (by simp [starts])
          dsimp only at isSelected isEntry
          subst isSelected
          exact ⟨by simp, isAsked ▸ isEntry⟩
        · intro guarded capture member
          have member : capture ∈ system.started ++
              [⟨video.capturable, shown, selected⟩] := by
            simpa [starts] using member
          rw [List.mem_append, List.mem_singleton] at member
          rcases member with before | rfl
          · exact holds capture before
          · obtain ⟨isSome, isEntry⟩ := guarded sent shown selected toServer
              config video.capturable queued parsed isListed noFailure alive
            obtain ⟨index, isSelected⟩ := Option.ne_none_iff_exists'.mp isSome
            rw [isSelected, Option.getD_some] at isAsked
            exact ⟨index, isSelected, isAsked ▸ isEntry⟩
      · apply iff_of_true
        · intro capture member
          have member : capture ∈ system.started := by
            simpa [same] using member
          exact holds capture member
        · intro _ _ _ _ _ _ isNext parsed' isListed noFailure alive
          rw [queued] at isNext
          cases isNext
          rw [parsed] at parsed'
          cases parsed'
          rw [notStarted noFailure alive] at isListed
          cases isListed

theorem started_of_step {label : CaptureStep Number Capturable}
    (moved : system.step name label = some next)
    (other : ∀ id enumerated creation videoAlive,
      label ≠ .serve id enumerated creation videoAlive) :
    next.started = system.started := by
  cases label with
  | connect =>
      cases moved
      exact (started_sendConfig _).trans (started_wsSend _)
  | disconnect =>
      cases moved
      rfl
  | refresh =>
      cases moved
      exact started_wsSend _
  | pick index =>
      cases moved
      exact started_sendConfig _
  | change uinputSupport captureCursor maxWidth maxHeight frameRate
      clientName =>
      cases moved
      exact started_sendConfig _
  | receiveList =>
      simp only [step] at moved
      split at moved
      · cases moved
        exact started_sendConfig _
      · cases moved
  | serve id enumerated creation videoAlive =>
      exact absurd rfl (other id enumerated creation videoAlive)

/-- The server captures what was selected throughout a run exactly if every
`Config` that starts a capturable was sent with a selection and points to the
same entry in the server's list and in the list that was shown. -/
theorem capturesSelected_along_iff (name : Capturable → String)
    (settings : Settings Number)
    (execution : Transition.Execution (step name)
      (start settings : CaptureSystem Number Capturable)) :
    execution.Along CapturesSelected ↔
      execution.StepsMeet StartsFromSameList := by
  apply execution.along_iff_stepsMeet
  · intro capture member
    cases member
  · intro before label after reached holds moved
    have consistent : before.Consistent name := by
      apply reached.invariant
      · refine ⟨rfl, ?_⟩
        intro id config shown selected queued
        cases queued
      · exact fun _ _ _ holds moved => consistent_step holds moved
    cases label with
    | serve id enumerated creation videoAlive =>
        exact capturesSelected_serve_iff consistent holds moved
    | _ =>
        apply iff_of_true
        · intro capture member
          rw [started_of_step moved (by simp)] at member
          exact holds capture member
        · trivial

/-- A window is selected, the connection is lost, and the list enumerated on
reconnecting has another window in its place. -/
def listChangesWhileAway : List (CaptureStep Unit String) :=
  [.connect, .serve 1 ["Desktop", "Browser"] ⟨none, none, none, none⟩ true,
    .receiveList, .serve 1 [] ⟨none, none, none, none⟩ true,
    .pick 1, .serve 1 [] ⟨none, none, none, none⟩ true,
    .disconnect, .connect,
    .serve 2 ["Desktop", "Mail", "Browser"] ⟨none, none, none, none⟩ true,
    .serve 2 [] ⟨none, none, none, none⟩ true]

/-- The other window is captured. -/
theorem not_capturesSelected_after_reconnect :
    ∃ system, Transition.run (step id)
        (start ⟨.empty, true, true, 1920, 1080, (), ""⟩)
        listChangesWhileAway = some system ∧ ¬ system.CapturesSelected := by
  have observed : (Transition.run (step id)
      (start ⟨.empty, true, true, 1920, 1080, (), ""⟩)
      listChangesWhileAway).any (fun system =>
        system.started.any fun capture =>
          capture.selected.bind (capture.shown[·]?) !=
            some capture.capturable) = true := by
    decide
  obtain ⟨system, reached, facts⟩ := (Option.any_eq_true _ _).mp observed
  obtain ⟨capture, member, differs⟩ := List.any_eq_true.mp facts
  refine ⟨system, reached, fun holds => ?_⟩
  obtain ⟨index, isSelected, isEntry⟩ := holds capture member
  simp [isSelected, isEntry] at differs

end CaptureSystem

end Rylus
