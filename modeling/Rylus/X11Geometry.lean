import Rylus.LabelledExecution
import Rylus.Protocol
import Rylus.QualityController

/-!
# The rectangle that is captured and the rectangle that is touched

`RecorderX11::capture` asks the X server where its target is;
`X11Capturable::geometry`, by which pointers are mapped, uses the size that
the screen had when the connection was set up and, for a monitor, the place it
had when it was enumerated.  The layout of the X server may change at any
time.
-/

namespace Rylus

/-- `as f64` of signed 16-bit numbers. -/
class F64Screen (F : Type*) extends F64 F where
  ofInt16 : Int16 → F

instance : F64Screen ℚ where
  ofInt16 value := (value.toInt : ℚ)

namespace F64Screen

variable {F : Type*} [F64Screen F]

/-- A coordinate over a screen size. -/
def ratio (value : Int16) (size : UInt16) : F :=
  ofInt16 value / F64.ofNat size.toNat

/-- A length over a screen size. -/
def lengthRatio (value size : UInt16) : F :=
  F64.ofNat value.toNat / F64.ofNat size.toNat

end F64Screen

/-- Quotients of 16-bit numbers are told apart by double precision. -/
class LawfulRatio (F : Type*) [F64Screen F] : Prop where
  ratio_eq_iff : ∀ (one other : Int16) (size size' : UInt16),
    size ≠ 0 → size' ≠ 0 →
      ((F64Screen.ratio one size : F) = F64Screen.ratio other size' ↔
        one.toInt * size'.toNat = other.toInt * size.toNat)
  lengthRatio_eq_iff : ∀ one other size size' : UInt16,
    size ≠ 0 → size' ≠ 0 →
      ((F64Screen.lengthRatio one size : F) =
          F64Screen.lengthRatio other size' ↔
        one.toNat * size'.toNat = other.toNat * size.toNat)

theorem cast_toNat_ne_zero {size : UInt16} (nonzero : size ≠ 0) :
    (size.toNat : ℚ) ≠ 0 := by
  rw [Nat.cast_ne_zero]
  intro isZero
  exact nonzero (UInt16.toNat_inj.mp isZero)

instance lawfulRatioRat : LawfulRatio ℚ where
  ratio_eq_iff one other size size' nonzero nonzero' := by
    change (one.toInt : ℚ) / (size.toNat : ℚ) =
      (other.toInt : ℚ) / (size'.toNat : ℚ) ↔ _
    rw [div_eq_div_iff (cast_toNat_ne_zero nonzero)
      (cast_toNat_ne_zero nonzero')]
    exact_mod_cast Iff.rfl
  lengthRatio_eq_iff one other size size' nonzero nonzero' := by
    change (one.toNat : ℚ) / (size.toNat : ℚ) =
      (other.toNat : ℚ) / (size'.toNat : ℚ) ↔ _
    rw [div_eq_div_iff (cast_toNat_ne_zero nonzero)
      (cast_toNat_ne_zero nonzero')]
    exact_mod_cast Iff.rfl

namespace X11

/-- A size of a screen or a window, which X never lets be zero. -/
structure Size where
  width : UInt16
  height : UInt16
  width_ne_zero : width ≠ 0
  height_ne_zero : height ≠ 0

/-- A rectangle of the root window. -/
structure Area where
  x : Int16
  y : Int16
  size : Size

/-- `xproto::Window` and `xproto::Atom`. -/
abbrev Window := UInt32

abbrev Atom := UInt32

structure MonitorInfo where
  name : Atom
  area : Area

/-- What the X server answers: the size of the root window, the monitors
unless RandR fails, the area of every window there is, the active window. -/
structure XServer where
  root : Size
  monitors : Option (List MonitorInfo)
  windows : Window → Option Area
  activeWindow : Option Window

inductive CaptureTarget where
  | window (win : Window) (isRegularWindow : Bool)
  | rect (area : Area) (monitor : Atom)

/-- `screen` is the size of the screen in the connection setup. -/
structure X11Connection where
  screen : Size
  root : Window

structure X11Capturable where
  target : CaptureTarget
  name : String
  conn : X11Connection

structure CError where
  code : Int
  message : String
  deriving DecidableEq

/-- `get_geometry` and `translate_coordinates` to the root window. -/
def XServer.areaOf (server : XServer) (root win : Window) : Option Area :=
  if win = root then some ⟨0, 0, server.root⟩ else server.windows win

/-- `get_target_geometry`; the texts of X errors are left out. -/
def getTargetGeometry (server : XServer) (root : Window) :
    CaptureTarget → Except CError Area
  | .window win _ =>
      match server.areaOf root win with
      | some area => .ok area
      | none => .error ⟨1, "Failed to get window geometry: "⟩
  | .rect _ monitor =>
      match server.monitors with
      | none => .error ⟨1, "randr_get_monitors failed: "⟩
      | some monitors =>
          match monitors.find? fun info => info.name == monitor with
          | some info => .ok info.area
          | none =>
              .error ⟨1, "Monitor is no longer present " ++
                "(unplugged or RandR layout changed)"⟩

variable {F : Type*} [F64Screen F]

/-- An area in proportion to a screen. -/
def Area.relativeTo (area : Area) (screen : Size) : Rect F where
  x := F64Screen.ratio area.x screen.width
  y := F64Screen.ratio area.y screen.height
  w := F64Screen.lengthRatio area.size.width screen.width
  h := F64Screen.lengthRatio area.size.height screen.height

/-- `X11Capturable::geometry`; `none` when the X server has an error. -/
def X11Capturable.geometry (capturable : X11Capturable) (server : XServer) :
    Option (Rect F) :=
  match capturable.target with
  | .window win _ =>
      (server.areaOf capturable.conn.root win).map fun area =>
        area.relativeTo capturable.conn.screen
  | .rect area _ => some (area.relativeTo capturable.conn.screen)

/-- What `capture` copies the image from. -/
inductive ImageSource where
  | root (x y : Int16)
  | window (win : Window)
  | pixmap (win : Window)

structure RecorderX11 where
  capturable : X11Capturable
  captureCursor : Bool
  hasXfixes : Bool
  hasComposite : Bool
  isWayland : Bool
  shmCapacity : Nat
  width : UInt16
  height : UInt16
  lastCaptureOk : Bool

/-- How the operations of a call of `capture` end: growing the shared memory
and copying the image. -/
structure CaptureIo where
  grow : Except CError Unit
  image : ImageSource → Bool

/-- A captured image: the target rectangle, the source, and the size of the
`BGR0` pixels. -/
structure CapturedImage where
  target : Area
  source : ImageSource
  width : UInt16
  height : UInt16
  withCursor : Bool

namespace RecorderX11

def ensureShmCapacity (recorder : RecorderX11) (size : Size)
    (grow : Except CError Unit) : Except CError RecorderX11 :=
  let needed := size.width.toNat * size.height.toNat * 4
  if needed ≤ recorder.shmCapacity then
    .ok { recorder with width := size.width, height := size.height }
  else
    grow.map fun _ =>
      { recorder with
        shmCapacity := needed
        width := size.width
        height := size.height }

/-- A regular window sticks out of the screen. -/
def isOffscreen (screen : Size) (area : Area) : Bool :=
  area.x < 0 || area.y < 0 ||
    (screen.width.toNat : Int) < area.x.toInt + area.size.width.toNat ||
    (screen.height.toNat : Int) < area.y.toInt + area.size.height.toNat

/-- Where the image is copied from; an offscreen window needs Composite. -/
def imageSource (recorder : RecorderX11) (server : XServer) (area : Area) :
    Option ImageSource :=
  match recorder.capturable.target with
  | .rect _ _ => some (.root area.x area.y)
  | .window win isRegularWindow =>
      let offscreen := isRegularWindow &&
        isOffscreen recorder.capturable.conn.screen area
      if offscreen then
        if recorder.hasComposite then some (.pixmap win) else none
      else if !recorder.isWayland && server.activeWindow == some win then
        some (.root area.x area.y)
      else
        some (.window win)

/-- The recorder after the call, and what the call returns. -/
def capture (recorder : RecorderX11) (server : XServer) (io : CaptureIo) :
    RecorderX11 × Except CError CapturedImage :=
  match getTargetGeometry server recorder.capturable.conn.root
      recorder.capturable.target with
  | .error error => (recorder, .error error)
  | .ok area =>
      let resized :=
        if area.size.width ≠ recorder.width ∨
            area.size.height ≠ recorder.height then
          recorder.ensureShmCapacity area.size io.grow
        else
          .ok recorder
      match resized with
      | .error error => (recorder, .error error)
      | .ok recorder =>
          match (recorder.imageSource server area).filter io.image with
          | none =>
              ({ recorder with lastCaptureOk := false },
                .error ⟨if recorder.lastCaptureOk then 1 else 2,
                  "XShmGetImage failed!"⟩)
          | some source =>
              ({ recorder with lastCaptureOk := true },
                .ok ⟨area, source, recorder.width, recorder.height,
                  recorder.captureCursor && recorder.hasXfixes⟩)

end RecorderX11

/-- The X server and a recorder of one of its targets. -/
structure Recording where
  server : XServer
  recorder : RecorderX11

/-- The layout changes, by RandR or by moving windows, or a frame is
captured. -/
inductive RecordingStep where
  | change (server : XServer)
  | capture (io : CaptureIo)

namespace Recording

def step (state : Recording) : RecordingStep → Option Recording
  | .change server => some { state with server := server }
  | .capture io => some { state with
      recorder := (state.recorder.capture state.server io).1 }

/-- A captured frame shows the rectangle that pointers are mapped to. -/
def SameRectangle (F : Type*) [F64Screen F] (state : Recording) :
    RecordingStep → Prop
  | .change _ => True
  | .capture io => ∀ image,
      (state.recorder.capture state.server io).2 = .ok image →
        state.recorder.capturable.geometry state.server =
          some (image.target.relativeTo state.server.root : Rect F)

end Recording

/-- Two areas take the same part of their screens. -/
def Proportional (one : Area) (screen : Size) (other : Area)
    (screen' : Size) : Prop :=
  one.x.toInt * screen'.width.toNat = other.x.toInt * screen.width.toNat ∧
  one.y.toInt * screen'.height.toNat = other.y.toInt * screen.height.toNat ∧
  one.size.width.toNat * screen'.width.toNat =
    other.size.width.toNat * screen.width.toNat ∧
  one.size.height.toNat * screen'.height.toNat =
    other.size.height.toNat * screen.height.toNat

/-- When a frame is captured, a window finds the root window as large as it
was when the connection was set up; a monitor finds itself in the same part of
the root window as when it was enumerated. -/
def Recording.InProportion (state : Recording) : RecordingStep → Prop
  | .change _ => True
  | .capture io =>
      let conn := state.recorder.capturable.conn
      (∃ image, (state.recorder.capture state.server io).2 = .ok image) →
        match state.recorder.capturable.target with
        | .window _ _ => state.server.root.width = conn.screen.width ∧
            state.server.root.height = conn.screen.height
        | .rect area monitor => ∀ live,
            getTargetGeometry state.server conn.root (.rect area monitor) =
              .ok live →
            Proportional area conn.screen live state.server.root

theorem relativeTo_eq_iff [LawfulRatio F] (one : Area) (screen : Size)
    (other : Area) (screen' : Size) :
    (one.relativeTo screen : Rect F) = other.relativeTo screen' ↔
      Proportional one screen other screen' := by
  simp only [Area.relativeTo, Rect.mk.injEq, Proportional]
  rw [LawfulRatio.ratio_eq_iff _ _ _ _ screen.width_ne_zero
      screen'.width_ne_zero,
    LawfulRatio.ratio_eq_iff _ _ _ _ screen.height_ne_zero
      screen'.height_ne_zero,
    LawfulRatio.lengthRatio_eq_iff _ _ _ _ screen.width_ne_zero
      screen'.width_ne_zero,
    LawfulRatio.lengthRatio_eq_iff _ _ _ _ screen.height_ne_zero
      screen'.height_ne_zero]

/-- One area takes the same part of two screens only if they are equally
large. -/
theorem proportional_self_iff (area : Area) (screen screen' : Size) :
    Proportional area screen area screen' ↔
      screen'.width = screen.width ∧ screen'.height = screen.height := by
  have positive {size : UInt16} (nonzero : size ≠ 0) : 0 < size.toNat := by
    apply Nat.pos_of_ne_zero
    intro isZero
    exact nonzero (UInt16.toNat_inj.mp isZero)
  constructor
  · rintro ⟨-, -, width, height⟩
    exact ⟨UInt16.toNat_inj.mp
        (Nat.eq_of_mul_eq_mul_left (positive area.size.width_ne_zero) width),
      UInt16.toNat_inj.mp
        (Nat.eq_of_mul_eq_mul_left (positive area.size.height_ne_zero)
          height)⟩
  · rintro ⟨width, height⟩
    simp [Proportional, width, height]

theorem RecorderX11.ensureShmCapacity_spec {recorder after : RecorderX11}
    {size : Size} {grow : Except CError Unit}
    (grown : recorder.ensureShmCapacity size grow = .ok after) :
    after.width = size.width ∧ after.height = size.height := by
  unfold ensureShmCapacity at grown
  dsimp only at grown
  split_ifs at grown
  · cases grown
    exact ⟨rfl, rfl⟩
  · cases grow <;> cases grown
    exact ⟨rfl, rfl⟩

/-- A frame has the size of the rectangle the X server gives. -/
theorem RecorderX11.capture_spec {recorder : RecorderX11} {server : XServer}
    {io : CaptureIo} {image : CapturedImage}
    (captured : (recorder.capture server io).2 = .ok image) :
    getTargetGeometry server recorder.capturable.conn.root
        recorder.capturable.target = .ok image.target ∧
      image.width = image.target.size.width ∧
      image.height = image.target.size.height := by
  unfold capture at captured
  cases queried : getTargetGeometry server recorder.capturable.conn.root
      recorder.capturable.target with
  | error error =>
      rw [queried] at captured
      cases captured
  | ok area =>
      rw [queried] at captured
      have fits : ∀ after, (if area.size.width ≠ recorder.width ∨
            area.size.height ≠ recorder.height then
          recorder.ensureShmCapacity area.size io.grow
        else .ok recorder) = .ok after →
          after.width = area.size.width ∧ after.height = area.size.height := by
        intro after resized
        split_ifs at resized with changed
        · exact ensureShmCapacity_spec resized
        · cases resized
          push Not at changed
          exact ⟨changed.1.symm, changed.2.symm⟩
      dsimp only at captured
      split at captured
      · cases captured
      · rename_i after resized
        split at captured
        · cases captured
        · cases captured
          exact ⟨rfl, fits after resized⟩

theorem areaOf_of_getTargetGeometry {server : XServer} {root win : Window}
    {isRegularWindow : Bool} {area : Area}
    (queried : getTargetGeometry server root (.window win isRegularWindow) =
      .ok area) : server.areaOf root win = some area := by
  unfold getTargetGeometry at queried
  cases found : server.areaOf root win with
  | none => simp [found] at queried
  | some area' =>
      simp only [found, Except.ok.injEq] at queried
      rw [queried]

theorem sameRectangle_iff_inProportion [LawfulRatio F] (state : Recording)
    (label : RecordingStep) :
    state.SameRectangle F label ↔ state.InProportion label := by
  cases label with
  | change server => exact Iff.rfl
  | capture io =>
      have spec {image : CapturedImage}
          (captured : (state.recorder.capture state.server io).2 =
            .ok image) :=
        (RecorderX11.capture_spec captured).1
      simp only [Recording.SameRectangle, Recording.InProportion,
        X11Capturable.geometry]
      generalize state.recorder.capturable.conn = conn at *
      generalize state.recorder.capturable.target = target at *
      cases target with
      | window win isRegularWindow =>
          dsimp only
          have sameIff (area : Area) :
              (some (area.relativeTo conn.screen : Rect F) =
                some (area.relativeTo state.server.root)) ↔
              state.server.root.width = conn.screen.width ∧
                state.server.root.height = conn.screen.height := by
            rw [Option.some_inj, relativeTo_eq_iff, proportional_self_iff]
          constructor
          · rintro same ⟨image, captured⟩
            have placed := same image captured
            rw [areaOf_of_getTargetGeometry (spec captured),
              Option.map_some] at placed
            exact (sameIff image.target).mp placed
          · intro unchanged image captured
            rw [areaOf_of_getTargetGeometry (spec captured), Option.map_some]
            exact (sameIff image.target).mpr (unchanged ⟨image, captured⟩)
      | rect area monitor =>
          dsimp only
          constructor
          · rintro same ⟨image, captured⟩ live isLive
            rw [spec captured] at isLive
            cases isLive
            exact (relativeTo_eq_iff _ _ _ _).mp
              (Option.some.inj (same image captured))
          · intro proportional image captured
            rw [Option.some_inj, relativeTo_eq_iff]
            exact proportional ⟨image, captured⟩ _ (spec captured)

/-- Along every sequence of layout changes and captures, captured frames show
the rectangle that pointers are mapped to if and only if each finds the
target in the proportions that `geometry` assumes. -/
theorem sameRectangle_along_iff [LawfulRatio F] {state : Recording}
    (execution : Transition.Execution Recording.step state) :
    execution.StepsMeet (Recording.SameRectangle F) ↔
      execution.StepsMeet Recording.InProportion :=
  execution.stepsMeet_congr fun before label _ _ _ =>
    sameRectangle_iff_inProportion before label

/-! ### A monitor that moves -/

/-- A screen of 1920 by 1080, and two of them side by side. -/
def fullHd : Size := ⟨1920, 1080, by decide, by decide⟩

def twoFullHd : Size := ⟨3840, 1080, by decide, by decide⟩

/-- A server on which the second monitor, number 7, is where `x` says. -/
def serverWithMonitor (root : Size) (x : Int16) : XServer where
  root := root
  monitors := some [⟨7, ⟨x, 0, fullHd⟩⟩]
  windows := fun _ => none
  activeWindow := none

/-- A recorder of that monitor, enumerated beside the first one. -/
def secondMonitor : Recording where
  server := serverWithMonitor twoFullHd 1920
  recorder :=
    { capturable := ⟨.rect ⟨1920, 0, fullHd⟩ 7, "Monitor: HDMI-1",
        ⟨twoFullHd, 1⟩⟩
      captureCursor := false
      hasXfixes := false
      hasComposite := false
      isWayland := false
      shmCapacity := 8294400
      width := 1920
      height := 1080
      lastCaptureOk := true }

def succeeding : CaptureIo := ⟨.ok (), fun _ => true⟩

/-- Both monitors in half their resolution. -/
def halvedServer : XServer :=
  { serverWithMonitor twoFullHd 1920 with
    root := ⟨1920, 540, by decide, by decide⟩
    monitors := some [⟨7, ⟨960, 0, ⟨960, 540, by decide, by decide⟩⟩⟩] }

/-- A frame is captured in the layout of the enumeration, and one when both
monitors have changed alike. -/
def unmoved : Transition.Execution Recording.step secondMonitor where
  labels := [.capture succeeding, .change halvedServer, .capture succeeding]
  final := _
  runs := rfl

/-- The first monitor is unplugged before a frame is captured. -/
def unplugged : Transition.Execution Recording.step secondMonitor where
  labels := [.change (serverWithMonitor fullHd 0), .capture succeeding]
  final := _
  runs := rfl

theorem sameRectangle_along_iff_unmoved :
    unmoved.StepsMeet (Recording.SameRectangle ℚ) := by
  apply (sameRectangle_along_iff unmoved).mpr
  refine unmoved.stepsMeet_of_meetsFrom ⟨?_, ?_⟩
  · rintro - live ⟨⟩
    exact ⟨rfl, rfl, rfl, rfl⟩
  · rintro _ ⟨⟩
    refine ⟨trivial, ?_⟩
    rintro _ ⟨⟩
    refine ⟨?_, fun _ _ => trivial⟩
    rintro - live ⟨⟩
    exact ⟨rfl, rfl, rfl, rfl⟩

theorem not_sameRectangle_unplugged :
    ¬ ∀ (state : Recording)
        (execution : Transition.Execution Recording.step state),
      execution.StepsMeet (Recording.SameRectangle ℚ) := by
  intro holds
  have same := holds secondMonitor unplugged [_] _ [] _ rfl rfl _ rfl
  have places := (relativeTo_eq_iff _ _ _ _).mp (Option.some.inj same)
  -- geometry still says that it starts in the middle of the screen
  exact absurd places.1 (by decide)

end X11

end Rylus
