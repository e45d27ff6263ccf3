import Mathlib.Data.List.Induction
import Mathlib.Order.Nat
import Rylus.Protocol

/-!
# The list of capturables in the browser

`Settings` shows the names of the capturables in a `<select>` and sends the
value of the selected option with every `Config`.  The elements of the page
are modelled by their options and the one that is selected.
-/

namespace Rylus

structure SelectOption where
  value : String
  textContent : String
  deriving DecidableEq

/-- A `<select>` of which at most one option is selected. -/
structure SelectElement where
  options : List SelectOption
  selectedIndex : Option Nat
  selected_lt : ∀ index ∈ selectedIndex, index < options.length

/-- What is left of a text that is assigned to `innerText`: line breaks become
elements. -/
def innerText (text : String) : String :=
  String.ofList
    (text.toList.filter fun char => char ≠ '\n' ∧ char ≠ '\r')

/-- `Number` of a sequence of digits, the empty one included; `none` for any
other text. -/
def numberOf (text : String) : Option Nat :=
  if text.toList.all Char.isDigit then
    some (Nat.ofDigitChars 10 text.toList 0)
  else
    none

@[simp]
theorem numberOf_repr (number : Nat) :
    numberOf (Nat.repr number) = some number := by
  have digits : (Nat.toDigits 10 number).all Char.isDigit = true := by
    rw [List.all_eq_true]
    exact fun char isDigit =>
      Nat.isDigit_of_mem_toDigits (by decide) (by decide) isDigit
  simp only [numberOf, Nat.toList_repr, digits, if_true,
    Nat.ofDigitChars_ten_toDigits]

namespace SelectElement

/-- `select.innerText = ""`. -/
def empty : SelectElement := ⟨[], none, by simp⟩

/-- The first option of a `<select>` is selected by itself. -/
def appendChild (select : SelectElement) (child : SelectOption) :
    SelectElement where
  options := select.options ++ [child]
  selectedIndex := some (select.selectedIndex.getD 0)
  selected_lt := by
    rintro _ ⟨⟩
    cases selected : select.selectedIndex with
    | none => simp
    | some index =>
        have := select.selected_lt index selected
        simp
        omega

/-- `select.value = value`: the first option with that value, or none. -/
def setValue (select : SelectElement) (value : String) : SelectElement where
  options := select.options
  selectedIndex := select.options.findIdx? (·.value = value)
  selected_lt := by
    intro index found
    exact (List.findIdx?_eq_some_iff_getElem.mp found).1

/-- The user picks an option. -/
def pick (select : SelectElement) (index : Nat) : SelectElement :=
  if inside : index < select.options.length then
    ⟨select.options, some index, by rintro _ ⟨⟩; exact inside⟩
  else
    select

/-- `select.selectedOptions[0]`. -/
def selectedOption (select : SelectElement) : Option SelectOption :=
  select.selectedIndex.bind (select.options[·]?)

/-- `select.value`. -/
def value (select : SelectElement) : String :=
  match select.selectedOption with
  | some option => option.value
  | none => ""

end SelectElement

namespace SelectElement

variable {select : SelectElement} {names : List String}

/-- The options are those for a list of names. -/
def Shows (select : SelectElement) (names : List String) : Prop :=
  select.options = names.zipIdx.map
    fun named => ⟨Nat.repr named.2, innerText named.1⟩

theorem Shows.getElem? (isShown : select.Shows names) (index : Nat) :
    select.options[index]? =
      names[index]?.map fun name => ⟨Nat.repr index, innerText name⟩ := by
  rw [isShown]
  simp [Function.comp_def]

theorem Shows.length (isShown : select.Shows names) :
    select.options.length = names.length := by
  rw [isShown]
  simp

theorem Shows.pick (isShown : select.Shows names) (index : Nat) :
    (select.pick index).Shows names := by
  unfold SelectElement.pick
  split <;> exact isShown

/-- The value read back as a number is the index selected, or zero. -/
theorem Shows.numberOf_value (isShown : select.Shows names) :
    numberOf select.value = some (select.selectedIndex.getD 0) := by
  unfold value selectedOption
  cases selected : select.selectedIndex with
  | none => simp [numberOf]
  | some index =>
      have inside : index < names.length := by
        rw [← isShown.length]
        exact select.selected_lt index selected
      simp [isShown.getElem?, List.getElem?_eq_getElem inside]

theorem Shows.getD_lt (isShown : select.Shows names) (nonempty : names ≠ []) :
    select.selectedIndex.getD 0 < names.length := by
  have positive : 0 < names.length := List.length_pos_iff.mpr nonempty
  cases selected : select.selectedIndex with
  | none => exact positive
  | some index =>
      rw [← isShown.length]
      exact select.selected_lt index selected

/-- Assigning the value of an option selects it. -/
theorem Shows.setValue_repr (isShown : select.Shows names) {index : Nat}
    (inside : index < names.length) :
    (select.setValue (Nat.repr index)).selectedIndex = some index := by
  simp only [setValue]
  rw [List.findIdx?_eq_some_iff_getElem]
  refine ⟨by rwa [isShown.length], ?_, ?_⟩
  · have found := isShown.getElem? index
    rw [List.getElem?_eq_getElem inside] at found
    obtain ⟨_, isOption⟩ := List.getElem?_eq_some_iff.mp found
    simp [isOption]
  · intro before earlier
    have found := isShown.getElem? before
    rw [List.getElem?_eq_getElem (earlier.trans inside)] at found
    obtain ⟨_, isOption⟩ := List.getElem?_eq_some_iff.mp found
    have different : Nat.repr before ≠ Nat.repr index := by
      intro same
      have digits := congrArg String.toList same
      rw [Nat.toList_repr, Nat.toList_repr] at digits
      have equal := congrArg (Nat.ofDigitChars 10 · 0) digits
      simp only [Nat.ofDigitChars_ten_toDigits] at equal
      exact absurd equal (Nat.ne_of_lt earlier)
    simpa [isOption] using different

/-- No option has the value `""`. -/
theorem Shows.setValue_empty (isShown : select.Shows names) :
    (select.setValue "").selectedIndex = none := by
  simp only [setValue]
  rw [List.findIdx?_eq_none_iff]
  intro option member
  rw [isShown] at member
  obtain ⟨named, -, rfl⟩ := List.mem_map.mp member
  simp

end SelectElement

/-- The configuration as the browser sends it.  An id that is not a number
becomes `null`. -/
structure ServerConfig (Number : Type*) where
  capturableId : Option Nat
  uinputSupport : Bool
  captureCursor : Bool
  maxWidth : UInt64
  maxHeight : UInt64
  frameRate : Number
  clientName : Option String
  deriving DecidableEq

/-- What the server makes of it: the id has to be a `usize`. -/
def ServerConfig.parse {Number : Type*} (config : ServerConfig Number) :
    Option (ClientConfiguration Number) :=
  match config.capturableId with
  | some id =>
      if id < UInt64.size then
        some
          { uinputSupport := config.uinputSupport
            capturableId := UInt64.ofNat id
            captureCursor := config.captureCursor
            maxWidth := config.maxWidth
            maxHeight := config.maxHeight
            clientName := config.clientName
            frameRate := config.frameRate }
      else
        none
  | none => none

theorem ServerConfig.capturableId_of_parse {Number : Type*}
    {config : ServerConfig Number} {parsed : ClientConfiguration Number}
    (isParsed : config.parse = some parsed) :
    config.capturableId = some parsed.capturableId.toNat := by
  unfold ServerConfig.parse at isParsed
  split at isParsed
  · rename_i id isId
    split at isParsed
    · rename_i fits
      cases isParsed
      rw [isId, UInt64.toNat_ofNat_of_lt' fits]
    · cases isParsed
  · cases isParsed

/-- The settings that go into a `Config`. -/
structure Settings (Number : Type*) where
  capturableSelect : SelectElement
  uinputSupport : Bool
  captureCursor : Bool
  maxWidth : UInt64
  maxHeight : UInt64
  frameRate : Number
  clientName : String

namespace Settings

variable {Number : Type*}

/-- `send_server_config`; without options nothing is sent. -/
def sendServerConfig (settings : Settings Number) :
    Option (ServerConfig Number) :=
  if settings.capturableSelect.options.length = 0 then
    none
  else
    some
      { capturableId := numberOf settings.capturableSelect.value
        uinputSupport := settings.uinputSupport
        captureCursor := settings.captureCursor
        maxWidth := settings.maxWidth
        maxHeight := settings.maxHeight
        frameRate := settings.frameRate
        clientName :=
          if settings.clientName ≠ "" then some settings.clientName else none }

/-- The body of the loop of `onCapturableList`: a new option, and its index if
the name is the current selection. -/
def showName (currentSelection : Option String)
    (shown : SelectElement × Option Nat) (named : String × Nat) :
    SelectElement × Option Nat :=
  (shown.1.appendChild ⟨Nat.repr named.2, innerText named.1⟩,
    if some named.1 = currentSelection then some named.2 else shown.2)

def showNames (currentSelection : Option String) (windowNames : List String) :
    SelectElement × Option Nat :=
  windowNames.zipIdx.foldl (showName currentSelection) (.empty, none)

/-- `onCapturableList` with the `Config` it sends, if any. -/
def onCapturableList (settings : Settings Number)
    (windowNames : List String) :
    Settings Number × Option (ServerConfig Number) :=
  let currentSelection :=
    settings.capturableSelect.selectedOption.map (·.textContent)
  let (select, newIndex) := showNames currentSelection windowNames
  let select :=
    match newIndex, currentSelection with
    | some index, _ => select.setValue (Nat.repr index)
    | none, some text =>
        -- the window is gone, so nothing is to be selected
        if text ≠ "" then select.setValue "" else select
    | none, none => select
  let settings := { settings with capturableSelect := select }
  if 0 < windowNames.length then
    (settings, settings.sendServerConfig)
  else
    (settings, none)

theorem showNames_concat (currentSelection : Option String)
    (names : List String) (name : String) :
    showNames currentSelection (names ++ [name]) =
      showName currentSelection (showNames currentSelection names)
        (name, names.length) := by
  simp [showNames, List.zipIdx_append]

/-- The options after the loop; the first is selected by itself. -/
theorem showNames_select (currentSelection : Option String)
    (windowNames : List String) :
    (showNames currentSelection windowNames).1.Shows windowNames ∧
      (showNames currentSelection windowNames).1.selectedIndex =
        (if windowNames.length = 0 then none else some 0) := by
  induction windowNames using List.reverseRecOn with
  | nil => exact ⟨rfl, rfl⟩
  | append_singleton names name ih =>
      obtain ⟨options, selected⟩ := ih
      unfold SelectElement.Shows at options ⊢
      simp only [showNames_concat, showName, SelectElement.appendChild,
        options, selected]
      constructor
      · simp [List.zipIdx_append]
      · by_cases isFirst : names.length = 0 <;> simp [isFirst]

/-- The index kept is one of the current selection, if there is any. -/
theorem showNames_newIndex (currentSelection : Option String)
    (windowNames : List String) :
    (∃ index text, (showNames currentSelection windowNames).2 = some index ∧
        currentSelection = some text ∧ windowNames[index]? = some text) ∨
      (showNames currentSelection windowNames).2 = none ∧
        ∀ text, currentSelection = some text → text ∉ windowNames := by
  induction windowNames using List.reverseRecOn with
  | nil => exact .inr ⟨rfl, by simp⟩
  | append_singleton names name ih =>
      simp only [showNames_concat, showName]
      by_cases isCurrent : some name = currentSelection
      · left
        exact ⟨names.length, name, by simp [isCurrent], isCurrent.symm,
          by simp⟩
      · simp only [isCurrent, if_false]
        rcases ih with ⟨index, text, found, current, named⟩ | ⟨none_, missing⟩
        · left
          refine ⟨index, text, found, current, ?_⟩
          have inside : index < names.length :=
            (List.getElem?_eq_some_iff.mp named).1
          rw [List.getElem?_append_left inside]
          exact named
        · right
          refine ⟨none_, fun text current member => ?_⟩
          rcases List.mem_append.mp member with before | last
          · exact missing text current before
          · cases List.mem_singleton.mp last
            exact isCurrent current.symm

/-- `send_server_config` sends the index selected, or zero. -/
theorem sendServerConfig_capturableId {settings : Settings Number}
    {names : List String} (isShown : settings.capturableSelect.Shows names)
    (nonempty : names ≠ []) :
    ∃ config, settings.sendServerConfig = some config ∧ config.capturableId =
      some (settings.capturableSelect.selectedIndex.getD 0) := by
  have length : settings.capturableSelect.options.length ≠ 0 := by
    rw [isShown.length]
    simpa using nonempty
  exact ⟨_, if_neg length, isShown.numberOf_value⟩

/-- The text of the selected option. -/
def selectedText (settings : Settings Number) : Option String :=
  settings.capturableSelect.selectedOption.map (·.textContent)

/-- The option selected in the new list: one with the text of the old one, or
none if that is gone; without a text the first remains selected. -/
theorem onCapturableList_select (settings : Settings Number)
    (windowNames : List String) :
    (settings.onCapturableList windowNames).1.capturableSelect.Shows
        windowNames ∧
      ((∃ index text, settings.selectedText = some text ∧
          windowNames[index]? = some text ∧
          (settings.onCapturableList
            windowNames).1.capturableSelect.selectedIndex = some index) ∨
        (∀ text, settings.selectedText = some text → text ∉ windowNames) ∧
          (settings.onCapturableList
            windowNames).1.capturableSelect.selectedIndex =
              if settings.selectedText.getD "" = "" ∧ windowNames ≠ [] then
                some 0
              else none) := by
  obtain ⟨shown, selected⟩ :=
    showNames_select settings.selectedText windowNames
  unfold selectedText at shown selected ⊢
  rcases showNames_newIndex
      (settings.capturableSelect.selectedOption.map (·.textContent))
      windowNames with ⟨index, text, found, current, named⟩ | ⟨none_, missing⟩
  · have inside : index < windowNames.length :=
      (List.getElem?_eq_some_iff.mp named).1
    simp only [onCapturableList, found, apply_ite Prod.fst, ite_self]
    exact ⟨shown, .inl ⟨index, text, current, named,
      shown.setValue_repr inside⟩⟩
  · cases current :
      settings.capturableSelect.selectedOption.map (·.textContent) with
    | none =>
        rw [current] at shown selected none_
        simp only [onCapturableList, current, none_, apply_ite Prod.fst,
          ite_self]
        refine ⟨shown, .inr ⟨by simp, ?_⟩⟩
        rw [selected]
        by_cases isEmpty : windowNames = [] <;> simp [isEmpty]
    | some text =>
        rw [current] at shown selected none_ missing
        simp only [onCapturableList, current, none_, apply_ite Prod.fst,
          ite_self]
        by_cases isText : text = ""
        · simp only [isText, ne_eq, not_true_eq_false, if_false]
          rw [isText] at shown selected missing
          refine ⟨shown, .inr ⟨missing, ?_⟩⟩
          rw [selected]
          by_cases isEmpty : windowNames = [] <;> simp [isEmpty]
        · simp only [ne_eq, isText, not_false_eq_true, if_true]
          refine ⟨shown, .inr ⟨missing, ?_⟩⟩
          rw [shown.setValue_empty]
          simp [isText]

/-- What is sent then. -/
theorem onCapturableList_sent (settings : Settings Number)
    (windowNames : List String) :
    (settings.onCapturableList windowNames).2 =
      if windowNames = [] then none
      else (settings.onCapturableList windowNames).1.sendServerConfig := by
  cases windowNames with
  | nil => rfl
  | cons name names => simp [onCapturableList]

/-- The `Config` sent, if any, asks for the capturable with the name that was
selected; without such a capturable it asks for none. -/
def KeepsSource (name : String) (windowNames : List String)
    (sent : Option (ServerConfig Number)) : Prop :=
  (∃ config ∈ sent, ∃ id, config.capturableId = some id ∧
      windowNames[id]? = some name) ∨
    name ∉ windowNames ∧ ∀ config ∈ sent, ∀ id,
      config.capturableId = some id → ∀ other,
        windowNames[id]? = some other → other = name

/-- A `Config` that names a capturable of the list keeps the source only if
it names the one with the name that was selected. -/
theorem keepsSource_some_iff {name : String} {windowNames : List String}
    {config : ServerConfig Number} {id : Nat}
    (asks : config.capturableId = some id)
    (inside : id < windowNames.length) :
    KeepsSource name windowNames (some config) ↔
      windowNames[id]? = some name := by
  constructor
  · rintro (⟨_, ⟨⟩, other, isId, named⟩ | ⟨missing, keeps⟩)
    · rw [asks] at isId
      cases isId
      exact named
    · have isOther := List.getElem?_eq_getElem inside
      have same := keeps config rfl id asks windowNames[id] isOther
      exact absurd (same ▸ List.getElem_mem inside) missing
  · exact fun named => .inl ⟨config, rfl, id, asks, named⟩

/-- A refresh of the list keeps the source exactly if nothing is listed, or
the text of the selected option is listed and is its name, or it is not and
the first name happens to be the one selected. -/
theorem keepsSource_iff (settings : Settings Number) {name : String}
    (selected : settings.selectedText = some (innerText name))
    (windowNames : List String) :
    KeepsSource name windowNames (settings.onCapturableList windowNames).2 ↔
      windowNames = [] ∨
        (if innerText name ∈ windowNames then innerText name = name
          else windowNames.head? = some name) := by
  rw [onCapturableList_sent]
  by_cases isEmpty : windowNames = []
  · subst isEmpty
    simp [KeepsSource]
  · obtain ⟨shown, selection⟩ := settings.onCapturableList_select windowNames
    obtain ⟨config, sends, id⟩ := sendServerConfig_capturableId shown isEmpty
    simp only [isEmpty, if_false, false_or, sends]
    rw [keepsSource_some_iff id (shown.getD_lt isEmpty)]
    rcases selection with ⟨index, text, current, named, isSelected⟩ |
      ⟨missing, isSelected⟩
    · have isText : innerText name = text := by
        simpa [selected] using current
      have listed : innerText name ∈ windowNames := by
        rw [isText]
        exact List.mem_of_getElem? named
      rw [isText] at listed ⊢
      simp [isSelected, named, listed]
    · have notListed : innerText name ∉ windowNames :=
        missing (innerText name) selected
      have first : (settings.onCapturableList
          windowNames).1.capturableSelect.selectedIndex.getD 0 = 0 := by
        rw [isSelected]
        split <;> rfl
      simp [first, notListed, List.head?_eq_getElem?]

/-- Of a desktop and a browser window the window is selected. -/
def browserSelected : Settings Unit where
  capturableSelect := (showNames none ["Desktop", "Browser"]).1.pick 1
  uinputSupport := true
  captureCursor := true
  maxWidth := 1920
  maxHeight := 1080
  frameRate := ()
  clientName := ""

theorem browserSelected_selectedText :
    browserSelected.selectedText = some (innerText "Browser") := by
  decide

/-- The window moves in the list. -/
theorem keepsSource_iff_browser_moved :
    KeepsSource "Browser" ["Browser", "Desktop"]
        (browserSelected.onCapturableList ["Browser", "Desktop"]).2 ↔
      ["Browser", "Desktop"] = [] ∨
        (if innerText "Browser" ∈ ["Browser", "Desktop"] then
          innerText "Browser" = "Browser"
        else ["Browser", "Desktop"].head? = some "Browser") :=
  keepsSource_iff browserSelected browserSelected_selectedText _

/-- The window is closed, and the desktop is captured in its place. -/
theorem not_keepsSource_browser_closed :
    browserSelected.selectedText = some (innerText "Browser") ∧
      ¬ KeepsSource "Browser" ["Desktop"]
        (browserSelected.onCapturableList ["Desktop"]).2 := by
  refine ⟨browserSelected_selectedText, ?_⟩
  have sends : (browserSelected.onCapturableList ["Desktop"]).2 = some
      { capturableId := some 0
        uinputSupport := true
        captureCursor := true
        maxWidth := 1920
        maxHeight := 1080
        frameRate := ()
        clientName := none } := by
    decide
  rw [sends, keepsSource_some_iff rfl (by decide)]
  simp

end Settings

end Rylus
