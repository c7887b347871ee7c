import BuildWatch.Proofs.Terminal.Sections

namespace BuildWatch.Terminal

variable {colored : Bool} {log : SelectedLog}

/-! ## Cutting bytes

The rest of a log is found by comparing bytes and is cut off after so many bytes, which only works
between two characters. -/

def Begins (start text : String) : Prop :=
  text.toByteArray.extract 0 start.utf8ByteSize = start.toByteArray

instance (start text : String) : Decidable (Begins start text) :=
  inferInstanceAs (Decidable (_ = _))

def tail? (text : String) (start : Nat) : Option String :=
  if boundary : String.Pos.Raw.IsValid text ⟨start⟩ then
    some (text.sliceFrom (text.pos ⟨start⟩ boundary)).copy
  else none

def startOver (log : SelectedLog) : Delta :=
  if log.content = "" then .nothing else .restart log.content

/-- What is to be written of a log, found by its bytes. -/
def cutDelta? : Option Section → SelectedLog → Option Delta
  | none, log => some (startOver log)
  | some part, log =>
    if part.job = log.job ∧ Begins part.text log.content then
      (tail? log.content part.text.utf8ByteSize).map fun rest =>
        if rest = "" then .nothing else .append rest
    else some (startOver log)

theorem isValid_of_begins {start text : String} (begins : Begins start text) :
    String.Pos.Raw.IsValid text start.rawEndPos := by
  have size : min start.utf8ByteSize text.utf8ByteSize = start.utf8ByteSize := by
    simpa using congrArg ByteArray.size begins
  refine String.Pos.Raw.isValid_iff_isValidUTF8_extract_zero.mpr ⟨?_, ?_⟩
  · show start.utf8ByteSize ≤ text.utf8ByteSize
    omega
  · show (text.toByteArray.extract 0 start.utf8ByteSize).IsValidUTF8
    rw [begins]
    exact start.isValidUTF8

theorem begins_iff {start text : String} : Begins start text ↔ ∃ rest, text = start ++ rest := by
  constructor
  · intro begins
    obtain ⟨front, rest, rfl, ends⟩ :=
      String.Pos.Raw.isValid_iff_exists_append.mp (isValid_of_begins begins)
    have size : start.utf8ByteSize = front.toByteArray.size := by
      simpa using congrArg String.Pos.Raw.byteIdx ends
    have same : front.toByteArray = start.toByteArray := by
      rw [← begins, String.toByteArray_append, ByteArray.extract_append_eq_left size]
    exact ⟨rest, by rw [String.toByteArray_inj.mp same]⟩
  · rintro ⟨rest, rfl⟩
    rw [Begins, String.toByteArray_append]
    exact ByteArray.extract_append_eq_left (by simp)

theorem tail?_append (start rest : String) :
    tail? (start ++ rest) start.utf8ByteSize = some rest := by
  have boundary : String.Pos.Raw.IsValid (start ++ rest) ⟨start.utf8ByteSize⟩ :=
    String.Pos.Raw.isValid_iff_exists_append.mpr ⟨start, rest, rfl, rfl⟩
  rw [tail?, dif_pos boundary]
  have splits : ((start ++ rest).pos ⟨start.utf8ByteSize⟩ boundary).Splits start rest := ⟨rfl, rfl⟩
  rw [splits.copy_sliceFrom_eq]

theorem cutDelta?_eq (shown : Option Section) (log : SelectedLog) :
    cutDelta? shown log = some (delta shown log) := by
  cases shown with
  | none => rfl
  | some part =>
    rw [cutDelta?]
    split
    · rename_i begins
      obtain ⟨rest, goes⟩ : ∃ rest, log.content = part.text ++ String.ofList rest := by
        obtain ⟨more, goes⟩ := begins_iff.mp begins.2
        exact ⟨more.toList, by rw [goes, String.ofList_toList]⟩
      rw [goes, tail?_append, delta, unseen?_some.mpr ⟨begins.1, goes⟩]
      cases rest <;> simp
    · rename_i apart
      have unseen : unseen? (some part) log = none := by
        refine Option.eq_none_iff_forall_ne_some.mpr fun rest seen => apart ?_
        obtain ⟨job, goes⟩ := unseen?_some.mp seen
        exact ⟨job, begins_iff.mpr ⟨_, goes⟩⟩
      rw [delta, unseen, startOver]

/-! ## Histories -/

/-- Another log is selected, or the display is told to write, in one of two ways. -/
inductive Moment where
  | selects (log : Option SelectedLog)
  | renders
  | scrolls
  deriving DecidableEq, Repr

def Moment.isCall : Moment → Bool
  | selects _ => false
  | renders => true
  | scrolls => true

structure Display where
  selected : Option SelectedLog := none
  screen : Screen
  deriving DecidableEq, Repr

namespace Display

def fresh (colored : Bool) : Display where
  screen := { colored }

def render (display : Display) : Display :=
  { display with screen := display.screen.render display.selected }

def step (display : Display) : Moment → Display
  | .selects log => { display with selected := log }
  | .renders => display.render
  | .scrolls => display.render

def run (display : Display) (moments : List Moment) : Display :=
  moments.foldl step display

/-- What a moment makes of a row of sections. -/
def recordedBy (display : Display) (parts : List Section) (moment : Moment) : List Section :=
  if moment.isCall then display.selected.elim parts (recorded parts) else parts

def sections (display : Display) (parts : List Section) : List Moment → List Section
  | [] => parts
  | moment :: moments => (display.step moment).sections (display.recordedBy parts moment) moments

variable {display : Display} {parts : List Section}

theorem run_concat (display : Display) (moments : List Moment) (moment : Moment) :
    display.run (moments ++ [moment]) = (display.run moments).step moment := by
  rw [run, List.foldl_append]
  rfl

theorem sections_concat (display : Display) (parts : List Section) (moments : List Moment)
    (moment : Moment) : display.sections parts (moments ++ [moment]) =
      (display.run moments).recordedBy (display.sections parts moments) moment := by
  induction moments generalizing display parts with
  | nil => rfl
  | cons first moments ih => exact ih (display.step first) (display.recordedBy parts first)

theorem step_of_isCall {call : Moment} (isCall : call.isCall) :
    display.step call = display.render := by
  cases call with
  | selects => cases isCall
  | renders => rfl
  | scrolls => rfl

theorem recordedBy_of_isCall {call : Moment} (isCall : call.isCall) :
    display.recordedBy parts call = display.selected.elim parts (recorded parts) :=
  if_pos isCall

theorem render_of_silent (silent : ∀ log ∈ display.selected, log.content = "") :
    display.render = display := by
  obtain ⟨_ | log, screen⟩ := display
  · rfl
  · rw [render, render_of_empty (silent log rfl)]

end Display

theorem Sectioned.step {display : Display} {parts : List Section}
    (sectioned : Sectioned colored display.screen parts) (moment : Moment) :
    Sectioned colored (display.step moment).screen (display.recordedBy parts moment) := by
  by_cases isCall : moment.isCall
  · rw [Display.step_of_isCall isCall, Display.recordedBy_of_isCall isCall, Display.render]
    cases display.selected with
    | none => exact sectioned
    | some log => exact sectioned.recorded log
  · cases moment with
    | selects => exact sectioned
    | renders | scrolls => exact absurd rfl isCall

theorem Sectioned.run {display : Display} {parts : List Section}
    (sectioned : Sectioned colored display.screen parts) (moments : List Moment) :
    Sectioned colored (display.run moments).screen (display.sections parts moments) := by
  induction moments generalizing display parts with
  | nil => exact sectioned
  | cons moment moments ih => exact ih (sectioned.step moment)

/-- Whatever logs are selected, and whenever the display is told to write, the terminal holds a row
of sections, of which the last one is remembered. A call leaves the selected log as the last
section, which is a new one only where the log does not go on from the last; without a log, or
without text, it leaves the terminal as it was. -/
theorem calls_show_log (colored : Bool) (moments : List Moment) :
    let start := Display.fresh colored
    let display := start.run moments
    let parts := start.sections [] moments
    display.screen.output = String.join (parts.map (Section.written colored)) ∧
    display.screen.shown = parts.getLast? ∧
    (∀ call : Moment, call.isCall →
      let later := start.run (moments ++ [call])
      let laterParts := start.sections [] (moments ++ [call])
      ((∀ log ∈ display.selected, log.content = "") →
        later = display ∧ laterParts = parts) ∧
      (∀ log ∈ display.selected, log.content ≠ "" →
        laterParts.getLast? = some (sectionOf log) ∧
        ((∃ part ∈ parts.getLast?, part.GoesOn log) →
          laterParts = parts.dropLast ++ [sectionOf log]) ∧
        ((¬ ∃ part ∈ parts.getLast?, part.GoesOn log) →
          laterParts = parts ++ [sectionOf log]))) ∧
    (∀ (part : Section) (log : SelectedLog), Begins part.text log.content →
      String.Pos.Raw.IsValid log.content part.text.rawEndPos) ∧
    ∀ (shown : Option Section) (log : SelectedLog),
      cutDelta? shown log = some (delta shown log) := by
  intro start display parts
  have blank : Sectioned colored start.screen [] := Sectioned.fresh colored
  have sectioned : Sectioned colored display.screen parts := blank.run moments
  refine ⟨sectioned.output, sectioned.shown, ?_, fun _ _ => isValid_of_begins, cutDelta?_eq⟩
  intro call isCall later laterParts
  have rendered : later = display.render := by
    rw [show later = _ from Display.run_concat start moments call, Display.step_of_isCall isCall]
  have grown : laterParts = display.selected.elim parts (recorded parts) := by
    rw [show laterParts = _ from Display.sections_concat start [] moments call,
      Display.recordedBy_of_isCall isCall]
  constructor
  · intro silent
    refine ⟨rendered.trans (Display.render_of_silent silent), ?_⟩
    rw [grown]
    cases selected : display.selected with
    | none => rfl
    | some log => exact recorded_of_empty (silent log selected)
  · intro log selected speaks
    rw [show laterParts = recorded parts log by rw [grown, selected]; rfl]
    exact ⟨getLast?_recorded speaks, recorded_of_goesOn speaks, recorded_of_not_goesOn speaks⟩

def returning : List Moment :=
  [.selects (some ⟨"a", "é", .building⟩), .renders, .selects none, .scrolls,
    .selects (some ⟨"b", "", .pending⟩), .renders, .selects (some ⟨"a", "éß\n", .success⟩),
    .scrolls, .renders, .selects (some ⟨"b", "x\n", .building⟩), .renders,
    .selects (some ⟨"a", "ß", .failed⟩)]

theorem returning_shows_log :
    let start := Display.fresh false
    (start.run (returning ++ [.scrolls])).screen.output =
        "── a ──\néß\n── b ──\nx\n── a ──\nß" ∧
      start.sections [] (returning ++ [.scrolls]) =
        start.sections [] returning ++ [{ job := "a", text := "ß" }] ∧
      start.run (returning.take 3 ++ [.scrolls]) = start.run (returning.take 3) ∧
      start.sections [] (returning.take 7 ++ [.scrolls]) = [{ job := "a", text := "éß\n" }] ∧
      String.Pos.Raw.IsValid "éß\n" ⟨2⟩ := by
  intro start
  have ended := (calls_show_log false (returning ++ [.scrolls])).1
  have begun := ((calls_show_log false returning).2.2.1 .scrolls rfl).2
    ⟨"a", "ß", .failed⟩ rfl (by decide)
  have silent := ((calls_show_log false (returning.take 3)).2.2.1 .scrolls rfl).1
    (by rintro log ⟨⟩)
  have grown := ((calls_show_log false (returning.take 7)).2.2.1 .scrolls rfl).2
    ⟨"a", "éß\n", .success⟩ rfl (by decide)
  have within := (calls_show_log false []).2.2.2.1 { job := "a", text := "é" }
    ⟨"a", "éß\n", .success⟩ (by decide)
  exact ⟨ended.trans (by decide), begun.2.2 (by decide), silent.1,
    grown.2.1 (by decide), within⟩

end BuildWatch.Terminal
