import BuildWatch.Terminal.Screen

/-!
# Sections on a terminal

Whatever logs are rendered one after the other, the output is a row of sections, and the last one
holds the log that was rendered last. A log that only grows keeps to one section.

* `Renders`: what rendering a log makes of a screen.
* `Sectioned.recorded`: what rendering a log makes of a row of sections.
* `render_showing`: of a log that grows there is one section with all of it.
-/

namespace BuildWatch.Terminal

def Section.written (colored : Bool) (part : Section) : String :=
  header colored part.job ++ part.text

def sectionOf (log : SelectedLog) : Section where
  job := log.job
  text := log.content

variable {colored : Bool} {screen : Screen} {log later : SelectedLog} {parts : List Section}

/-! ## Rendering -/

theorem unseen?_some {part : Section} {rest : List Char} : unseen? (some part) log = some rest ↔
    part.job = log.job ∧ log.content = part.text ++ String.ofList rest := by
  have letters : log.content = part.text ++ String.ofList rest ↔
      log.content.toList = part.text.toList ++ rest := by
    rw [← String.toList_inj, String.toList_append, String.toList_ofList]
  rw [letters, ← Text.afterPrefix?_eq_some]
  simp [unseen?]

theorem unseen?_eq_some {shown : Option Section} {rest : List Char} :
    unseen? shown log = some rest ↔
      ∃ text, shown = some { job := log.job, text } ∧ log.content = text ++ String.ofList rest := by
  cases shown with
  | none => simp [unseen?]
  | some part =>
    rw [unseen?_some]
    constructor
    · rintro ⟨job, goes⟩
      exact ⟨part.text, by rw [← job], goes⟩
    · rintro ⟨text, ⟨⟩, goes⟩
      exact ⟨rfl, goes⟩

/-- What rendering a log makes of a screen. -/
inductive Renders (screen : Screen) (log : SelectedLog) : Screen → Prop
  | empty (silent : log.content = "") : Renders screen log screen
  | current (shown : screen.shown = some (sectionOf log)) : Renders screen log screen
  | extended {text more : String} (shown : screen.shown = some { job := log.job, text })
      (goes : log.content = text ++ more) (grows : more ≠ "") : Renders screen log { screen with
        shown := some (sectionOf log)
        output := screen.output ++ more }
  | begun (speaks : log.content ≠ "")
      (apart : ∀ text more, screen.shown = some { job := log.job, text } →
        log.content ≠ text ++ more) : Renders screen log { screen with
        shown := some (sectionOf log)
        output := screen.output ++ (sectionOf log).written screen.colored }

theorem renders_render (screen : Screen) (log : SelectedLog) :
    Renders screen log (screen.render (some log)) := by
  simp only [Screen.render, delta]
  cases seen : unseen? screen.shown log with
  | none =>
    by_cases silent : log.content = ""
    · simpa [silent] using Renders.empty silent
    · have apart (text more : String) (shown : screen.shown = some { job := log.job, text }) :
          log.content ≠ text ++ more := by
        intro goes
        have rest : unseen? screen.shown log = some more.toList :=
          unseen?_eq_some.mpr ⟨text, shown, by rw [String.ofList_toList, goes]⟩
        simp [seen] at rest
      simpa [silent, Section.written, sectionOf, String.append_assoc] using
        Renders.begun silent apart
  | some rest =>
    obtain ⟨text, shown, goes⟩ := unseen?_eq_some.mp seen
    cases rest with
    | nil =>
      refine .current ?_
      rw [shown, sectionOf, goes]
      simp
    | cons c rest => exact .extended shown goes (by simp)

theorem render_of_current (shown : screen.shown = some (sectionOf log)) :
    screen.render (some log) = screen := by
  have seen : unseen? screen.shown log = some [] :=
    unseen?_eq_some.mpr ⟨log.content, shown, by simp⟩
  simp [Screen.render, delta, seen]

theorem render_of_empty (silent : log.content = "") : screen.render (some log) = screen := by
  have rendered := renders_render screen log
  generalize screen.render (some log) = after at rendered ⊢
  cases rendered with
  | empty | current => rfl
  | extended _ goes grows => simp [silent, grows] at goes
  | begun speaks => exact absurd silent speaks

theorem render_congr (same : sectionOf later = sectionOf log) (screen : Screen) :
    screen.render (some later) = screen.render (some log) := by
  obtain ⟨job, content, status⟩ := log
  obtain ⟨_, _, laterStatus⟩ := later
  obtain ⟨rfl, rfl⟩ : _ = job ∧ _ = content := by simpa [sectionOf] using same
  rfl

theorem render_render (screen : Screen) (log : SelectedLog) :
    (screen.render (some log)).render (some log) = screen.render (some log) := by
  have rendered := renders_render screen log
  generalize again : screen.render (some log) = after at rendered ⊢
  cases rendered with
  | empty => exact again
  | current => exact again
  | extended | begun => exact render_of_current rfl

@[simp] theorem render_colored (shown : Option SelectedLog) :
    (screen.render shown).colored = screen.colored := by
  cases shown with
  | none => rfl
  | some log =>
    have rendered := renders_render screen log
    generalize screen.render (some log) = after at rendered ⊢
    cases rendered <;> rfl

/-! ## Rows of sections -/

def Section.GoesOn (part : Section) (log : SelectedLog) : Prop :=
  part.job = log.job ∧ part.text.toList <+: log.content.toList

instance (part : Section) (log : SelectedLog) : Decidable (part.GoesOn log) :=
  inferInstanceAs (Decidable (_ ∧ _))

def recorded (parts : List Section) (log : SelectedLog) : List Section :=
  if log.content = "" then parts
  else if ∃ part ∈ parts.getLast?, part.GoesOn log then parts.dropLast ++ [sectionOf log]
  else parts ++ [sectionOf log]

theorem Section.goesOn_iff {part : Section} :
    part.GoesOn log ↔ part.job = log.job ∧ ∃ more, log.content = part.text ++ more := by
  refine and_congr_right fun _ => ?_
  constructor
  · rintro ⟨rest, goes⟩
    exact ⟨String.ofList rest, by rw [← String.toList_inj, ← goes]; simp⟩
  · rintro ⟨more, goes⟩
    exact ⟨more.toList, by rw [goes, String.toList_append]⟩

theorem recorded_of_empty (silent : log.content = "") : recorded parts log = parts :=
  if_pos silent

theorem recorded_of_goesOn (speaks : log.content ≠ "")
    (goesOn : ∃ part ∈ parts.getLast?, part.GoesOn log) :
    recorded parts log = parts.dropLast ++ [sectionOf log] := by
  rw [recorded, if_neg speaks, if_pos goesOn]

theorem recorded_of_not_goesOn (speaks : log.content ≠ "")
    (apart : ¬ ∃ part ∈ parts.getLast?, part.GoesOn log) :
    recorded parts log = parts ++ [sectionOf log] := by
  rw [recorded, if_neg speaks, if_neg apart]

theorem recorded_of_last (last : parts.getLast? = some (sectionOf log)) :
    recorded parts log = parts := by
  by_cases silent : log.content = ""
  · exact recorded_of_empty silent
  · have goesOn : (sectionOf log).GoesOn log := ⟨rfl, List.prefix_rfl⟩
    rw [recorded_of_goesOn silent ⟨_, last, goesOn⟩]
    obtain ⟨earlier, rfl⟩ := List.getLast?_eq_some_iff.mp last
    rw [List.dropLast_concat]

theorem getLast?_recorded (speaks : log.content ≠ "") :
    (recorded parts log).getLast? = some (sectionOf log) := by
  rw [recorded, if_neg speaks]
  split <;> exact List.getLast?_concat

/-! ## Screens of sections -/

structure Sectioned (colored : Bool) (screen : Screen) (parts : List Section) : Prop where
  coloring : screen.colored = colored
  output : screen.output = String.join (parts.map (Section.written colored))
  shown : screen.shown = parts.getLast?

namespace Sectioned

theorem fresh (colored : Bool) : Sectioned colored { colored } [] := ⟨rfl, rfl, rfl⟩

theorem recorded (sectioned : Sectioned colored screen parts) (log : SelectedLog) :
    Sectioned colored (screen.render (some log)) (recorded parts log) := by
  have rendered := renders_render screen log
  generalize screen.render (some log) = after at rendered ⊢
  cases rendered with
  | empty silent =>
    rw [recorded_of_empty silent]
    exact sectioned
  | current shown =>
    rw [recorded_of_last (sectioned.shown.symm.trans shown)]
    exact sectioned
  | @extended text more shown goes grows =>
    obtain ⟨earlier, rfl⟩ : ∃ earlier, parts = earlier ++ [{ job := log.job, text }] :=
      List.getLast?_eq_some_iff.mp (sectioned.shown.symm.trans shown)
    have goesOn : Section.GoesOn { job := log.job, text } log :=
      Section.goesOn_iff.mpr ⟨rfl, more, goes⟩
    rw [recorded_of_goesOn (by simp [goes, grows]) ⟨_, List.getLast?_concat, goesOn⟩,
      List.dropLast_concat]
    refine ⟨sectioned.coloring, ?_, List.getLast?_concat.symm⟩
    simp [sectioned.output, Section.written, sectionOf, goes, String.join_append,
      String.append_assoc]
  | begun speaks apart =>
    have fresh : ¬ ∃ part ∈ parts.getLast?, part.GoesOn log := by
      rintro ⟨part, last, goesOn⟩
      obtain ⟨job, more, goes⟩ := Section.goesOn_iff.mp goesOn
      exact apart part.text more (by rw [sectioned.shown, last, ← job]) goes
    rw [recorded_of_not_goesOn speaks fresh]
    refine ⟨sectioned.coloring, ?_, List.getLast?_concat.symm⟩
    simp [sectioned.output, sectioned.coloring, String.join_append]

theorem render_any (sectioned : Sectioned colored screen parts) (shown : Option SelectedLog) :
    ∃ after, Sectioned colored (screen.render shown) after := by
  cases shown with
  | none => exact ⟨parts, sectioned⟩
  | some log =>
    exact ⟨Terminal.recorded parts log, sectioned.recorded log⟩

end Sectioned

/-! ## A log that grows -/

def showing (colored : Bool) (log : SelectedLog) : Screen :=
  Screen.render { colored } (some log)

theorem showing_of_empty (silent : log.content = "") : showing colored log = { colored } := by
  simp [showing, Screen.render, delta, unseen?, silent]

theorem showing_of_nonempty (speaks : log.content ≠ "") : showing colored log =
    { colored, shown := some (sectionOf log), output := (sectionOf log).written colored } := by
  simp [showing, Screen.render, delta, unseen?, speaks, Section.written, sectionOf]

/-- What a log that is printed once leaves on the output. -/
def printed (colored : Bool) : Option SelectedLog → String
  | none => ""
  | some log => if log.content = "" then "" else header colored log.job ++ log.content

theorem output_render_fresh (colored : Bool) (shown : Option SelectedLog) :
    (Screen.render { colored } shown).output = printed colored shown := by
  cases shown with
  | none => rfl
  | some log =>
    rw [printed]
    split
    · rename_i silent
      rw [← showing, showing_of_empty silent]
    · rename_i speaks
      rw [← showing, showing_of_nonempty speaks]
      rfl

theorem render_showing {more : String} (job : later.job = log.job)
    (grows : later.content = log.content ++ more) :
    (showing colored log).render (some later) = showing colored later := by
  by_cases silent : log.content = ""
  · rw [showing_of_empty silent, showing]
  · have speaks : later.content ≠ "" := by simp [grows, silent]
    have rendered := renders_render (showing colored log) later
    rw [showing_of_nonempty silent] at rendered ⊢
    rw [showing_of_nonempty speaks]
    generalize Screen.render _ (some later) = after at rendered ⊢
    cases rendered with
    | empty silent => exact absurd silent speaks
    | current shown => rw [Option.some.inj shown]
    | extended shown goes =>
      obtain ⟨-, rfl⟩ : log.job = later.job ∧ log.content = _ := by simpa [sectionOf] using shown
      simp [Section.written, sectionOf, goes, job, String.append_assoc]
    | begun _ apart => exact absurd grows (apart _ _ (by simp [sectionOf, job]))

end BuildWatch.Terminal
