import BuildWatch.Command.Run
import BuildWatch.Proofs.Follow.Setbacks
import BuildWatch.Proofs.Terminal.Sections

/-!
# Phases of a watching command

A command that has settled which job it opens waits until nothing is loading, follows the job to its
end and returns with its last words.

* `finish_eq`: the last words.
* `proceed_of_loaded`: what the command does once nothing is loading any more.
* `Working`: what such a command has come to, and that every turn keeps this.
* `Conversation.follow_induction`: what the turns keep holds of the command over a link.
-/

namespace BuildWatch

theorem ViewState.challenge_reduce {state : ViewState} (known : state.challenge.isSome)
    (event : ViewEvent) : (state.reduce event).challenge.isSome := by
  unfold reduce
  split
  · cases event with
    | challengeLoaded => rfl
    | sessionOpened _ _ _ live => cases live <;> exact known
    | _ => exact known
  · exact known

theorem Viewer.known_act {viewer : Viewer} (known : viewer.state.challenge.isSome)
    (answers : Answers) (action : Action) :
    (viewer.act answers action).state.challenge.isSome := by
  rw [viewer.act_announces answers action, ViewState.hearing]
  exact List.foldlRecOn (motive := fun state : ViewState => state.challenge.isSome) _ _ known
    fun _ known announcement _ => ViewState.challenge_reduce known announcement.event

namespace Command

open Client Terminal

namespace Watch

variable {colored : Bool} {watch : Watch} {answers : Answers} {action : Action}
  {parts : List Section} {message job : String} {id : SessionId}

/-! ## Writing -/

@[simp] theorem perform_viewer :
    (watch.perform answers action).viewer = watch.viewer.act answers action := rfl

@[simp] theorem perform_options : (watch.perform answers action).options = watch.options := rfl

@[simp] theorem perform_phase : (watch.perform answers action).phase = watch.phase := rfl

theorem perform_screen {scrolls : List Scroll}
    (added : (watch.viewer.act answers action).scrolls = watch.viewer.scrolls ++ scrolls) :
    (watch.perform answers action).screen =
      scrolls.foldl (fun screen scroll => screen.render scroll.shown) watch.screen := by
  simp [perform, added]

theorem perform_sectioned (sectioned : Sectioned colored watch.screen parts) (answers : Answers)
    (action : Action) :
    ∃ after, Sectioned colored (watch.perform answers action).screen after := by
  refine List.foldlRecOn (motive := fun screen => ∃ after, Sectioned colored screen after) _ _
    ⟨parts, sectioned⟩ ?_
  rintro screen ⟨earlier, holds⟩ scroll -
  exact holds.render_any scroll.shown

theorem perform_setViewport (viewport : Option Nat) :
    watch.perform answers (.setViewport viewport) =
      { watch with viewer := { watch.viewer with viewport } } := by
  simp [perform, Viewer.act]

/-! ## The last words -/

def concluded (watch : Watch) : String :=
  match watch.viewer.state.selected with
  | none => watch.errors
  | some log =>
    watch.errors ++ (painted watch.screen.colored .brightWhite "Job" ++ " " ++ log.job ++ " " ++
      statusLabel watch.screen.colored log.status) ++ "\n"

theorem finish_eq (watch : Watch) (answers : Answers) : watch.finish answers =
    { watch with
      viewer := { watch.viewer with viewport := none }
      screen := watch.screen.render watch.viewer.state.selected
      errors := match watch.viewer.state.error with
        | none => watch.concluded
        | some message =>
          watch.concluded ++ painted watch.screen.colored .red message ++ "\n"
      phase := .done 0 } := by
  have same : ({ watch.viewer with viewport := none } : Viewer).state = watch.viewer.state := rfl
  simp only [finish, perform_setViewport, render, same, render_colored, concluded]
  cases watch.viewer.state.selected <;> cases watch.viewer.state.error <;> rfl

/-! ## From one phase to the next -/

def Chosen (watch : Watch) : Prop :=
  watch.phase = .opening ∨ watch.phase = .entering ∧ watch.options.job.isSome

theorem isDone_of_chosen (chosen : watch.Chosen) : watch.isDone = false := by
  rcases chosen with phase | ⟨phase, -⟩ <;> simp [isDone, phase]

theorem session?_of_held (held : watch.viewer.held? = some (id, job)) :
    watch.session? = watch.viewer.session? id := by
  unfold Viewer.held? at held
  unfold session?
  cases current : watch.viewer.current with
  | none => simp [current] at held
  | some slot =>
    obtain ⟨same, -⟩ : slot.session = id ∧ slot.job = job := by simpa [current] using held
    rw [Option.bind_some, same]

theorem session?_of_free (free : watch.viewer.held? = none) : watch.session? = none := by
  unfold session?
  cases current : watch.viewer.current with
  | none => rfl
  | some slot => simp [Viewer.held?, current] at free

def atJob (watch : Watch) (errors : String) : Watch :=
  { watch with
    screen := watch.screen.render watch.viewer.state.selected
    errors
    phase := .following }

theorem afterOpening_of_loaded (loaded : watch.isLoading = false) :
    watch.afterOpening answers = (watch.atJob watch.errors).afterFollowing answers := by
  rw [afterOpening, loaded]
  rfl

theorem proceed_of_loaded (chosen : watch.Chosen) (known : watch.viewer.state.challenge.isSome)
    (loaded : watch.isLoading = false) (answers : Answers) :
    ∃ errors, watch.proceed answers = (watch.atJob errors).afterFollowing answers := by
  rcases chosen with opening | ⟨entering, named⟩
  · refine ⟨watch.errors, ?_⟩
    rw [proceed, opening]
    exact afterOpening_of_loaded loaded
  · obtain ⟨challenge, shown⟩ := Option.isSome_iff_exists.mp known
    obtain ⟨job, given⟩ := Option.isSome_iff_exists.mp named
    obtain ⟨line, goes⟩ : ∃ line, watch.proceed answers =
        ({ watch.writeError line with phase := .opening } : Watch).afterOpening answers := by
      rw [proceed, entering]
      simp only [afterEntering, loaded, shown, openNewest, writeError, given]
      exact ⟨_, rfl⟩
    have still : ({ watch.writeError line with phase := .opening } : Watch).isLoading = false :=
      loaded
    exact ⟨_, goes.trans (afterOpening_of_loaded still)⟩

theorem proceed_of_loading (chosen : watch.Chosen) (loading : watch.isLoading)
    (answers : Answers) : watch.proceed answers = watch := by
  rcases chosen with opening | ⟨entering, named⟩
  · rw [proceed, opening]
    simp [afterOpening, loading]
  · rw [proceed, entering]
    simp [afterEntering, loading]

theorem proceed_sessions (chosen : watch.Chosen) (known : watch.viewer.state.challenge.isSome)
    (answers : Answers) : (watch.proceed answers).viewer.sessions = watch.viewer.sessions := by
  cases loading : watch.isLoading with
  | true => rw [proceed_of_loading chosen loading]
  | false =>
    obtain ⟨errors, goes⟩ := proceed_of_loaded chosen known loading answers
    rw [goes, afterFollowing]
    split
    · rfl
    · rw [finish_eq]
      rfl

/-! ## Turns -/

/-- What a command has come to that has settled which job it opens. -/
inductive Working (colored : Bool) : Watch → Prop
  | chosen {watch : Watch} {parts : List Section} (chosen : watch.Chosen)
      (known : watch.viewer.state.challenge.isSome)
      (sectioned : Sectioned colored watch.screen parts) : Working colored watch
  | following {watch : Watch} {parts : List Section} (following : watch.phase = .following)
      (sectioned : Sectioned colored watch.screen parts) : Working colored watch
  | returned {watch : Watch} {parts : List Section}
      (sectioned : Sectioned colored watch.screen parts) (answers : Answers) :
      Working colored (watch.finish answers)

theorem working_afterFollowing (following : watch.phase = .following)
    (sectioned : Sectioned colored watch.screen parts) (answers : Answers) :
    Working colored (watch.afterFollowing answers) := by
  unfold afterFollowing
  split
  · exact .following following sectioned
  · exact .returned sectioned answers

theorem working_proceed (chosen : watch.Chosen) (known : watch.viewer.state.challenge.isSome)
    (sectioned : Sectioned colored watch.screen parts) (answers : Answers) :
    Working colored (watch.proceed answers) := by
  cases loading : watch.isLoading with
  | true =>
    rw [proceed_of_loading chosen loading]
    exact .chosen chosen known sectioned
  | false =>
    obtain ⟨errors, goes⟩ := proceed_of_loaded chosen known loading answers
    obtain ⟨after, rendered⟩ := sectioned.render_any watch.viewer.state.selected
    have written : Sectioned colored (watch.atJob errors).screen after := rendered
    rw [goes]
    exact working_afterFollowing rfl written answers

namespace Working

theorem act (working : Working colored watch) (busy : watch.isDone = false) (answers : Answers)
    (action : Action) : Working colored (watch.act answers action) := by
  cases working with
  | chosen chosen known sectioned =>
    have still : (watch.perform answers action).Chosen := chosen
    obtain ⟨after, performed⟩ := perform_sectioned sectioned answers action
    exact working_proceed still (Viewer.known_act known answers action) performed answers
  | following following sectioned =>
    obtain ⟨after, performed⟩ := perform_sectioned sectioned answers action
    rw [Watch.act, proceed, perform_phase, following]
    exact working_afterFollowing (perform_phase.trans following) performed answers
  | returned => simp [finish_eq, isDone] at busy

theorem sectioned (working : Working colored watch) :
    ∃ parts, Sectioned colored watch.screen parts := by
  cases working with
  | chosen _ _ sectioned | following _ sectioned => exact ⟨_, sectioned⟩
  | @returned before _ sectioned =>
    rw [finish_eq]
    exact sectioned.render_any before.viewer.state.selected

theorem returned_of_isDone (working : Working colored watch) (done : watch.isDone) :
    ∃ (before : Watch) (parts : List Section), Sectioned colored before.screen parts ∧
      ∃ answers, watch = before.finish answers := by
  cases working with
  | chosen chosen =>
    rw [isDone_of_chosen chosen] at done
    cases done
  | following phase => simp [isDone, phase] at done
  | @returned before parts sectioned answers => exact ⟨before, parts, sectioned, answers, rfl⟩

end Working

end Watch

/-! ## Commands over a link -/

namespace Conversation

variable {conversation : Conversation} {link : Link} {settings : Settings}

theorem step_watch (conversation : Conversation) (link : Link) (settings : Settings) :
    (conversation.step link settings).watch = conversation.watch ∨
      ∃ answers action,
        (conversation.step link settings).watch = conversation.watch.act answers action := by
  unfold step
  dsimp only
  split
  · exact .inl rfl
  · exact .inr ⟨_, _, rfl⟩
  · exact .inr ⟨_, _, rfl⟩
  · split <;> exact .inr ⟨_, _, rfl⟩
  · exact .inr ⟨_, _, rfl⟩
  · exact .inr ⟨_, _, rfl⟩

theorem follow_induction {motive : Watch → Prop}
    (step : ∀ watch answers action, watch.isDone = false → motive watch →
      motive (watch.act answers action))
    (start : motive conversation.watch) (turns : Nat) :
    motive (conversation.follow link settings turns).watch := by
  induction turns generalizing conversation with
  | zero => exact start
  | succ turns ih =>
    unfold follow
    split
    · exact start
    · rename_i busy
      refine ih ?_
      rcases conversation.step_watch link settings with same | ⟨answers, action, acts⟩
      · rwa [same]
      · rw [acts]
        exact step _ answers action (by simpa using busy) start

theorem follow_of_isDone (done : conversation.watch.isDone) (turns : Nat) :
    conversation.follow link settings turns = conversation := by
  cases turns with
  | zero => rfl
  | succ turns => rw [follow, if_pos done]

end Conversation

end Command

end BuildWatch
