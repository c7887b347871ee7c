import BuildWatch.Proofs.Command.Launch

namespace BuildWatch.Command

open Client Terminal

def Output.Reports (output : Output) (colored : Bool) (message : String) : Prop :=
  (∃ earlier, output.errors = earlier ++ painted colored .red message ++ "\n") ∨
    output.code = 1 ∧ ∃ earlier, output.errors = earlier ++ "Error: " ++ message ++ "\n"

variable {colored : Bool} {watch : Watch} {message : String} {parts : List Section}

theorem Output.reports_failure (out errors : String) :
    (Output.failure message out errors).Reports colored message :=
  .inr ⟨rfl, errors, rfl⟩

theorem show_reports {job : String} {result : Except Fault Snapshot}
    (failed : (shown job result).state.error = some message) :
    (Command.show colored job result).Reports colored message := by
  simp only [Command.show, failed]
  exact Output.reports_failure _ _

theorem Watch.Working.reports (working : Watch.Working colored watch) (done : watch.isDone)
    (failed : watch.viewer.state.error = some message) :
    watch.output.Reports colored message := by
  obtain ⟨before, parts, sectioned, answers, rfl⟩ := working.returned_of_isDone done
  rw [Watch.finish_eq] at failed ⊢
  replace failed : before.viewer.state.error = some message := failed
  refine .inl ⟨before.concluded, ?_⟩
  simp only [Watch.output, failed, sectioned.coloring]

theorem output_ne_emptyLine {screen : Screen} (sectioned : Sectioned colored screen parts) :
    screen.output ≠ Watch.emptyLine colored := by
  intro same
  rw [sectioned.output] at same
  replace same := congrArg String.toList same
  cases parts with
  | nil => cases colored <;> simp [Watch.emptyLine, painted] at same
  | cons part rest =>
    cases colored <;>
      simp [Watch.emptyLine, painted, Section.written, header, Paint.code] at same

theorem not_reports_challengeLine {out : String} {found : Challenge} {builds : Nat} :
    ¬ Output.Reports { out, errors := Watch.challengeLine colored found builds } colored
      "failed to load build logs" := by
  rintro (⟨earlier, ends⟩ | ⟨failed, -⟩)
  · replace ends := congrArg (fun text => text.toList.reverse.take 2) ends
    cases colored <;> simp [Watch.challengeLine, painted] at ends
  · cases failed

theorem follow_reports {options : WatchOptions} (link : Link) (settings : Settings) (turns : Nat)
    (something :
      ¬ Watch.FindsNothing options (entryAnswers link settings options.challenge)) :
    let watch := ((startWatch link settings colored options).follow link settings turns).watch
    (∃ parts, Sectioned colored watch.screen parts) ∧
      (watch.isDone → ∀ message, watch.viewer.state.error = some message →
        watch.output.Reports colored message) := by
  intro watch
  rcases Watch.start_cases options (entryAnswers link settings options.challenge) with
    unknown | nothing | ⟨entered, known, job, target⟩
  · rw [show watch = Watch.start colored options _ from
      congrArg Conversation.watch (follow_of_unknown link settings colored turns unknown)]
    obtain ⟨refused, errors, sectioned⟩ := Watch.start_of_unknown colored unknown
    refine ⟨sectioned, fun _ message failed => .inr ⟨by rw [Watch.output, refused], "", ?_⟩⟩
    rw [Watch.output, errors, failed, String.empty_append]
    rfl
  · exact absurd nothing something
  · have working : Watch.Working colored watch :=
      follow_works link settings colored turns entered known target
    exact ⟨working.sectioned, fun done message failed => working.reports done failed⟩

theorem failures_reported_unless_list_lost (link : Link) (settings : Settings) (colored : Bool)
    (options : WatchOptions) (turns : Nat) :
    let answers := entryAnswers link settings options.challenge
    let listed := answers.list options.challenge
    let watch := ((startWatch link settings colored options).follow link settings turns).watch
    (watch.isDone → ∀ message, watch.viewer.state.error = some message →
      (watch.output.Reports colored message ↔
        ¬ (Watch.FindsNothing options answers ∧ listed.isOk = false))) ∧
    (Watch.FindsNothing options answers → watch.isDone ∧
      watch.output.out = Watch.emptyLine colored ∧
      watch.viewer.state.error =
        if listed.isOk then none else some "failed to load build logs") ∧
    (watch.output.out = Watch.emptyLine colored → Watch.FindsNothing options answers) ∧
    ∀ job result message, (shown job result).state.error = some message →
      (Command.show colored job result).Reports colored message := by
  intro answers listed watch
  have empty (nothing : Watch.FindsNothing options answers) :
      watch = Watch.start colored options answers :=
    congrArg Conversation.watch (follow_of_findsNothing link settings colored turns nothing)
  refine ⟨fun done message failed => ?_, fun nothing => ?_, fun said => ?_,
    fun job result message failed => show_reports failed⟩
  · by_cases nothing : Watch.FindsNothing options answers
    · obtain ⟨found, -, output, -, -, error⟩ := Watch.start_of_findsNothing colored nothing
      rw [empty nothing, error] at failed
      cases answered : listed.isOk with
      | true => simp [show (answers.list options.challenge).isOk = true from answered] at failed
      | false =>
        obtain rfl : "failed to load build logs" = message := by
          simpa [show (answers.list options.challenge).isOk = false from answered] using failed
        rw [empty nothing, output]
        exact iff_of_false not_reports_challengeLine fun heard => heard ⟨nothing, rfl⟩
    · have reports := (follow_reports link settings turns nothing).2 done message failed
      exact iff_of_true reports fun lost => nothing lost.1
  · obtain ⟨found, -, output, done, -, error⟩ := Watch.start_of_findsNothing colored nothing
    rw [empty nothing]
    exact ⟨done, congrArg Output.out output, error⟩
  · refine Classical.byContradiction fun something => ?_
    obtain ⟨⟨parts, sectioned⟩, -⟩ := follow_reports link settings turns something
    exact output_ne_emptyLine sectioned said

def listlessLink : Link where
  response? past _ :=
    if past.isEmpty then
      some ⟨200, "\x7b\"challenge\":\x7b\"challenge_id\":\"c1\",\"name\":\"One\"\x7d\x7d".toUTF8⟩
    else some ⟨500, "boom".toUTF8⟩
  handshake? _ _ := none

def plainSettings : Settings where
  baseUrl := "http://h"
  streamUrl := "ws://h"

def listlessWatch (job : Option String) : Watch :=
  ((startWatch listlessLink plainSettings false { challenge := "c1", job }).follow listlessLink
    plainSettings 1).watch

theorem findsNothing_listless : Watch.FindsNothing { challenge := "c1" }
    (entryAnswers listlessLink plainSettings "c1") where
  unnamed := rfl
  entered := by decide
  known := by decide +kernel
  listless := by decide +kernel

set_option maxRecDepth 10000 in
theorem reports_without_list :
    (listlessWatch (some "j1")).isDone ∧
    (listlessWatch (some "j1")).viewer.state.error = some "failed to load build log" ∧
    (listlessWatch (some "j1")).output.Reports false "failed to load build log" ∧
    (listlessWatch none).output.out = Watch.emptyLine false ∧
    Watch.FindsNothing { challenge := "c1" } (entryAnswers listlessLink plainSettings "c1") ∧
    (Command.show false "j1" (.error (.notFound "j1"))).Reports false
      "build log not found: j1" := by
  have done : (listlessWatch (some "j1")).isDone := by decide +kernel
  have failed : (listlessWatch (some "j1")).viewer.state.error =
      some "failed to load build log" := by
    decide +kernel
  obtain ⟨reports, -, -, shows⟩ := failures_reported_unless_list_lost listlessLink plainSettings
    false { challenge := "c1", job := some "j1" } 1
  obtain ⟨-, empty, only, -⟩ := failures_reported_unless_list_lost listlessLink plainSettings
    false { challenge := "c1" } 1
  obtain ⟨-, said, -⟩ := empty findsNothing_listless
  refine ⟨done, failed, (reports done _ failed).mpr ?_, said, only said,
    shows _ _ _ (by decide +kernel)⟩
  rintro ⟨⟨unnamed⟩, -⟩
  cases unnamed

/-- A list that could not be loaded passes for an empty one, and nobody is told. -/
theorem lost_list_goes_unreported :
    (listlessWatch none).isDone ∧
    ((entryAnswers listlessLink plainSettings "c1").list "c1").isOk = false ∧
    (listlessWatch none).viewer.state.error = some "failed to load build logs" ∧
    (listlessWatch none).output.out = "No builds for this challenge yet.\n" ∧
    ¬ (listlessWatch none).output.Reports false "failed to load build logs" := by
  have refused : ((entryAnswers listlessLink plainSettings "c1").list "c1").isOk = false := by
    decide +kernel
  obtain ⟨found, -, output, done, -, error⟩ :=
    Watch.start_of_findsNothing false findsNothing_listless
  rw [listlessWatch, follow_of_findsNothing _ _ _ _ findsNothing_listless]
  refine ⟨done, refused, error.trans (by simp [refused]), congrArg Output.out output, ?_⟩
  intro reports
  rw [startWatch, output] at reports
  exact not_reports_challengeLine reports

end BuildWatch.Command
