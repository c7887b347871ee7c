import BuildWatch.Proofs.Follow.Stages
import BuildWatch.Proofs.Rehearsal.Clock

namespace BuildWatch.Rehearsal

open Viewer

/-! ## Streams that wait to be opened -/

namespace Platform

def waiting (platform : Platform) (job : String) : List StreamId :=
  (platform.streams job).filterMap Except.toOption

structure Tidy (platform : Platform) : Prop where
  known : ∀ job, ∀ stream ∈ platform.waiting job, stream < platform.channels.length
  once : ∀ job, (platform.waiting job).Nodup
  apart : ∀ job other stream, stream ∈ platform.waiting job → stream ∈ platform.waiting other →
    job = other

structure Opened (platform : Platform) (stream : StreamId) : Prop where
  known : stream < platform.channels.length
  absent : ∀ job, stream ∉ platform.waiting job

structure Keeps (before after : Platform) : Prop where
  tidy : before.Tidy → after.Tidy
  opened : ∀ stream, before.Opened stream → after.Opened stream

variable {before after platform : Platform} {job other : String} {stream : StreamId}

theorem mem_waiting : stream ∈ platform.waiting job ↔ .ok stream ∈ platform.streams job := by
  rw [waiting, List.mem_filterMap]
  constructor
  · rintro ⟨result, queued, opens⟩
    cases result with
    | ok queuedStream => exact Option.some.inj opens ▸ queued
    | error fault => cases opens
  · exact fun queued => ⟨.ok stream, queued, rfl⟩

theorem isQueued_iff : platform.isQueued job stream ↔ stream ∈ platform.waiting job := by
  rw [mem_waiting, isQueued, List.any_eq_true]
  constructor
  · rintro ⟨result, queued, same⟩
    cases result with
    | ok other => exact (beq_iff_eq.mp same) ▸ queued
    | error fault => cases same
  · exact fun queued => ⟨_, queued, beq_self_eq_true stream⟩

theorem tidy_empty : ({} : Platform).Tidy where
  known job stream waits := by simp [waiting] at waits
  once job := List.nodup_nil
  apart job other stream waits := by simp [waiting] at waits

namespace Keeps

theorem of_same (streams : after.streams = before.streams)
    (channels : after.channels.length = before.channels.length) : Keeps before after := by
  have queues (job : String) : after.waiting job = before.waiting job := by
    rw [waiting, waiting, streams]
  constructor
  · intro tidy
    exact ⟨fun job stream waits => channels ▸ tidy.known job stream (queues job ▸ waits),
      fun job => queues job ▸ tidy.once job,
      fun job other stream first second =>
        tidy.apart job other stream (queues job ▸ first) (queues other ▸ second)⟩
  · exact fun stream opened => ⟨channels ▸ opened.known, fun job => queues job ▸ opened.absent job⟩

theorem refl (platform : Platform) : Keeps platform platform :=
  .of_same rfl rfl

theorem trans {middle : Platform} (first : Keeps before middle) (second : Keeps middle after) :
    Keeps before after :=
  ⟨fun tidy => second.tidy (first.tidy tidy),
    fun stream opened => second.opened stream (first.opened stream opened)⟩

theorem modifyChannel (stream : StreamId) (change : Channel → Channel) :
    Keeps platform (platform.modifyChannel stream change) :=
  .of_same rfl (List.length_modify ..)

theorem endFeed (job : String) : Keeps platform (platform.endFeed job) := by
  unfold Platform.endFeed
  split
  · exact .refl platform
  · exact .of_same rfl (List.length_modify ..)

end Keeps

theorem waiting_queueStream (result : Except Fault StreamId) :
    (platform.queueStream job result).waiting other =
      platform.waiting other ++ if other = job then result.toOption.toList else [] := by
  by_cases same : other = job
  · subst same
    cases result <;> simp [waiting, queueStream, assign, Except.toOption]
  · simp [waiting, queueStream, assign, same]

theorem Keeps.refuse (fault : Fault) :
    Keeps platform (platform.queueStream job (.error fault)) := by
  have queues (other : String) :
      (platform.queueStream job (.error fault)).waiting other = platform.waiting other := by
    rw [waiting_queueStream]
    simp [Except.toOption]
  constructor
  · intro tidy
    exact ⟨fun other stream waits => tidy.known other stream (queues other ▸ waits),
      fun other => queues other ▸ tidy.once other,
      fun first second stream here there =>
        tidy.apart first second stream (queues first ▸ here) (queues second ▸ there)⟩
  · exact fun stream opened => ⟨opened.known, fun other => queues other ▸ opened.absent other⟩

theorem Keeps.addStream (channel : Channel) : Keeps platform (platform.addStream job channel) := by
  have length : (platform.addStream job channel).channels.length =
      platform.channels.length + 1 := by
    simp [Platform.addStream, queueStream]
  have casesOfWaits {other : String} {stream : StreamId}
      (waits : stream ∈ (platform.addStream job channel).waiting other) :
      stream ∈ platform.waiting other ∨ other = job ∧ stream = platform.channels.length := by
    rw [Platform.addStream, waiting_queueStream] at waits
    refine (List.mem_append.mp waits).imp_right fun new => ?_
    split at new
    · exact ⟨‹_›, by simpa [Except.toOption] using new⟩
    · cases new
  constructor
  · intro tidy
    have fresh (other : String) : platform.channels.length ∉ platform.waiting other :=
      fun waits => Nat.lt_irrefl _ (tidy.known other _ waits)
    refine ⟨fun other stream waits => ?_, fun other => ?_, fun first second stream here there => ?_⟩
    · rw [length]
      rcases casesOfWaits waits with old | ⟨-, rfl⟩
      · exact Nat.lt_succ_of_lt (tidy.known other stream old)
      · exact Nat.lt_succ_self _
    · rw [Platform.addStream, waiting_queueStream]
      refine List.nodup_append.mpr ⟨tidy.once other, ?_, ?_⟩
      · split <;> simp [Except.toOption]
      · intro stream old added new same
        have numbered : added = platform.channels.length := by
          split at new
          · simpa [Except.toOption] using new
          · cases new
        exact fresh other (numbered ▸ same ▸ old)
    · rcases casesOfWaits here with old | ⟨rfl, rfl⟩ <;>
        rcases casesOfWaits there with old' | ⟨rfl, numbered⟩
      · exact tidy.apart first second stream old old'
      · exact absurd (numbered ▸ old) (fresh first)
      · exact absurd old' (fresh second)
      · rfl
  · intro stream opened
    refine ⟨by rw [length]; exact Nat.lt_succ_of_lt opened.known, fun other waits => ?_⟩
    rcases casesOfWaits waits with old | ⟨-, numbered⟩
    · exact opened.absent other old
    · exact Nat.ne_of_lt opened.known numbered

theorem Keeps.cue (isHeld : StreamId → Bool) (cue : Cue) :
    Keeps platform (platform.cue isHeld cue).1 := by
  cases cue with
  | snapshot | delay | list | failLists | challenge | failChallenge => exact .of_same rfl rfl
  | stream job items => exact .addStream _
  | liveStream job =>
    have ended : Keeps platform (platform.endFeed job) := .endFeed job
    exact (ended.trans (.addStream _)).trans (.of_same rfl rfl)
  | refuseStream job fault => exact .refuse fault
  | feed job items =>
    simp only [Platform.cue]
    split
    · exact .refl platform
    · exact .modifyChannel _ _
  | endFeed job => exact .endFeed job

/-! ## Opening a stream -/

theorem waiting_openStream_self (platform : Platform) (job : String) :
    (platform.openStream job).1.toOption.toList ++ (platform.openStream job).2.waiting job =
      platform.waiting job := by
  unfold openStream
  cases queue : platform.streams job with
  | nil => simp [waiting, queue, Except.toOption]
  | cons first rest =>
    cases first with
    | ok stream => simp [waiting, queue, assign, Except.toOption]
    | error fault =>
      have dropped : List.filterMap Except.toOption (Except.error fault :: rest) =
          List.filterMap Except.toOption rest :=
        List.filterMap_cons_none rfl
      rw [waiting, waiting, queue, dropped]
      simp [assign, Except.toOption]

theorem waiting_openStream_of_ne (differs : other ≠ job) :
    (platform.openStream job).2.waiting other = platform.waiting other := by
  unfold openStream
  split
  · rfl
  · simp [waiting, assign, differs]

theorem channels_openStream : (platform.openStream job).2.channels = platform.channels := by
  unfold openStream
  split <;> rfl

theorem mem_of_mem_openStream (waits : stream ∈ (platform.openStream job).2.waiting other) :
    stream ∈ platform.waiting other := by
  by_cases same : other = job
  · subst same
    rw [← waiting_openStream_self]
    exact List.mem_append_right _ waits
  · rwa [waiting_openStream_of_ne same] at waits

theorem Keeps.openStream (job : String) : Keeps platform (platform.openStream job).2 := by
  constructor
  · intro tidy
    refine ⟨fun other stream waits => ?_, fun other => ?_, fun first second stream here there => ?_⟩
    · rw [channels_openStream]
      exact tidy.known other stream (mem_of_mem_openStream waits)
    · by_cases same : other = job
      · have all := tidy.once other
        subst same
        rw [← waiting_openStream_self] at all
        exact (List.nodup_append.mp all).2.1
      · rw [waiting_openStream_of_ne same]
        exact tidy.once other
    · exact tidy.apart first second stream (mem_of_mem_openStream here)
        (mem_of_mem_openStream there)
  · intro stream opened
    refine ⟨?_, fun other waits => opened.absent other (mem_of_mem_openStream waits)⟩
    rw [channels_openStream]
    exact opened.known

theorem waits_of_openStream (opens : (platform.openStream job).1 = .ok stream) :
    stream ∈ platform.waiting job := by
  rw [← waiting_openStream_self, opens]
  exact List.mem_append_left _ (List.mem_singleton_self stream)

theorem Tidy.opened_of_openStream (tidy : platform.Tidy)
    (opens : (platform.openStream job).1 = .ok stream) :
    (platform.openStream job).2.Opened stream := by
  have waits : stream ∈ platform.waiting job := waits_of_openStream opens
  constructor
  · rw [channels_openStream]
    exact tidy.known job stream waits
  · intro other still
    obtain rfl := tidy.apart other job stream (mem_of_mem_openStream still) waits
    have once := tidy.once other
    rw [← waiting_openStream_self, opens] at once
    exact (List.nodup_append.mp once).2.2 stream (List.mem_singleton_self stream) stream still rfl

end Platform

/-! ## Streams that are held -/

def holds (viewer : Viewer) (stream : StreamId) : Bool :=
  viewer.sessions.any fun session => session.stream? == some stream

def Holds (viewer : Viewer) (id : SessionId) (stream : StreamId) : Prop :=
  ∃ session, viewer.session? id = some session ∧ session.stage = .receiving stream

/-- The script is only changed by cues. -/
def Scripted (rehearsal : Rehearsal) : Happening → Prop
  | .script platform => ∃ cue, platform = (rehearsal.platform.cue (holds rehearsal.viewer) cue).1
  | _ => True

variable {rehearsal before after : Rehearsal} {viewer : Viewer} {id other : SessionId}
  {stream : StreamId} {action : Action} {happening : Happening} {course : List Happening}

theorem holds_iff : holds viewer stream ↔ ∃ id, Holds viewer id stream := by
  rw [holds, List.any_eq_true]
  constructor
  · rintro ⟨session, listed, held⟩
    obtain ⟨n, located⟩ := List.mem_iff_getElem?.mp listed
    refine ⟨n + 1, session, located, ?_⟩
    unfold Session.stream? at held
    split at held
    · rename_i other receiving
      rw [receiving, Option.some.inj (beq_iff_eq.mp held)]
    · cases held
  · rintro ⟨id, session, found, receiving⟩
    exact ⟨session, session?_mem found, by simp [Session.stream?, receiving]⟩

structure Tidy (rehearsal : Rehearsal) : Prop where
  platform : rehearsal.platform.Tidy
  held : ∀ id stream, Holds rehearsal.viewer id stream → rehearsal.platform.Opened stream
  sole : ∀ id other stream, Holds rehearsal.viewer id stream → Holds rehearsal.viewer other stream →
    id = other

structure Owned (rehearsal : Rehearsal) (id : SessionId) (stream : StreamId) : Prop where
  opened : rehearsal.platform.Opened stream
  sole : ∀ other, Holds rehearsal.viewer other stream → other = id

structure Passes (before after : Rehearsal) (happening : Happening) : Prop where
  keeps : before.platform.Keeps after.platform
  holders : ∀ id stream, Holds after.viewer id stream → Holds before.viewer id stream ∨
    happening.session? = some id ∧ ¬ before.platform.Opened stream ∧ after.platform.Opened stream

theorem Tidy.passes (tidy : before.Tidy) (passes : Passes before after happening) :
    after.Tidy := by
  refine ⟨passes.keeps.tidy tidy.platform, fun id stream holds => ?_,
    fun id other stream first second => ?_⟩
  · rcases passes.holders id stream holds with still | ⟨-, -, opened⟩
    · exact passes.keeps.opened stream (tidy.held id stream still)
    · exact opened
  · rcases passes.holders id stream first with still | ⟨own, unopened, -⟩ <;>
      rcases passes.holders other stream second with still' | ⟨own', unopened', -⟩
    · exact tidy.sole id other stream still still'
    · exact absurd (tidy.held id stream still) unopened'
    · exact absurd (tidy.held other stream still') unopened
    · exact Option.some.inj (own.symm.trans own')

theorem Owned.passes (owned : before.Owned id stream) (passes : Passes before after happening) :
    after.Owned id stream := by
  refine ⟨passes.keeps.opened stream owned.opened, fun other holds => ?_⟩
  rcases passes.holders other stream holds with still | ⟨-, unopened, -⟩
  · exact owned.sole other still
  · exact absurd owned.opened unopened

/-! ## Whatever happens -/

theorem Platform.Keeps.fetch (platform : Platform) (job : String) :
    platform.Keeps (platform.fetch job).2 := by
  unfold Platform.fetch
  split <;> exact .of_same rfl rfl

theorem keeps_book (rehearsal : Rehearsal) (id : SessionId) :
    rehearsal.platform.Keeps (rehearsal.book id).platform := by
  unfold book
  dsimp only
  split
  · exact .refl _
  · split
    · exact .fetch _ _
    · exact .fetch _ _
    · exact .refl _
    · exact .refl _

theorem keeps_perform (rehearsal : Rehearsal) (action : Action) :
    (rehearsal.taken action).Keeps (rehearsal.perform action).platform := by
  unfold perform wake
  dsimp only
  split
  · exact .refl _
  · have booked := keeps_book { rehearsal with
      viewer := rehearsal.viewer.act rehearsal.platform.answers action
      platform := rehearsal.taken action }
    exact booked _

theorem keeps_taken (rehearsal : Rehearsal) (action : Action) :
    rehearsal.platform.Keeps (rehearsal.taken action) := by
  unfold taken
  split
  · split
    · exact .openStream _
    · exact .refl _
  · split
    · exact .modifyChannel _ _
    · exact .refl _
  · exact .refl _

theorem openStream_of_turn? {result : Except Fault StreamId}
    (turn : rehearsal.turn? id = some (.openStream id result)) :
    ∃ session, rehearsal.viewer.session? id = some session ∧
      result = (rehearsal.platform.openStream session.job).1 := by
  unfold turn? at turn
  obtain ⟨session, found, turn⟩ := Option.bind_eq_some_iff.mp turn
  refine ⟨session, found, ?_⟩
  split at turn <;> try split at turn
  all_goals simp only [Option.map_eq_some_iff, Option.bind_eq_some_iff, Option.some.injEq,
    reduceCtorEq, bind, pure, and_false, exists_false, Action.openStream.injEq] at turn
  exact turn.2.symm

theorem passes_request (host : action.session? = none) (proper : action.isProper) :
    Passes rehearsal (rehearsal.perform action) (.request action) := by
  refine ⟨(keeps_taken rehearsal action).trans (keeps_perform rehearsal action), ?_⟩
  rintro id stream ⟨session, found, receiving⟩
  rw [perform_viewer] at found
  rcases stage_of_host host proper found with new | ⟨earlier, known, same⟩
  · rcases new with ready | loading
    · exact absurd (ready.symm.trans receiving) (by simp)
    · exact absurd (loading.symm.trans receiving) (by simp)
  · exact .inl ⟨earlier, known, same.trans receiving⟩

theorem passes_turn (tidy : rehearsal.Tidy) (acts : rehearsal.turn? id = some action) :
    Passes rehearsal (rehearsal.perform action) (.turn id) := by
  have own := session?_of_turn? acts
  refine ⟨(keeps_taken rehearsal action).trans (keeps_perform rehearsal action), ?_⟩
  rintro other stream ⟨session, found, receiving⟩
  rw [perform_viewer] at found
  rcases restaged_of_turn rehearsal.viewer rehearsal.platform.answers own
    with same | ⟨stage, allowed, restaged⟩
  · exact .inl ⟨session, (session?_congr other same).symm.trans found, receiving⟩
  · rw [session?_congr other restaged, session?_setStage] at found
    obtain ⟨earlier, known, rfl⟩ := Option.map_eq_some_iff.mp found
    by_cases turned : other = id
    · subst turned
      rw [if_pos rfl] at receiving
      obtain rfl := allowed.2 stream receiving
      obtain ⟨opener, opens, result⟩ := openStream_of_turn? acts
      right
      refine ⟨rfl, fun opened => ?_, ?_⟩
      · exact opened.absent _ (Platform.waits_of_openStream result.symm)
      · have taken : rehearsal.taken (.openStream other (.ok stream)) =
            (rehearsal.platform.openStream opener.job).2 := by
          simp [Rehearsal.taken, opens]
        refine (keeps_perform rehearsal _).opened stream ?_
        rw [taken]
        exact tidy.platform.opened_of_openStream result.symm
    · rw [if_neg turned] at receiving
      exact .inl ⟨earlier, known, receiving⟩

theorem passes_happen (tidy : rehearsal.Tidy) (allowed : rehearsal.Allows happening)
    (scripted : rehearsal.Scripted happening) :
    Passes rehearsal (rehearsal.happen happening) happening := by
  cases happening with
  | turn id =>
    simp only [happen, runTask]
    cases acts : rehearsal.turn? id with
    | none => exact ⟨.refl _, fun _ _ holds => .inl holds⟩
    | some action => exact passes_turn tidy acts
  | request action => exact passes_request allowed.1 allowed.2
  | script platform =>
    obtain ⟨cue, rfl⟩ := scripted
    exact ⟨.cue _ cue, fun _ _ holds => .inl holds⟩
  | pass later => exact ⟨.refl _, fun _ _ holds => .inl holds⟩

theorem tidy_start (config : ViewerConfig) : ({ viewer := { config } } : Rehearsal).Tidy where
  platform := Platform.tidy_empty
  held := by
    rintro id stream ⟨session, found, -⟩
    cases id <;> simp [session?] at found
  sole := by
    rintro id other stream ⟨session, found, -⟩
    cases id <;> simp [session?] at found

theorem Tidy.follow (tidy : rehearsal.Tidy) (allowed : Throughout Allows rehearsal course)
    (scripted : Throughout Scripted rehearsal course) : (rehearsal.follow course).Tidy := by
  induction course generalizing rehearsal with
  | nil => exact tidy
  | cons first rest ih =>
    exact ih (tidy.passes (passes_happen tidy allowed.1 scripted.1)) allowed.2 scripted.2

theorem Owned.follow (tidy : rehearsal.Tidy) (owned : rehearsal.Owned id stream)
    (allowed : Throughout Allows rehearsal course)
    (scripted : Throughout Scripted rehearsal course) :
    (rehearsal.follow course).Owned id stream := by
  induction course generalizing rehearsal with
  | nil => exact owned
  | cons first rest ih =>
    have passes := passes_happen tidy allowed.1 scripted.1
    exact ih (tidy.passes passes) (owned.passes passes) allowed.2 scripted.2

/-! ## The stream of a session that is over -/

/-- Nobody holds the stream, and what is fed to it is not sent. -/
structure Dropped (rehearsal : Rehearsal) (stream : StreamId) : Prop where
  unheld : holds rehearsal.viewer stream = false
  unsent : ∀ job items, rehearsal.platform.feeds job = some stream →
    rehearsal.platform.cue (holds rehearsal.viewer) (.feed job items) =
      (rehearsal.platform, .sent (items.map fun _ => false))

theorem Owned.dropped {session : Session} (owned : rehearsal.Owned id stream)
    (found : rehearsal.viewer.session? id = some session) (finished : session.isOver) :
    rehearsal.Dropped stream := by
  have unheld : holds rehearsal.viewer stream = false := by
    rw [Bool.eq_false_iff]
    intro held
    obtain ⟨other, holder, located, receiving⟩ := holds_iff.mp held
    obtain rfl := owned.sole other ⟨holder, located, receiving⟩
    obtain rfl := Option.some.inj (located.symm.trans found)
    simp [Session.isOver, receiving] at finished
  refine ⟨unheld, fun job items fed => ?_⟩
  have unqueued : rehearsal.platform.isQueued job stream = false := by
    rw [Bool.eq_false_iff]
    exact fun queued => owned.opened.absent job (Platform.isQueued_iff.mp queued)
  have lost : rehearsal.platform.sink? (holds rehearsal.viewer) job = none := by
    rw [Platform.sink?, fed]
    exact Option.filter_eq_none_iff.mpr (by simp [unqueued, unheld])
  rw [Platform.cue, lost]

end BuildWatch.Rehearsal
