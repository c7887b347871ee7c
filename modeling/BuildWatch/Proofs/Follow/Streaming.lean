import Mathlib.Data.List.Infix
import BuildWatch.Proofs.Follow.Opening
import BuildWatch.Proofs.Follow.Turns

namespace BuildWatch

/-- What a turn tells a session about its stream. A stream that cannot be opened is one that begins
with a fault. -/
def Action.item? (id : SessionId) : Action → Option StreamItem
  | receive other item => if other = id then some item else none
  | openStream other (.error fault) => if other = id then some (some (.error fault)) else none
  | _ => none

def Action.isStreamTurn (id : SessionId) : Action → Bool
  | start other | openStream other _ | receive other _ => other == id
  | _ => false

namespace Viewer

/-! ## What a stream brings -/

def chunk? : StreamItem → Option Chunk
  | some (.ok chunk) => some chunk
  | _ => none

def endingOf? : StreamItem → Option Outcome
  | none => some .ended
  | some (.error fault) => some (if fault.isCancelled then .cancelled else .failed)
  | some (.ok chunk) => if chunk.isComplete then some .completed else none

def ending? (items : List StreamItem) : Option Outcome :=
  items.findSome? endingOf?

/-- The chunks up to the item that ends the session. -/
def heard : List StreamItem → List Chunk
  | some (.ok chunk) :: rest => chunk :: if chunk.isComplete then [] else heard rest
  | _ => []

def logOf (job : String) (status : Status) (chunks : List Chunk) : SelectedLog where
  job := job
  content := String.join (chunks.map Chunk.line)
  status := (chunks.getLast?.map Chunk.status).getD status

/-- One scroll for each chunk with some text, with the log that ends with that chunk. -/
def scrollsOf (viewport : Option Nat) (job : String) (status : Status) (chunks : List Chunk) :
    List Scroll :=
  chunks.inits.flatMap fun shown =>
    if shown.getLast?.all fun chunk => chunk.line = "" then []
    else scrollCalls viewport (some (logOf job status shown))

section
variable {job : String} {status : Status} {viewport : Option Nat} {chunks : List Chunk}
  {items : List StreamItem}

theorem ending?_concat (item : StreamItem) :
    ending? (items ++ [item]) = (ending? items).or (endingOf? item) := by
  simp [ending?, List.findSome?_append]

theorem heard_concat_of_open (item : StreamItem) (unended : ending? items = none) :
    heard (items ++ [item]) = heard items ++ (chunk? item).toList := by
  induction items with
  | nil =>
    match item with
    | none | some (.error _) => rfl
    | some (.ok chunk) => simp [heard, chunk?]
  | cons first rest ih =>
    match first with
    | none | some (.error _) => simp [ending?, endingOf?] at unended
    | some (.ok chunk) =>
      obtain ⟨incomplete, later⟩ : chunk.isComplete = false ∧ ending? rest = none := by
        simpa [ending?, endingOf?] using unended
      simp [heard, incomplete, ih later]

theorem heard_concat_of_ended (item : StreamItem) {outcome : Outcome}
    (ended : ending? items = some outcome) : heard (items ++ [item]) = heard items := by
  induction items with
  | nil => simp [ending?] at ended
  | cons first rest ih =>
    match first with
    | none | some (.error _) => rfl
    | some (.ok chunk) =>
      cases complete : chunk.isComplete with
      | true => simp [heard, complete]
      | false =>
        have later : ending? rest = some outcome := by
          simpa [ending?, endingOf?, complete] using ended
        simp [heard, complete, ih later]

theorem logOf_concat (chunk : Chunk) : logOf job status (chunks ++ [chunk]) =
    (logOf job status chunks).append chunk.line chunk.status := by
  simp [logOf, SelectedLog.append, String.join_append]

theorem scrollsOf_concat (chunk : Chunk) :
    scrollsOf viewport job status (chunks ++ [chunk]) = scrollsOf viewport job status chunks ++
      if chunk.line = "" then []
      else scrollCalls viewport (some ((logOf job status chunks).append chunk.line chunk.status))
      := by
  simp [scrollsOf, List.inits_append, logOf_concat]

end

/-! ## Turns of a stream session -/

namespace AtHand

variable {viewer : Viewer} {id : SessionId} {session : Session} (answers : Answers)
  (atHand : AtHand viewer id session)
include atHand

theorem effect_start (ready : session.stage = .ready) (plan : session.plan = some .pushStream) :
    Effect viewer (viewer.act answers (.start id)) id { session with stage := .opening }
      [.stream session.job] [] viewer.state.selected := by
  have acts : viewer.act answers (.start id) =
      (viewer.call (.stream session.job)).setStage id .opening := by
    simp [act, turn, atHand.found, ready, begin, atHand.uncancelled, plan]
  have asked : Effect viewer (viewer.call (.stream session.job)) id session _ _ _ :=
    .call atHand.found _
  rw [acts]
  exact asked.trans (.setStage asked.found .opening)

theorem effect_openStream (opening : session.stage = .opening) (result : Except Fault StreamId) :
    Effect viewer (viewer.act answers (.openStream id result)) id
      { session with stage := match result with
        | .ok stream => .receiving stream
        | .error fault => .over (outcomeOf fault) }
      [] [] viewer.state.selected := by
  have uncancelled := atHand.uncancelled
  cases result with
  | ok stream =>
    have acts : viewer.act answers (.openStream id (.ok stream)) =
        viewer.setStage id (.receiving stream) := by
      simp [act, turn, atHand.found, opening, opened, uncancelled]
    rw [acts]
    exact .setStage atHand.found _
  | error fault =>
    have acts : viewer.act answers (.openStream id (.error fault)) =
        viewer.conclude id (outcomeOf fault) := by
      simp [act, turn, atHand.found, opening, opened, uncancelled]
    rw [acts]
    exact .conclude atHand.found _

theorem effect_receive {stream : StreamId} (receiving : session.stage = .receiving stream)
    (item : StreamItem) :
    let shown := (chunk? item).elim viewer.state.selected fun chunk =>
      viewer.state.selected.map fun log => log.append chunk.line chunk.status
    ∃ stage, ((endingOf? item).elim (stage = session.stage) fun outcome =>
        stage = .over outcome ∨ outcome = .completed ∧ stage = .listing none ∧
          answers.delaysList) ∧
      Effect viewer (viewer.act answers (.receive id item)) id { session with stage }
        (if endingOf? item = some .completed then listCalls session.challenge else [])
        (if (chunk? item).all fun chunk => chunk.line = "" then []
          else scrollCalls session.viewport shown) shown := by
  have uncancelled := atHand.uncancelled
  have ongoing : session.isOver = false := Session.isOver_of_isLive (by rw [receiving]; rfl)
  simp only [act, turn, atHand.found, receiving]
  cases item with
  | none =>
    refine ⟨.over .ended, .inl rfl, ?_⟩
    simpa [received, uncancelled, endingOf?, chunk?] using Effect.conclude atHand.found .ended
  | some told =>
    cases told with
    | error fault =>
      refine ⟨.over (outcomeOf fault), .inl rfl, ?_⟩
      cases given : fault.isCancelled <;>
        simpa [received, uncancelled, endingOf?, chunk?, outcomeOf, given] using
          Effect.conclude atHand.found (outcomeOf fault)
    | ok chunk =>
      obtain ⟨stage, standing, effect⟩ := atHand.effect_received ongoing answers chunk
      cases complete : chunk.isComplete with
      | true =>
        refine ⟨stage, ?_, ?_⟩
        · simp only [complete, if_true] at standing
          simpa [endingOf?, complete] using
            standing.imp_right fun waits => ⟨waits.1, waits.2.1⟩
        · simpa [complete, endingOf?, chunk?] using effect
      | false =>
        refine ⟨stage, ?_, ?_⟩
        · simpa [endingOf?, complete, receiving] using standing
        · simpa [complete, endingOf?, chunk?] using effect

end AtHand

/-- A chunk that completes the job is on screen before the list is asked for. -/
def ShowsBeforeList (viewer : Viewer) (id : SessionId) (session : Session) : Prop :=
  ∀ answers stream (chunk : Chunk), session.stage = .receiving stream → chunk.isComplete →
    ∃ seen : Viewer, seen.calls = viewer.calls ∧
      seen.state.selected =
        viewer.state.selected.map (fun log => log.append chunk.line chunk.status) ∧
      viewer.act answers (.receive id (some (.ok chunk))) = seen.refreshFor answers id session none

theorem AtHand.showsBeforeList {viewer : Viewer} {id : SessionId} {session : Session}
    (atHand : AtHand viewer id session) : viewer.ShowsBeforeList id session := by
  intro answers stream chunk receiving complete
  have ongoing : session.isOver = false := Session.isOver_of_isLive (by rw [receiving]; rfl)
  obtain ⟨seen, showing, received⟩ := atHand.shows_chunk ongoing answers chunk
  refine ⟨seen, by rw [showing.calls, List.append_nil], showing.selected, ?_⟩
  simpa [act, turn, atHand.found, receiving, complete] using received

/-! ## Sessions and their scripts -/

def itemsOf (id : SessionId) (steps : List (Answers × Action)) : List StreamItem :=
  steps.filterMap fun step => step.2.item? id

def streamTurns (id : SessionId) (steps : List (Answers × Action)) : List Action :=
  (steps.map Prod.snd).filter (Action.isStreamTurn id)

def streamCalls (id : SessionId) (session : Session) (steps : List (Answers × Action)) :
    List Call :=
  (if streamTurns id steps = [] then [] else [.stream session.job]) ++
    if ending? (itemsOf id steps) = some .completed then listCalls session.challenge else []

/-- The stage that a session reaches by the turns it has in some steps. -/
inductive Reached (id : SessionId) (steps : List (Answers × Action)) : Stage → Prop
  | ready (turns : (streamTurns id steps).length = 0) (silent : itemsOf id steps = []) :
      Reached id steps .ready
  | opening (turns : (streamTurns id steps).length = 1) (silent : itemsOf id steps = []) :
      Reached id steps .opening
  | receiving {stream : StreamId} (turns : 2 ≤ (streamTurns id steps).length)
      (unended : ending? (itemsOf id steps) = none) : Reached id steps (.receiving stream)
  | listing (turns : 2 ≤ (streamTurns id steps).length)
      (ended : ending? (itemsOf id steps) = some .completed)
      (waits : ∃ step ∈ steps, step.1.delaysList) : Reached id steps (.listing none)
  | finished {outcome : Outcome} (turns : 2 ≤ (streamTurns id steps).length)
      (ended : ending? (itemsOf id steps) = some outcome) : Reached id steps (.over outcome)

structure Streamed (opened : Viewer) (id : SessionId) (session : Session) (status : Status)
    (steps : List (Answers × Action)) : Prop where
  stands : ∃ stage, Reached id steps stage ∧ AtHand (opened.run steps) id { session with stage }
  selected : (opened.run steps).state.selected =
    some (logOf session.job status (heard (itemsOf id steps)))
  calls : ownRecord Viewer.calls id opened steps = streamCalls id session steps
  scrolls : ownRecord Viewer.scrolls id opened steps =
    scrollsOf session.viewport session.job status (heard (itemsOf id steps))

section
variable {opened : Viewer} {id : SessionId} {session : Session} {status : Status}
  {steps : List (Answers × Action)} {step : Answers × Action} {stage : Stage}

theorem itemsOf_concat :
    itemsOf id (steps ++ [step]) = itemsOf id steps ++ (step.2.item? id).toList := by
  cases told : step.2.item? id <;> simp [itemsOf, told]

theorem streamTurns_concat : streamTurns id (steps ++ [step]) =
    streamTurns id steps ++ if step.2.isStreamTurn id then [step.2] else [] := by
  cases advances : step.2.isStreamTurn id <;> simp [streamTurns, advances]

theorem run_concat : opened.run (steps ++ [step]) = (opened.run steps).act step.1 step.2 :=
  run_append steps [step]

theorem next_of_order {turns : List Action} {action : Action} {result : Except Fault StreamId}
    {script : List StreamItem}
    (order : turns ++ [action] <+:
      .start id :: .openStream id result :: script.map (.receive id)) :
    (turns.length = 0 → action = .start id) ∧ (turns.length = 1 → action = .openStream id result) ∧
      (2 ≤ turns.length → ∃ item, action = .receive id item) := by
  obtain ⟨rest, splits⟩ := order
  have placed := congrArg (fun whole => whole[turns.length]?) splits
  simp only [List.append_assoc, List.cons_append, List.nil_append, List.getElem?_append_right,
    Nat.le_refl, Nat.sub_self, List.getElem?_cons_zero] at placed
  refine ⟨fun noneYet => ?_, fun oneYet => ?_, fun begun => ?_⟩
  · simpa [noneYet] using placed
  · simpa [oneYet] using placed
  · obtain ⟨count, lengthEq⟩ := Nat.exists_eq_add_of_le' begun
    rw [lengthEq] at placed
    have located : script[count]?.map (Action.receive id) = some action := by
      simpa using placed.symm
    obtain ⟨item, -, told⟩ := Option.map_eq_some_iff.mp located
    exact ⟨item, told.symm⟩

theorem Reached.of_same (reached : Reached id steps stage)
    (turns : streamTurns id (steps ++ [step]) = streamTurns id steps)
    (items : itemsOf id (steps ++ [step]) = itemsOf id steps) :
    Reached id (steps ++ [step]) stage := by
  cases reached with
  | ready noneYet silent => exact .ready (turns ▸ noneYet) (items ▸ silent)
  | opening oneYet silent => exact .opening (turns ▸ oneYet) (items ▸ silent)
  | receiving begun unended => exact .receiving (turns ▸ begun) (items ▸ unended)
  | listing begun ended waits =>
    obtain ⟨asked, member, delayed⟩ := waits
    exact .listing (turns ▸ begun) (items ▸ ended) ⟨asked, by simp [member], delayed⟩
  | finished begun ended => exact .finished (turns ▸ begun) (items ▸ ended)

theorem same_of_not_isStreamTurn (steps : List (Answers × Action))
    (idle : step.2.isStreamTurn id = false) :
    streamTurns id (steps ++ [step]) = streamTurns id steps ∧
      itemsOf id (steps ++ [step]) = itemsOf id steps := by
  have silent : step.2.item? id = none := by
    unfold Action.isStreamTurn at idle
    unfold Action.item?
    split <;> simp_all
  simp [streamTurns_concat, itemsOf_concat, idle, silent]

theorem act_of_idle (reached : Reached id steps stage)
    (found : (opened.run steps).session? id = some { session with stage })
    (uncancelled : session.isCancelled = false) (own : step.2.session? = some id)
    (idle : step.2.isStreamTurn id = false) :
    (opened.run steps).act step.1 step.2 = opened.run steps ∨ stage = .listing none ∧ ∃ result,
      (opened.run steps).act step.1 step.2 = (opened.run steps).listed id none result := by
  obtain ⟨answers, action⟩ := step
  cases action <;> simp only [Action.session?, reduceCtorEq, Option.some.injEq] at own <;>
    subst own <;> simp only [Action.isStreamTurn, beq_self_eq_true, Bool.true_eq_false] at idle <;>
    simp only [act, turn, found]
  case answer | wake => cases reached <;> simp
  case notice => cases reached <;> simp [uncancelled]
  case listed result => cases reached <;> simp

namespace Streamed

variable (streamed : Streamed opened id session status steps)
include streamed

theorem concat_of_other (proper : step.2.isProper) (foreign : step.2.session? ≠ some id)
    (unstopped : (opened.run (steps ++ [step])).isUnstopped id) :
    Streamed opened id session status (steps ++ [step]) := by
  obtain ⟨stage, reached, atHand⟩ := streamed.stands
  have idle : step.2.isStreamTurn id = false := by
    unfold Action.isStreamTurn
    unfold Action.session? at foreign
    split <;> simp_all
  obtain ⟨turns, items⟩ := same_of_not_isStreamTurn steps idle
  rw [run_concat] at unstopped
  obtain ⟨still, view⟩ := atHand.act_of_other proper foreign unstopped
  have selected : ((opened.run steps).act step.1 step.2).state.selected = _ :=
    congrArg LogView.selected view
  constructor
  · exact ⟨stage, reached.of_same turns items, run_concat ▸ still⟩
  · rw [run_concat, selected, items]
    exact streamed.selected
  · rw [ownRecord_concat_of_other foreign, streamed.calls, streamCalls, streamCalls, turns, items]
  · rw [ownRecord_concat_of_other foreign, streamed.scrolls, items]

theorem concat_of_own {later : Stage} {calls : List Call} {scrolls : List Scroll}
    {selected : Option SelectedLog}
    (atHand : AtHand (opened.run steps) id { session with stage }) (proper : step.2.isProper)
    (own : step.2.session? = some id)
    (effect : Effect (opened.run steps) ((opened.run steps).act step.1 step.2) id
      { session with stage := later } calls scrolls selected)
    (reached : Reached id (steps ++ [step]) later)
    (shown : selected = some (logOf session.job status (heard (itemsOf id (steps ++ [step])))))
    (called : streamCalls id session (steps ++ [step]) = streamCalls id session steps ++ calls)
    (scrolled : scrollsOf session.viewport session.job status
        (heard (itemsOf id (steps ++ [step]))) =
      scrollsOf session.viewport session.job status (heard (itemsOf id steps)) ++ scrolls) :
    Streamed opened id session status (steps ++ [step]) where
  stands := by
    refine ⟨later, reached, ?_⟩
    rw [run_concat]
    exact atHand.of_effect (atHand.coherent.act_full proper) effect
  selected := by rw [run_concat, effect.selected, shown]
  calls := by rw [ownRecord_concat own effect.calls, streamed.calls, called]
  scrolls := by rw [ownRecord_concat own effect.scrolls, streamed.scrolls, scrolled]

theorem concat_of_idle (proper : step.2.isProper) (own : step.2.session? = some id)
    (idle : step.2.isStreamTurn id = false) :
    Streamed opened id session status (steps ++ [step]) := by
  obtain ⟨stage, reached, atHand⟩ := streamed.stands
  obtain ⟨turns, items⟩ := same_of_not_isStreamTurn steps idle
  have shown : (opened.run steps).state.selected =
      some (logOf session.job status (heard (itemsOf id (steps ++ [step])))) := by
    rw [streamed.selected, items]
  have called : streamCalls id session (steps ++ [step]) = streamCalls id session steps ++ [] := by
    rw [streamCalls, streamCalls, turns, items, List.append_nil]
  rcases act_of_idle reached atHand.found atHand.uncancelled own idle with
    same | ⟨rfl, result, acted⟩
  · have effect : Effect (opened.run steps) ((opened.run steps).act step.1 step.2) id
        { session with stage } [] [] (opened.run steps).state.selected := by
      rw [same]
      exact .refl atHand.found
    refine streamed.concat_of_own atHand proper own effect (reached.of_same turns items) shown
      called ?_
    rw [items, List.append_nil]
  · have effect : Effect (opened.run steps) ((opened.run steps).act step.1 step.2) id
        { session with stage := .over .completed } [] [] _ :=
      acted ▸ Effect.listed atHand.found none result
    have ends : Reached id steps (.over .completed) := by
      cases reached with
      | listing begun ended => exact .finished begun ended
    refine streamed.concat_of_own atHand proper own effect (ends.of_same turns items) shown
      called ?_
    rw [items, List.append_nil]

section
variable (proper : step.2.isProper) (own : step.2.session? = some id)
  (turns : streamTurns id (steps ++ [step]) = streamTurns id steps ++ [step.2])
include proper own turns

theorem concat_of_start (planned : session.plan = some .pushStream)
    (noneYet : (streamTurns id steps).length = 0) (silent : itemsOf id steps = [])
    (atHand : AtHand (opened.run steps) id { session with stage := .ready })
    (starts : step.2 = .start id) : Streamed opened id session status (steps ++ [step]) := by
  have items : itemsOf id (steps ++ [step]) = [] := by
    simp [itemsOf_concat, starts, silent, Action.item?]
  have effect := atHand.effect_start step.1 rfl planned
  rw [← starts] at effect
  refine streamed.concat_of_own atHand proper own effect (.opening ?_ items) ?_ ?_ ?_
  · simp [turns, noneYet]
  · rw [streamed.selected, items, silent]
  · simp [streamCalls, turns, items, silent, ending?, List.length_eq_zero_iff.mp noneYet]
  · simp [items, silent]

theorem concat_of_openStream {result : Except Fault StreamId}
    (oneYet : (streamTurns id steps).length = 1) (silent : itemsOf id steps = [])
    (atHand : AtHand (opened.run steps) id { session with stage := .opening })
    (opens : step.2 = .openStream id result) :
    Streamed opened id session status (steps ++ [step]) := by
  have begun : 2 ≤ (streamTurns id (steps ++ [step])).length := by simp [turns, oneYet]
  have asked : streamTurns id steps ≠ [] := by
    rintro noneYet
    simp [noneYet] at oneYet
  have effect := atHand.effect_openStream step.1 rfl result
  rw [← opens] at effect
  cases result with
  | ok stream =>
    have items : itemsOf id (steps ++ [step]) = [] := by
      simp [itemsOf_concat, opens, silent, Action.item?]
    refine streamed.concat_of_own atHand proper own effect (.receiving begun ?_) ?_ ?_ ?_
    · rw [items]
      rfl
    · rw [streamed.selected, items, silent]
    · simp [streamCalls, turns, items, silent, asked]
    · simp [items, silent]
  | error fault =>
    have items : itemsOf id (steps ++ [step]) = [some (.error fault)] := by
      simp [itemsOf_concat, opens, silent, Action.item?]
    have failed : ending? [some (.error fault)] = some (outcomeOf fault) := rfl
    refine streamed.concat_of_own atHand proper own effect (.finished begun (items ▸ failed))
      ?_ ?_ ?_
    · rw [streamed.selected, items, silent]
      rfl
    · have uncompleted : outcomeOf fault ≠ .completed := by
        unfold outcomeOf
        split <;> simp
      rw [streamCalls, streamCalls, turns, items, failed, silent]
      simp [asked, uncompleted, ending?]
    · simp [items, silent, heard]

theorem concat_of_receive {stream : StreamId} {item : StreamItem}
    (begun : 2 ≤ (streamTurns id steps).length) (unended : ending? (itemsOf id steps) = none)
    (atHand : AtHand (opened.run steps) id { session with stage := .receiving stream })
    (receives : step.2 = .receive id item) :
    Streamed opened id session status (steps ++ [step]) := by
  have asked : streamTurns id steps ≠ [] := by
    rintro noneYet
    simp [noneYet] at begun
  have longer : 2 ≤ (streamTurns id (steps ++ [step])).length := by
    rw [turns, List.length_append]
    omega
  have items : itemsOf id (steps ++ [step]) = itemsOf id steps ++ [item] := by
    simp [itemsOf_concat, receives, Action.item?]
  have ending : ending? (itemsOf id (steps ++ [step])) = endingOf? item := by
    rw [items, ending?_concat, unended, Option.none_or]
  obtain ⟨stage, standing, effect⟩ := atHand.effect_receive step.1 rfl item
  rw [← receives] at effect
  refine streamed.concat_of_own atHand proper own effect ?_ ?_ ?_ ?_
  · cases ended : endingOf? item with
    | none =>
      rw [ended] at standing ending
      exact standing ▸ .receiving longer ending
    | some outcome =>
      rw [ended] at standing ending
      rcases standing with rfl | ⟨rfl, rfl, delayed⟩
      · exact .finished longer ending
      · exact .listing longer ending ⟨step, by simp, delayed⟩
  · rw [items, heard_concat_of_open item unended, streamed.selected]
    cases chunk? item with
    | none => simp
    | some chunk => simp [logOf_concat]
  · simp [streamCalls, turns, asked, ending, unended]
  · rw [items, heard_concat_of_open item unended, streamed.selected]
    cases chunk? item with
    | none => simp
    | some chunk => simp [scrollsOf_concat]

theorem concat_of_late {stage : Stage} {item : StreamItem} {outcome : Outcome}
    (begun : 2 ≤ (streamTurns id steps).length)
    (ended : ending? (itemsOf id steps) = some outcome) (reached : Reached id steps stage)
    (atHand : AtHand (opened.run steps) id { session with stage })
    (receives : step.2 = .receive id item) :
    Streamed opened id session status (steps ++ [step]) := by
  have asked : streamTurns id steps ≠ [] := by
    rintro noneYet
    simp [noneYet] at begun
  have longer : 2 ≤ (streamTurns id (steps ++ [step])).length := by
    rw [turns, List.length_append]
    omega
  have items : itemsOf id (steps ++ [step]) = itemsOf id steps ++ [item] := by
    simp [itemsOf_concat, receives, Action.item?]
  have ending : ending? (itemsOf id (steps ++ [step])) = some outcome := by
    rw [items, ending?_concat, ended, Option.some_or]
  have unmoved : (opened.run steps).act step.1 step.2 = opened.run steps := by
    rw [receives]
    cases reached with
    | receiving _ unended => simp [unended] at ended
    | _ => simp [act, turn, atHand.found]
  have effect : Effect (opened.run steps) ((opened.run steps).act step.1 step.2) id
      { session with stage } [] [] (opened.run steps).state.selected := by
    rw [unmoved]
    exact .refl atHand.found
  refine streamed.concat_of_own atHand proper own effect ?_ ?_ ?_ ?_
  · cases reached with
    | ready noneYet => simp [noneYet] at begun
    | opening oneYet => simp [oneYet] at begun
    | receiving _ unended => simp [unended] at ended
    | listing _ completed waits =>
      obtain ⟨waiting, member, delayed⟩ := waits
      exact .listing longer (by rw [ending, ← ended, completed])
        ⟨waiting, by simp [member], delayed⟩
    | finished _ same => exact .finished longer (by rw [ending, ← ended, same])
  · rw [streamed.selected, items, heard_concat_of_ended item ended]
  · simp [streamCalls, turns, asked, ending, ended]
  · rw [items, heard_concat_of_ended item ended, List.append_nil]

end

theorem concat_of_turn {result : Except Fault StreamId} {script : List StreamItem}
    (planned : session.plan = some .pushStream) (proper : step.2.isProper)
    (own : step.2.session? = some id) (advances : step.2.isStreamTurn id)
    (order : streamTurns id (steps ++ [step]) <+:
      .start id :: .openStream id result :: script.map (.receive id)) :
    Streamed opened id session status (steps ++ [step]) := by
  obtain ⟨stage, reached, atHand⟩ := streamed.stands
  have turns : streamTurns id (steps ++ [step]) = streamTurns id steps ++ [step.2] := by
    rw [streamTurns_concat, if_pos advances]
  obtain ⟨first, second, later⟩ := next_of_order (turns ▸ order)
  cases reached with
  | ready noneYet silent =>
    exact streamed.concat_of_start proper own turns planned noneYet silent atHand (first noneYet)
  | opening oneYet silent =>
    exact streamed.concat_of_openStream proper own turns oneYet silent atHand (second oneYet)
  | receiving begun unended =>
    obtain ⟨item, receives⟩ := later begun
    exact streamed.concat_of_receive proper own turns begun unended atHand receives
  | listing begun ended waits =>
    obtain ⟨item, receives⟩ := later begun
    exact streamed.concat_of_late proper own turns begun ended (.listing begun ended waits) atHand
      receives
  | finished begun ended =>
    obtain ⟨item, receives⟩ := later begun
    exact streamed.concat_of_late proper own turns begun ended (.finished begun ended) atHand
      receives

end Streamed

theorem streamed_run {result : Except Fault StreamId} {script : List StreamItem}
    (coherent : Coherent .full opened) (begun : Streamed opened id session status [])
    (planned : session.plan = some .pushStream) (steps : List (Answers × Action))
    (proper : ∀ step ∈ steps, step.2.isProper)
    (order : streamTurns id steps <+:
      .start id :: .openStream id result :: script.map (.receive id))
    (unstopped : (opened.run steps).isUnstopped id) :
    Streamed opened id session status steps := by
  -- The induction is on the last step, since each step adds to what the session has been told.
  induction steps using List.reverseRecOn with
  | nil => exact begun
  | append_singleton steps step ih =>
    have earlier : ∀ step ∈ steps, step.2.isProper :=
      fun step member => proper step (by simp [member])
    have latest : step.2.isProper := proper step (by simp)
    have reached : Coherent .full (opened.run steps) :=
      (coherent.run_moves steps fun step member => .full (earlier step member)).coherent coherent
    have grows : (opened.run steps).Grows (opened.run (steps ++ [step])) := by
      rw [run_concat]
      exact (reached.act_moves (.full latest)).grows
    have prior : streamTurns id steps <+: streamTurns id (steps ++ [step]) := by
      rw [streamTurns_concat]
      exact List.prefix_append _ _
    have streamed := ih earlier (prior.trans order) (grows.isUnstopped unstopped)
    by_cases own : step.2.session? = some id
    · cases advances : step.2.isStreamTurn id with
      | true => exact streamed.concat_of_turn planned latest own advances order
      | false => exact streamed.concat_of_idle latest own advances
    · exact streamed.concat_of_other latest own unstopped

end

/-- The session that an action opens for a running job shows the chunks it has received, up to the
item that ends it. It asks for the stream once, and for the list of its challenge when its job has
completed; it scrolls once for every chunk with some text. -/
theorem stream_session_follows_script (start : Viewer) (opening : Answers × Action)
    (after : List (Answers × Action)) (job : String) (status : Status)
    (result : Except Fault StreamId) (script : List StreamItem)
    (reached : start.Reachable) (transport : start.config.transport = .stream)
    (opens : start.toggles? opening.1 opening.2 = some (job, status))
    (hidden : start.isDisplayed job = false) (live : status.isLive)
    (proper : ∀ step ∈ opening :: after, step.2.isProper)
    (order : streamTurns (start.sessions.length + 1) after <+:
      .start (start.sessions.length + 1) :: .openStream (start.sessions.length + 1) result ::
        script.map (.receive (start.sessions.length + 1)))
    (unstopped : ((start.act opening.1 opening.2).run after).isUnstopped
      (start.sessions.length + 1)) :
    let id := start.sessions.length + 1
    let opened := start.act opening.1 opening.2
    let viewer := opened.run after
    let items := itemsOf id after
    viewer.state.selected = some (logOf job status (heard items)) ∧
      ownRecord Viewer.calls id opened after =
        (if streamTurns id after = [] then [] else [.stream job]) ++
          (if ending? items = some .completed then listCalls opened.challenge else []) ∧
      ownRecord Viewer.scrolls id opened after =
        scrollsOf start.viewport job status (heard items) ∧
      ∃ session, viewer.session? id = some session ∧ session.job = job ∧
        viewer.ShowsBeforeList id session ∧
        (session.outcome? = ending? items ∨ ending? items = some .completed ∧
          session.stage = .listing none ∧ ∃ step ∈ after, step.1.delaysList) := by
  intro id opened viewer items
  have plan : Plan.forStatus? start.config status = some .pushStream := by
    simp [Plan.forStatus?, live, transport]
  obtain ⟨atHand, empty⟩ :=
    atHand_of_toggles reached.coherent (proper opening (by simp)) opens hidden plan
  let session : Session :=
    { job
      challenge := opened.challenge
      viewport := start.viewport
      plan := some .pushStream
      stage := .ready }
  have begun : Streamed opened id session status [] :=
    ⟨⟨.ready, .ready rfl rfl, atHand⟩, empty, rfl, rfl⟩
  obtain ⟨⟨stage, reached, still⟩, selected, calls, scrolls⟩ :=
    streamed_run atHand.coherent begun rfl after
      (fun step member => proper step (by simp [member])) order unstopped
  refine ⟨selected, calls, scrolls, _, still.found, rfl, still.showsBeforeList, ?_⟩
  cases reached with
  | ready _ silent | opening _ silent =>
    refine .inl ?_
    rw [show items = [] from silent]
    rfl
  | receiving _ unended => exact .inl unended.symm
  | listing _ ended waits => exact .inr ⟨ended, rfl, waits⟩
  | finished _ ended => exact .inl ended.symm

theorem stream_followed_to_its_end :
    let start := Viewer.run {} [(.bare, .setChallenge (some "c1")), (.bare, .setViewport (some 3))]
    let after : List (Answers × Action) := [(.bare, .start 1), (.bare, .openStream 1 (.ok 7)),
      (.bare, .receive 1 (some (.ok ⟨"a", .building, false⟩))), (.bare, .toggleList),
      (.bare, .receive 1 (some (.ok ⟨"b", .success, true⟩))),
      (.bare, .receive 1 (some (.ok ⟨"late", .failed, false⟩)))]
    let opened := start.act .bare (.toggle "j1" .building)
    (opened.run after).state.selected =
        some { job := "j1", content := "ab", status := .success } ∧
      ownRecord Viewer.calls 1 opened after = [.stream "j1", .list "c1"] ∧
      ownRecord Viewer.scrolls 1 opened after =
        [{ viewport := 3, shown := some { job := "j1", content := "a", status := .building } },
          { viewport := 3, shown := some { job := "j1", content := "ab", status := .success } }] ∧
      ∃ session, (opened.run after).session? 1 = some session ∧ session.job = "j1" ∧
        (opened.run after).ShowsBeforeList 1 session ∧
        (session.outcome? = some .completed ∨ some Outcome.completed = some .completed ∧
          session.stage = .listing none ∧ ∃ step ∈ after, step.1.delaysList) :=
  stream_session_follows_script
    (Viewer.run {} [(.bare, .setChallenge (some "c1")), (.bare, .setViewport (some 3))])
    (.bare, .toggle "j1" .building)
    [(.bare, .start 1), (.bare, .openStream 1 (.ok 7)),
      (.bare, .receive 1 (some (.ok ⟨"a", .building, false⟩))), (.bare, .toggleList),
      (.bare, .receive 1 (some (.ok ⟨"b", .success, true⟩))),
      (.bare, .receive 1 (some (.ok ⟨"late", .failed, false⟩)))]
    "j1" .building (.ok 7)
    [some (.ok ⟨"a", .building, false⟩),
      some (.ok ⟨"b", .success, true⟩),
      some (.ok ⟨"late", .failed, false⟩)]
    ⟨{}, [(.bare, .setChallenge (some "c1")), (.bare, .setViewport (some 3))], by decide, rfl⟩
    rfl rfl (by decide) rfl (by decide) ⟨[], rfl⟩ (by decide)

end Viewer

end BuildWatch
