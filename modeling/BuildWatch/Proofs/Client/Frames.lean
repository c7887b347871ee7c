import BuildWatch.Client.Socket
import BuildWatch.Proofs.Follow.News

/-!
# From messages to the log

What the messages of a socket come to. Only the frames among them count: a session that follows a
stream sees neither how a frame has been sent nor what has been sent between two frames.

* `Yields`: what a run of messages brings, message by message.
* `Agrees`: runs of messages that differ in nothing but the sending.
* `Pushes.settled`: the log, the scrolls and the end of a session, read off its messages.
* `messages_decide_session`: what follows from that, and the log that plain lines add up to.
-/

namespace BuildWatch

theorem Text.decode_eq_ok_iff {bytes : ByteArray} {text : String} :
    Text.decode bytes = .ok text ↔ text.toUTF8 = bytes := by
  constructor
  · intro decoded
    unfold Text.decode at decoded
    split at decoded
    · rename_i found read
      obtain rfl := Except.ok.inj decoded
      unfold String.fromUTF8? at read
      split at read
      · rw [← Option.some.inj read]
        rfl
      · cases read
    · cases decoded
  · rintro rfl
    exact Text.decode_toUTF8 text

namespace Client

variable {message : Message} {messages left right : List Message} {line : String}
  {status : Status} {chunk : Chunk}

/-! ## What messages bring -/

def decoded (line : String) : Except Fault Chunk :=
  (Wire.decodeFrame line).mapError Wire.FrameError.fault

/-- What a message brings to the log, if anything. -/
inductive Brings : Message → Option (Except Fault Chunk) → Prop
  | text (line : String) : Brings (.text line) (some (decoded line))
  | bytes (line : String) : Brings (.binary line.toUTF8) (some (decoded line))
  | noText {bytes : ByteArray} {bad : Text.BadSequence}
      (unreadable : ∀ line : String, line.toUTF8 ≠ bytes)
      (located : Text.decode bytes = .error bad) :
      Brings (.binary bytes) (some (.error (.protocol bad.message)))
  | ping : Brings .ping none
  | pong : Brings .pong none

/-- What a run of messages brings, in its order. One that breaks off ends with a fault, whose text
stands in for the one of the library that reads the stream. -/
inductive Yields : List Message → List (Except Fault Chunk) → Prop
  | lost : Yields [] [.error (.transport "connection reset without closing handshake")]
  | closed (rest : List Message) : Yields (.close :: rest) []
  | message {message : Message} {rest : List Message} {brought : Option (Except Fault Chunk)}
      {out : List (Except Fault Chunk)} (brings : Brings message brought)
      (later : Yields rest out) : Yields (message :: rest) (brought.toList ++ out)

def told (messages : List Message) : List (Except Fault Chunk) :=
  (items messages).map fun item => item.mapError StreamError.fault

theorem told_cons (goes : message.isClose = false) (rest : List Message) :
    told (message :: rest) =
      (message.item?.map fun item => item.mapError StreamError.fault).toList ++ told rest := by
  cases brought : message.item? <;> simp [told, items, goes, brought]

theorem fault_frameItem (line : String) :
    (frameItem line).mapError StreamError.fault = decoded line := by
  unfold frameItem decoded
  cases Wire.decodeFrame line <;> rfl

theorem Brings.told_eq {brought : Option (Except Fault Chunk)} (brings : Brings message brought) :
    message.isClose = false ∧
      message.item?.map (fun item => item.mapError StreamError.fault) = brought := by
  refine ⟨by cases brings <;> rfl, ?_⟩
  cases brings with
  | text line => exact congrArg some (fault_frameItem line)
  | bytes line =>
    rw [Message.item?, Text.decode_toUTF8]
    exact congrArg some (fault_frameItem line)
  | noText _ located =>
    rw [Message.item?, located]
    rfl
  | ping | pong => rfl

theorem told_of_brings {brought : Option (Except Fault Chunk)} (brings : Brings message brought)
    (rest : List Message) : told (message :: rest) = brought.toList ++ told rest := by
  obtain ⟨goes, same⟩ := brings.told_eq
  rw [told_cons goes, same]

theorem brings_of_open (goes : message.isClose = false) :
    Brings message (message.item?.map fun item => item.mapError StreamError.fault) := by
  cases message with
  | text line =>
    rw [Message.item?, Option.map_some, fault_frameItem]
    exact .text line
  | binary bytes =>
    cases read : Text.decode bytes with
    | ok line =>
      obtain rfl := Text.decode_eq_ok_iff.mp read
      rw [Message.item?, read, Option.map_some, fault_frameItem]
      exact .bytes line
    | error bad =>
      rw [Message.item?, read]
      refine .noText (fun line same => ?_) read
      rw [Text.decode_eq_ok_iff.mpr same] at read
      cases read
  | ping => exact .ping
  | pong => exact .pong
  | close => cases goes

theorem yields_iff {out : List (Except Fault Chunk)} :
    Yields messages out ↔ out = told messages := by
  constructor
  · intro yields
    induction yields with
    | lost | closed => rfl
    | message brings _ ih => rw [told_of_brings brings, ih]
  · rintro rfl
    induction messages with
    | nil => exact .lost
    | cons message rest ih =>
      cases goes : message.isClose with
      | false =>
        rw [told_cons goes]
        exact .message (brings_of_open goes) ih
      | true =>
        cases message <;> first | exact .closed rest | cases goes

/-! ## Messages that say the same -/

def Message.isIdle : Message → Bool
  | ping | pong => true
  | _ => false

/-- One run of messages becomes the other when idle messages are put in or left out and texts are
sent as bytes or the other way round. -/
inductive Agrees : List Message → List Message → Prop
  | nil : Agrees [] []
  | cons (message : Message) {left right : List Message} (rest : Agrees left right) :
      Agrees (message :: left) (message :: right)
  | insert {message : Message} (idle : message.isIdle) {left right : List Message}
      (rest : Agrees left right) : Agrees left (message :: right)
  | remove {message : Message} (idle : message.isIdle) {left right : List Message}
      (rest : Agrees left right) : Agrees (message :: left) right
  | encode (line : String) {left right : List Message} (rest : Agrees left right) :
      Agrees (.text line :: left) (.binary line.toUTF8 :: right)
  | decode (line : String) {left right : List Message} (rest : Agrees left right) :
      Agrees (.binary line.toUTF8 :: left) (.text line :: right)

theorem told_of_idle (idle : message.isIdle) (rest : List Message) :
    told (message :: rest) = told rest := by
  cases message with
  | ping => exact told_of_brings .ping rest
  | pong => exact told_of_brings .pong rest
  | _ => cases idle

theorem told_text (line : String) (rest : List Message) :
    told (.text line :: rest) = decoded line :: told rest :=
  told_of_brings (.text line) rest

theorem told_bytes (line : String) (rest : List Message) :
    told (.binary line.toUTF8 :: rest) = decoded line :: told rest :=
  told_of_brings (.bytes line) rest

theorem Agrees.told_eq (agrees : Agrees left right) : told left = told right := by
  induction agrees with
  | nil => rfl
  | cons message _ ih =>
    cases goes : message.isClose with
    | false => rw [told_cons goes, told_cons goes, ih]
    | true => cases message <;> first | rfl | cases goes
  | insert idle _ ih => rw [told_of_idle idle, ih]
  | remove idle _ ih => rw [told_of_idle idle, ih]
  | encode line _ ih | decode line _ ih => rw [told_bytes, told_text, ih]

/-! ## Plain lines -/

/-- A line of the log as it is sent by itself. -/
structure Plain (line : String) : Prop where
  unbroken : '\n' ∉ line.toList
  unstructured : Wire.isStructured line = false
  unmarked : Wire.marker? line = none

def plainChunk (line : String) : Chunk where
  line := line ++ "\n"
  status := .building
  isComplete := false

def markerChunk (status : Status) : Chunk where
  line := ""
  status := status
  isComplete := true

theorem decoded_of_plain (plain : Plain line) : decoded line = .ok (plainChunk line) := by
  have openEnded : line.toList.getLast? ≠ some '\n' := fun last =>
    plain.unbroken (List.mem_of_getLast? last)
  simp [decoded, Wire.decodeFrame, plain.unstructured, plain.unmarked, Wire.terminated, openEnded,
    Except.mapError, plainChunk]

theorem isStructured_of_marker {detail : String}
    (marked : Wire.marker? line = some (status, detail)) : Wire.isStructured line = false := by
  obtain ⟨rest, found, -⟩ := Option.map_eq_some_iff.mp marked
  have front : Text.trimEnd line.toList <+: line.toList := by
    rw [← List.reverse_suffix, Text.trimEnd, List.reverse_reverse]
    exact List.dropWhile_suffix _
  obtain ⟨blanks, whole⟩ := Text.afterPrefix?_eq_some.mp found ▸ front
  have start : line.toList = 'B' :: ("UILD_COMPLETE:".toList ++ rest ++ blanks) := by
    rw [← whole]
    rfl
  rw [Wire.isStructured, start, Text.trimStart_cons_of_not_blank (by decide)]
  rfl

theorem decoded_of_marker {detail : String}
    (marked : Wire.marker? line = some (status, detail)) :
    decoded line = .ok (markerChunk status) := by
  simp [decoded, Wire.decodeFrame, isStructured_of_marker marked, marked, Except.mapError,
    markerChunk]

theorem told_lines {lines : List String} (plain : ∀ line ∈ lines, Plain line)
    (rest : List Message) : told (lines.map .text ++ rest) =
      lines.map (fun line => .ok (plainChunk line)) ++ told rest := by
  induction lines with
  | nil => rfl
  | cons line lines ih =>
    obtain ⟨first, others⟩ := List.forall_mem_cons.mp plain
    rw [List.map_cons, List.cons_append, told_text, decoded_of_plain first, ih others]
    rfl

/-! ## Sessions over messages -/

def script (messages : List Message) : List StreamItem :=
  (told messages).map some ++ [none]

end Client

namespace Viewer

open Client

section
variable {id : SessionId} {earlier items : List StreamItem} {outcome : Outcome}

theorem heard_append_of_ended (ended : ending? earlier = some outcome) (rest : List StreamItem) :
    heard (earlier ++ rest) = heard earlier ∧ ending? (earlier ++ rest) = some outcome := by
  refine ⟨?_, by rw [ending?, List.findSome?_append, ← ending?, ended, Option.some_or]⟩
  induction rest using List.reverseRecOn with
  | nil => rw [List.append_nil]
  | append_singleton rest item ih =>
    have still : ending? (earlier ++ rest) = some outcome := by
      rw [ending?, List.findSome?_append, ← ending?, ended, Option.some_or]
    rw [← List.append_assoc, heard_concat_of_ended item still, ih]

theorem heard_chunks {chunks : List Chunk} {last : Chunk}
    (incomplete : ∀ chunk ∈ chunks, chunk.isComplete = false) (complete : last.isComplete)
    (rest : List StreamItem) :
    let items := chunks.map (fun chunk => some (.ok chunk)) ++ some (.ok last) :: rest
    heard items = chunks ++ [last] ∧ ending? items = some .completed := by
  induction chunks with
  | nil => simp [heard, ending?, endingOf?, complete]
  | cons chunk chunks ih =>
    obtain ⟨goes, others⟩ := List.forall_mem_cons.mp incomplete
    obtain ⟨chunksEq, ending⟩ := ih others
    have later : (chunk :: chunks).map (fun chunk => some (.ok chunk)) ++ some (.ok last) :: rest =
        (some (.ok chunk) : StreamItem) ::
          (chunks.map (fun chunk => some (.ok chunk)) ++ some (.ok last) :: rest) := rfl
    rw [later]
    refine ⟨?_, ?_⟩
    · rw [heard, goes, if_neg Bool.false_ne_true, chunksEq, List.cons_append]
    · rw [ending?, List.findSome?_cons, endingOf?, goes]
      exact ending

theorem itemsOf_eq (steps : List (Answers × Action)) :
    itemsOf id steps = (streamTurns id steps).filterMap (Action.item? id) := by
  induction steps using List.reverseRecOn with
  | nil => rfl
  | append_singleton steps step ih =>
    cases advances : step.2.isStreamTurn id with
    | false =>
      obtain ⟨turns, items⟩ := same_of_not_isStreamTurn steps advances
      rw [turns, items, ih]
    | true =>
      rw [itemsOf_concat, streamTurns_concat, if_pos advances, List.filterMap_append, ih]
      cases told : step.2.item? id <;> simp [told]

theorem itemsOf_prefix {steps : List (Answers × Action)} {stream : StreamId}
    (order : streamTurns id steps <+:
      .start id :: .openStream id (.ok stream) :: items.map (.receive id)) :
    itemsOf id steps <+: items := by
  have turns := order.filterMap (Action.item? id)
  have all : (items.map (Action.receive id)).filterMap (Action.item? id) = items := by
    simp [Action.item?, List.filterMap_map, Function.comp_def]
  rw [← itemsOf_eq] at turns
  change itemsOf id steps <+: (items.map (Action.receive id)).filterMap (Action.item? id) at turns
  rwa [all] at turns

end

/-- A session is over, or it will be when the answer to its request for the list has come. -/
def Settles (viewer : Viewer) (id : SessionId) (outcome : Outcome) : Prop :=
  ∃ session, viewer.session? id = some session ∧
    (session.outcome? = some outcome ∨ outcome = .completed ∧ session.stage = .listing none ∧
      ∀ answers result, ((viewer.act answers (.listed id result)).session? id).bind
        Session.outcome? = some .completed)

theorem settles_of_listing {viewer : Viewer} {id : SessionId} {session : Session}
    (found : viewer.session? id = some session) (listing : session.stage = .listing none) :
    Settles viewer id .completed := by
  refine ⟨session, found, .inr ⟨rfl, listing, fun answers result => ?_⟩⟩
  have acted : viewer.act answers (.listed id result) = viewer.listed id none result := by
    simp only [act, turn, found, listing]
  have effect := Effect.listed found none result
  rw [acted, effect.found]
  rfl

/-- A run in which a job is opened and its session is told the items of a stream, in their order and
up to the one that ends it. -/
structure Pushes (start : Viewer) (opening : Answers × Action) (after : List (Answers × Action))
    (job : String) (status : Status) (items : List StreamItem) : Prop where
  run : LiveRun start opening after job status
  transport : start.config.transport = .stream
  order : ∃ stream, streamTurns (start.sessions.length + 1) after <+:
    .start (start.sessions.length + 1) :: .openStream (start.sessions.length + 1) (.ok stream) ::
      items.map (.receive (start.sessions.length + 1))
  ended : (ending? (itemsOf (start.sessions.length + 1) after)).isSome

section
variable {start : Viewer} {opening : Answers × Action} {after : List (Answers × Action)}
  {job : String} {status : Status} {items : List StreamItem}

theorem Pushes.settled (pushes : Pushes start opening after job status items) :
    let id := start.sessions.length + 1
    let opened := start.act opening.1 opening.2
    (opened.run after).state.selected = some (logOf job status (heard items)) ∧
      ownRecord Viewer.scrolls id opened after =
        scrollsOf start.viewport job status (heard items) ∧
      ∃ outcome, ending? items = some outcome ∧ Settles (opened.run after) id outcome := by
  intro id opened
  obtain ⟨run, transport, ⟨stream, order⟩, ended⟩ := pushes
  have plan : Plan.forStatus? start.config status = some .pushStream := by
    simp [Plan.forStatus?, run.live, transport]
  obtain ⟨atHand, empty⟩ := atHand_of_toggles run.arises.coherent
    (run.proper opening (by simp)) run.opens run.hidden plan
  let session : Session :=
    { job
      challenge := opened.challenge
      viewport := start.viewport
      plan := some .pushStream
      stage := .ready }
  have begun : Streamed opened id session status [] :=
    ⟨⟨.ready, .ready rfl rfl, atHand⟩, empty, rfl, rfl⟩
  have streamed := streamed_run atHand.coherent begun rfl after
    (fun step member => run.proper step (by simp [member])) order run.unstopped
  obtain ⟨outcome, endsWith⟩ := Option.isSome_iff_exists.mp ended
  obtain ⟨rest, whole⟩ := itemsOf_prefix order
  obtain ⟨sameHeard, sameEnding⟩ := heard_append_of_ended endsWith rest
  rw [whole] at sameHeard sameEnding
  refine ⟨by rw [sameHeard]; exact streamed.selected, by rw [sameHeard]; exact streamed.scrolls,
    outcome, sameEnding, ?_⟩
  obtain ⟨stage, reached, still⟩ := streamed.stands
  cases reached with
  | ready _ silent | opening _ silent =>
    rw [silent] at endsWith
    cases endsWith
  | receiving _ unended =>
    rw [unended] at endsWith
    cases endsWith
  | finished _ told => exact ⟨_, still.found, .inl (told.symm.trans endsWith)⟩
  | listing _ told =>
    obtain rfl : outcome = .completed := Option.some.inj (endsWith.symm.trans told)
    exact settles_of_listing still.found rfl

def delivery (id : SessionId) (stream : StreamId) (items : List StreamItem) :
    List (Answers × Action) :=
  (.bare, .start id) :: (.bare, .openStream id (.ok stream)) ::
    items.map fun item => (.bare, .receive id item)

theorem Pushes.of_delivery (stream : StreamId) (answers : Answers) (arises : start.Arises)
    (transport : start.config.transport = .stream) (hidden : start.isDisplayed job = false)
    (live : status.isLive) (ended : (ending? items).isSome)
    (unstopped : ((start.act answers (.toggle job status)).run
      (delivery (start.sessions.length + 1) stream items)).isUnstopped
        (start.sessions.length + 1)) :
    Pushes start (answers, .toggle job status)
      (delivery (start.sessions.length + 1) stream items) job status items where
  run :=
    { arises, hidden, live, unstopped
      opens := rfl
      proper := by simp [delivery, Action.isProper] }
  transport := transport
  order := by
    have receives (id : SessionId) : (items.map (Action.receive id)).filter
        (Action.isStreamTurn id) = items.map (.receive id) := by
      simp [List.filter_eq_self, Action.isStreamTurn]
    refine ⟨stream, ?_⟩
    simp [streamTurns, delivery, Action.isStreamTurn, Function.comp_def, receives]
  ended := by
    have all (id : SessionId) : itemsOf id (delivery id stream items) = items := by
      simp [itemsOf, delivery, Action.item?, List.filterMap_map]
    rwa [all]

end

/-- The items of a stream are its frames and what is wrong with it, in their order, and nothing
else. So a session that follows it leaves the same log, asks for the same scrolls and comes to the
same end however the frames have been sent. Plain lines and a marker after them add up to a log with
a line feed after each line and the status of the marker. -/
theorem messages_decide_session :
    (∀ messages out, Yields messages out ↔ out = told messages) ∧
    (∀ (left right : List Message) (first second : Viewer) (firstOpening secondOpening)
      (afterFirst afterSecond) (job : String) (status : Status), Agrees left right →
      first.viewport = second.viewport →
      Pushes first firstOpening afterFirst job status (script left) →
      Pushes second secondOpening afterSecond job status (script right) →
      let firstOpened := first.act firstOpening.1 firstOpening.2
      let secondOpened := second.act secondOpening.1 secondOpening.2
      (firstOpened.run afterFirst).state.selected =
          (secondOpened.run afterSecond).state.selected ∧
        ownRecord Viewer.scrolls (first.sessions.length + 1) firstOpened afterFirst =
          ownRecord Viewer.scrolls (second.sessions.length + 1) secondOpened afterSecond ∧
        ∃ outcome, Settles (firstOpened.run afterFirst) (first.sessions.length + 1) outcome ∧
          Settles (secondOpened.run afterSecond) (second.sessions.length + 1) outcome) ∧
    ∀ (lines : List String) (marker detail : String) (final : Status) (messages rest : List Message)
      (start : Viewer) (opening) (after) (job : String) (status : Status),
      (∀ line ∈ lines, Plain line) → Wire.marker? marker = some (final, detail) →
      Agrees messages (lines.map .text ++ .text marker :: rest) →
      Pushes start opening after job status (script messages) →
      let viewer := (start.act opening.1 opening.2).run after
      let content := String.join (lines.map (· ++ "\n"))
      viewer.state.selected = some { job, content, status := final } ∧
        Settles viewer (start.sessions.length + 1) .completed := by
  refine ⟨fun messages out => yields_iff, ?_, ?_⟩
  · intro left right first second firstOpening secondOpening afterFirst afterSecond job status
      agrees sameViewport pushesFirst pushesSecond firstOpened secondOpened
    rw [show script left = script right by rw [script, agrees.told_eq, script]] at pushesFirst
    obtain ⟨selected, scrolls, outcome, ending, settles⟩ := pushesFirst.settled
    obtain ⟨selected', scrolls', outcome', ending', settles'⟩ := pushesSecond.settled
    obtain rfl : outcome = outcome' := Option.some.inj (ending.symm.trans ending')
    exact ⟨selected.trans selected'.symm,
      (scrolls.trans (by rw [sameViewport])).trans scrolls'.symm, outcome, settles, settles'⟩
  · intro lines marker detail final messages rest start opening after job status plain marked agrees
      pushes viewer content
    have items : script messages = (lines.map plainChunk).map (fun chunk => some (.ok chunk)) ++
        some (.ok (markerChunk final)) :: script rest := by
      rw [script, agrees.told_eq, told_lines plain, told_text, decoded_of_marker marked]
      simp [script, Function.comp_def]
    have incomplete : ∀ chunk ∈ lines.map plainChunk, chunk.isComplete = false := by
      simp [plainChunk]
    have complete : (markerChunk final).isComplete = true := rfl
    obtain ⟨chunks, ending⟩ := heard_chunks incomplete complete (script rest)
    rw [← items] at chunks ending
    obtain ⟨selected, -, outcome, endsWith, settles⟩ := pushes.settled
    obtain rfl : outcome = .completed := Option.some.inj (endsWith.symm.trans ending)
    refine ⟨selected.trans ?_, settles⟩
    rw [chunks]
    simp [logOf, plainChunk, markerChunk, Function.comp_def, String.join_append, content]

theorem plain_lines_followed :
    let bytes : List Message :=
      [.text "one", .ping, .binary "two".toUTF8, .text "BUILD_COMPLETE:success", .pong, .close]
    let texts : List Message :=
      [.text "one", .text "two", .text "BUILD_COMPLETE:success", .close]
    let opened := ({ viewport := some 3 } : Viewer).act .bare (.toggle "j" .building)
    let log : SelectedLog := { job := "j", content := "one\ntwo\n", status := .success }
    ((opened.run (delivery 1 7 (script bytes))).state.selected = some log ∧
      Settles (opened.run (delivery 1 7 (script bytes))) 1 .completed) ∧
    ownRecord Viewer.scrolls 1 opened (delivery 1 7 (script bytes)) =
      ownRecord Viewer.scrolls 1 opened (delivery 1 7 (script texts)) := by
  intro bytes texts opened log
  have agrees : Agrees bytes texts :=
    .cons _ (.remove rfl (.decode "two" (.cons _ (.remove rfl (.cons _ .nil)))))
  have arises : ({ viewport := some 3 } : Viewer).Arises :=
    ⟨{}, {}, [(.bare, .setViewport (some 3))], by simp [Action.isProper], rfl⟩
  have overBytes : Pushes { viewport := some 3 } _ _ "j" .building (script bytes) :=
    .of_delivery 7 .bare arises rfl rfl rfl (by decide +kernel) (by decide +kernel)
  have overTexts : Pushes { viewport := some 3 } _ _ "j" .building (script texts) :=
    .of_delivery 7 .bare arises rfl rfl rfl (by decide +kernel) (by decide +kernel)
  have plain : ∀ line ∈ ["one", "two"], Plain line := by
    simp only [List.mem_cons, List.not_mem_nil, or_false, forall_eq_or_imp, forall_eq]
    exact ⟨⟨by decide +kernel, by decide +kernel, by decide +kernel⟩,
      ⟨by decide +kernel, by decide +kernel, by decide +kernel⟩⟩
  have joined : String.join (["one", "two"].map (· ++ "\n")) = "one\ntwo\n" := by decide +kernel
  have lines := messages_decide_session.2.2 ["one", "two"] "BUILD_COMPLETE:success" "" .success
    bytes [.close] _ _ _ "j" .building plain (by decide +kernel) agrees overBytes
  rw [joined] at lines
  exact ⟨lines, (messages_decide_session.2.1 bytes texts _ _ _ _ _ _ "j" .building agrees rfl
    overBytes overTexts).2.1⟩

end Viewer

end BuildWatch
