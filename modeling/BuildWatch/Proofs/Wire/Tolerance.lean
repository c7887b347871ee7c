import BuildWatch.Proofs.Wire.Typed

namespace BuildWatch.Wire

open Json

/-- The records of the messages, and the one of the settings file. -/
inductive OnWire : {ρ : Type} → Record ρ → Prop
  | summary : OnWire summaryRecord
  | snapshot : OnWire snapshotRecord
  | chunk : OnWire chunkRecord
  | challenge : OnWire challengeRecord
  | frame : OnWire frameRecord
  | challengeReply : OnWire challengeReplyRecord
  | listReply : OnWire listReplyRecord
  | logReply : OnWire logReplyRecord
  | viewerConfig : OnWire viewerConfigRecord

/-- The members of an object that a record may be read from. Some that it needs may be missing. -/
structure Acceptable (fields : List Field) (members : List (String × List Token)) : Prop where
  once : Once fields members
  typed : ∀ field ∈ fields, ∀ tokens, (field.name, tokens) ∈ members →
    ∃ value, Typed field.codec tokens value
  tolerable : Tolerable fields members

variable {ρ : Type} {record : Record ρ} {fields : List Field} {values : Values fields}
  {members others : List (String × List Token)} {field : Field} {text : String}

theorem OnWire.distinct (wire : OnWire record) : (record.fields.map Field.name).Nodup := by
  cases wire <;> decide

/-! ## Members -/

theorem Acceptable.fits (acceptable : Acceptable fields members) : Fits fields members where
  once := acceptable.once
  reads field known tokens named := by
    obtain ⟨value, typed⟩ := acceptable.typed field known tokens named
    exact ⟨value, typed.sound.2⟩
  tolerable := acceptable.tolerable

theorem Acceptable.each (acceptable : Acceptable fields members) :
    ∀ entry ∈ members, IsValue entry.2 := by
  refine acceptable.tolerable.each fun field known tokens named => ?_
  obtain ⟨value, typed⟩ := acceptable.typed field known tokens named
  exact typed.sound.1

theorem exists_fills (typed : ∀ field ∈ fields, ∀ tokens, (field.name, tokens) ∈ members →
    ∃ value, Typed field.codec tokens value) (complete : firstMissing? fields members = none) :
    ∃ values, Fills members fields values := by
  induction fields with
  | nil => exact ⟨(), .nil members⟩
  | cons field fields ih =>
    obtain ⟨typedHere, typedLater⟩ := List.forall_mem_cons.mp typed
    simp only [firstMissing?, List.find?_cons] at complete
    split at complete
    · cases complete
    · rename_i settled
      obtain ⟨values, later⟩ := ih typedLater complete
      by_cases unnamed : Unnamed members field
      · simp only [unnamed, decide_true, Bool.and_true, Option.isNone_eq_false_iff,
          Option.isSome_iff_exists] at settled
        obtain ⟨value, default⟩ := settled
        exact ⟨(value, values), .absent unnamed default later⟩
      · simp only [Unnamed, not_forall, not_not] at unnamed
        obtain ⟨⟨key, tokens⟩, among, rfl⟩ := unnamed
        obtain ⟨value, typed⟩ := typedHere tokens among
        exact ⟨(value, values), .told among typed later⟩

def SameKnown (fields : List Field) (left right : List (String × List Token)) : Prop :=
  ∀ field ∈ fields, ∀ tokens, (field.name, tokens) ∈ left ↔ (field.name, tokens) ∈ right

theorem SameKnown.unnamed (same : SameKnown fields members others) (known : field ∈ fields) :
    Unnamed members field ↔ Unnamed others field := by
  constructor <;> rintro unnamed ⟨key, tokens⟩ among rfl
  · exact unnamed _ ((same field known tokens).mpr among) rfl
  · exact unnamed _ ((same field known tokens).mp among) rfl

theorem SameKnown.firstMissing? (same : SameKnown fields members others) :
    firstMissing? fields members = firstMissing? fields others := by
  induction fields with
  | nil => rfl
  | cons field fields ih =>
    have later := ih fun other known => same other (List.mem_cons_of_mem _ known)
    have here : decide (Unnamed members field) = decide (Unnamed others field) :=
      decide_eq_decide.mpr (same.unnamed List.mem_cons_self)
    simp only [Json.firstMissing?, List.find?_cons, here] at later ⊢
    rw [later]

theorem SameKnown.fills (same : SameKnown fields members others)
    (fills : Fills members fields values) : Fills others fields values := by
  induction fields with
  | nil => exact .nil others
  | cons field fields ih =>
    have here := same field List.mem_cons_self
    have sameLater : SameKnown fields members others :=
      fun other known => same other (List.mem_cons_of_mem _ known)
    cases fills with
    | told named typed later => exact .told ((here _).mp named) typed (ih sameLater later)
    | absent unnamed default later =>
      exact .absent ((same.unnamed List.mem_cons_self).mp unnamed) default (ih sameLater later)

/-! ## Texts -/

theorem decode_fills (wire : OnWire record) {values : Values record.fields}
    (acceptable : Acceptable record.fields members) (fills : Fills members record.fields values)
    (spelled : Spelled (objectOf (keyed members)) text.toList) :
    record.codec.decode text = .ok (record.ofValues values) :=
  (Typed.object wire.distinct acceptable.once acceptable.tolerable fills).decode spelled

theorem decode_missing (wire : OnWire record) (acceptable : Acceptable record.fields members)
    (missing : firstMissing? record.fields members = some field)
    (spelled : Spelled (objectOf (keyed members)) text.toList) :
    record.codec.decode text = .error (.mismatch (.missingField field.name)) := by
  have read := Record.read_missing wire.distinct acceptable.fits missing []
  rw [List.append_nil] at read
  rw [Codec.decode, scan_of_spelled spelled (isValue_objectOf acceptable.each).apart, read]

def repeating (members : List (String × List Token)) (key : String) : List Token :=
  .openObject :: (membersOf (keyed members) ++ [.comma, .text key])

theorem decode_repeated (wire : OnWire record) (acceptable : Acceptable record.fields members)
    {tokens : List Token} (known : field ∈ record.fields)
    (named : (field.name, tokens) ∈ members) {front : List Char} (rest : List Char)
    (spelled : Spelled (repeating members field.name) front) :
    record.codec.decode (String.ofList (front ++ rest)) =
      .error (.mismatch (.duplicateField field.name)) := by
  have membersApart : Apart (membersOf (keyed members)) :=
    apart_membersOf (isKey_keyed members) fun entry among =>
      (isValue_keyed acceptable.each entry among).apart
  have apart : Apart (repeating members field.name) :=
    apart_cons rfl (apart_append_cons membersApart rfl (apart_single _))
  have ends : ∀ n, (repeating members field.name).getLast? = some (.number n) →
      EndsNumeral rest := by
    intro n last
    simp [repeating, List.getLast?_cons, List.getLast?_append] at last
  rw [Codec.decode, scan, String.toList_ofList, scanFrom_of_spelled spelled apart ends, repeating,
    List.cons_append, List.append_assoc, List.cons_append, List.cons_append,
    Record.read_repeated wire.distinct acceptable.fits known named]

/-- What a record of the wire makes of an object: the values its members give, each with its own
type (any string is a status), and the defaults of those that are left out; or else the first field
that must be there and is not. Neither the order nor a member that it does not know matters. A field
that comes again ends the reading at once. -/
theorem decode_members (wire : OnWire record) (acceptable : Acceptable record.fields members) :
    (firstMissing? record.fields members = none →
      ∃ values, Fills members record.fields values) ∧
    (∀ text : String, Spelled (objectOf (keyed members)) text.toList →
      (∀ values, Fills members record.fields values →
        record.codec.decode text = .ok (record.ofValues values)) ∧
      (∀ field, firstMissing? record.fields members = some field →
        record.codec.decode text = .error (.mismatch (.missingField field.name))) ∧
      ∀ others, Acceptable record.fields others → SameKnown record.fields members others →
        ∀ other : String, Spelled (objectOf (keyed others)) other.toList →
          record.codec.decode other = record.codec.decode text) ∧
    ∀ field ∈ record.fields, ∀ tokens, (field.name, tokens) ∈ members →
      ∀ front rest, Spelled (repeating members field.name) front →
        record.codec.decode (String.ofList (front ++ rest)) =
          .error (.mismatch (.duplicateField field.name)) := by
  refine ⟨exists_fills acceptable.typed, fun text spelled => ⟨?_, ?_, ?_⟩, ?_⟩
  · exact fun values fills => decode_fills wire acceptable fills spelled
  · exact fun field missing => decode_missing wire acceptable missing spelled
  · intro others acceptableOthers same other spelledOther
    cases missing : firstMissing? record.fields members with
    | some field =>
      rw [decode_missing wire acceptable missing spelled]
      exact decode_missing wire acceptableOthers (same.firstMissing? ▸ missing) spelledOther
    | none =>
      obtain ⟨values, fills⟩ := exists_fills acceptable.typed missing
      rw [decode_fills wire acceptable fills spelled]
      exact decode_fills wire acceptableOthers (same.fills fills) spelledOther
  · exact fun field known tokens named front rest spelled =>
      decode_repeated wire acceptable known named rest spelled

/-! ### A chunk out of order -/

def disordered : List (String × List Token) :=
  [("at", listOf [[.number (.ofInt 1)], [.null]]), ("status", [.text " Success"]),
    ("line", [.text "done"])]

theorem typed_padded_status : Typed status [.text " Success"] .success := by
  have typed := Typed.status " Success"
  rwa [show Status.ofWire " Success" = .success by decide +kernel] at typed

theorem acceptable_disordered : Acceptable chunkRecord.fields disordered where
  once := by
    unfold Once
    decide +kernel
  typed := by
    intro field known tokens named
    simp only [chunkRecord, List.mem_cons, List.not_mem_nil, or_false] at known
    rcases known with rfl | rfl | rfl
    · obtain rfl : tokens = [.text "done"] := by simpa [Field.defaulted, disordered] using named
      exact ⟨_, .text "done"⟩
    · obtain rfl : tokens = [.text " Success"] := by simpa [Field.required, disordered] using named
      exact ⟨_, typed_padded_status⟩
    · simp [Field.defaulted, disordered] at named
  tolerable := by
    intro entry among _
    simp only [disordered, List.mem_cons, List.not_mem_nil, or_false] at among
    rcases among with rfl | rfl | rfl
    · exact .list (by simp [IsValue.number, IsValue.null])
    · exact .text _
    · exact .text _

theorem fills_disordered :
    Fills disordered chunkRecord.fields ("done", .success, false, ()) := by
  refine .told ?_ (.text "done") (.told ?_ typed_padded_status (.absent ?_ rfl (.nil _))) <;>
    simp [disordered, Unnamed, Field.defaulted, Field.required]

theorem writable_disordered : Writable (membersOf (keyed disordered)) := by
  have number : Writable [.number (.ofInt 1)] := (Token.Writable.integer 1).alone
  have null : Writable [.null] := writable_fixed (by decide) writable_nil
  have text (value : String) : Writable [.text value] := (Token.Writable.text value).alone
  have sequence : Writable (listOf [[.number (.ofInt 1)], [.null]]) :=
    writable_listOf (List.forall_mem_cons.mpr ⟨number, List.forall_mem_singleton.mpr null⟩)
  refine writable_membersOf (writable_keyed (List.forall_mem_cons.mpr ⟨sequence, ?_⟩))
  exact List.forall_mem_cons.mpr ⟨text _, List.forall_mem_singleton.mpr (text _)⟩

theorem decode_disordered_chunk :
    chunkRecord.codec.decode
        "\x7b\"at\":[1,null],\"status\":\" Success\",\"line\":\"done\"\x7d" =
      .ok ⟨"done", .success, false⟩ ∧
    chunkRecord.codec.decode
        "\x7b\"at\":[1,null],\"status\":\" Success\",\"line\":\"done\",\"line\"?" =
      .error (.mismatch (.duplicateField "line")) := by
  have whole : Spelled (objectOf (keyed disordered)) (render (objectOf (keyed disordered))).toList :=
    spelled_render (writable_fixed (by decide)
      (writable_append writable_disordered (writable_fixed (by decide) writable_nil)))
  have front : Spelled (repeating disordered "line") (render (repeating disordered "line")).toList :=
    spelled_render (writable_fixed (by decide) (writable_append writable_disordered
      (writable_fixed (by decide) (Token.Writable.text "line").alone)))
  have wholeText : render (objectOf (keyed disordered)) =
      "\x7b\"at\":[1,null],\"status\":\" Success\",\"line\":\"done\"\x7d" := by
    decide +kernel
  have frontText : render (repeating disordered "line") =
      "\x7b\"at\":[1,null],\"status\":\" Success\",\"line\":\"done\",\"line\"" := by
    decide +kernel
  rw [wholeText] at whole
  rw [frontText] at front
  obtain ⟨-, reads, repeated⟩ := decode_members .chunk acceptable_disordered
  refine ⟨(reads _ whole).1 _ fills_disordered, ?_⟩
  have refused := repeated (.defaulted "line" Codec.text "") (by simp [chunkRecord])
    [.text "done"] (by simp [disordered, Field.defaulted]) _ ['?'] front
  exact refused

end BuildWatch.Wire
