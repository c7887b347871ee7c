import BuildWatch.Proofs.Instant.Timestamp
import BuildWatch.Proofs.Wire.Typed

/-!
# There and back

What a codec writes is a value of the right type, so a reader that takes all of them takes this one
too. A codec that writes each value as one that stands for it is faithful; records are if their
fields are.

* `Faithful.restores`: the text of a value is decoded to the value.
* `decode_encode`: so it is for every type of the messages, and a text that is decoded has a form
  that stays as it is.
-/

namespace BuildWatch.Wire

open Json

variable {α : Type} {codec : Codec α} {field : Field} {fields : List Field}
  {members : List (String × List Token)}

/-- What is written for a value stands for it, and has a text. -/
structure Faithful {α : Type} (codec : Codec α) : Prop where
  typed : ∀ value, Typed codec (codec.write value) value
  writable : ∀ value, Writable (codec.write value)

theorem Faithful.restores (faithful : Faithful codec) (value : α) :
    codec.decode (codec.encode value) = .ok value :=
  (faithful.typed value).decode (spelled_render (faithful.writable value))

/-! ## Plain values -/

theorem faithful_text : Faithful Codec.text where
  typed value := .text value
  writable value := (Token.Writable.text value).alone

theorem faithful_flag : Faithful Codec.flag where
  typed value := .flag value
  writable value := writable_fixed (by cases value <;> decide) writable_nil

theorem faithful_status : Faithful status where
  typed value := by
    have typed := Typed.status value.wire
    rwa [Status.ofWire_wire] at typed
  writable value := (Token.Writable.text value.wire).alone

theorem faithful_instant : Faithful instant where
  typed value := .instant value.parse?_timestamp
  writable value := (Token.Writable.text value.timestamp).alone

theorem faithful_signed : Faithful signed where
  typed value := .signed value
  writable value := (Token.Writable.integer value.toInt).alone

theorem faithful_optional (faithful : Faithful codec)
    (given : ∀ value, codec.write value ≠ [.null]) : Faithful codec.optional where
  typed
    | none => .null codec
    | some value => .present (given value) (faithful.typed value)
  writable
    | none => writable_fixed (by decide) writable_nil
    | some value => faithful.writable value

theorem writeElements_eq (codec : Codec α) (values : List α) :
    Codec.writeElements codec values = separated (values.map codec.write) := by
  induction values with
  | nil => rfl
  | cons value values ih =>
    cases values with
    | nil => rfl
    | cons next values =>
      rw [Codec.writeElements, ih]
      · rfl
      · exact List.cons_ne_nil next values

theorem list_write (codec : Codec α) (values : List α) :
    codec.list.write values = listOf (values.map codec.write) := by
  simp only [Codec.list, writeElements_eq]
  rfl

theorem faithful_list (faithful : Faithful codec) : Faithful codec.list where
  typed values := by
    let entries := values.map fun value => (codec.write value, value)
    have each : ∀ entry ∈ entries, Typed codec entry.1 entry.2 := by
      intro entry among
      obtain ⟨value, _, rfl⟩ := List.mem_map.mp among
      exact faithful.typed value
    have texts : entries.map Prod.fst = values.map codec.write := List.map_map
    have same : entries.map Prod.snd = values := List.map_map.trans (List.map_id values)
    have typed := Typed.list each
    rwa [texts, same, ← list_write] at typed
  writable values := by
    rw [list_write]
    refine writable_listOf fun item among => ?_
    obtain ⟨value, _, rfl⟩ := List.mem_map.mp among
    exact faithful.writable value

/-! ## Records -/

def writtenMembers : (fields : List Field) → Values fields → List (String × List Token)
  | [], _ => []
  | field :: fields, (value, values) =>
    if field.isOmitted value then writtenMembers fields values
    else (field.name, field.codec.write value) :: writtenMembers fields values

theorem members_eq (values : Values fields) : Json.members fields values =
    (keyed (writtenMembers fields values)).map fun entry => member entry.1 entry.2 := by
  induction fields with
  | nil => rfl
  | cons field fields ih =>
    obtain ⟨value, values⟩ := values
    rw [Json.members, writtenMembers, ih]
    split <;> rfl

theorem write_eq {ρ : Type} (record : Record ρ) (value : ρ) : record.codec.write value =
    objectOf (keyed (writtenMembers record.fields (record.toValues value))) := by
  simp only [Record.codec, members_eq]
  rfl

theorem written_known (values : Values fields) :
    ∀ entry ∈ writtenMembers fields values, entry.1 ∈ fields.map Field.name := by
  induction fields with
  | nil => exact fun _ none => by cases none
  | cons field fields ih =>
    obtain ⟨value, values⟩ := values
    intro entry among
    rw [writtenMembers] at among
    split at among
    · exact List.mem_cons_of_mem _ (ih values entry among)
    · rcases List.mem_cons.mp among with rfl | later
      · exact List.mem_cons_self
      · exact List.mem_cons_of_mem _ (ih values entry later)

theorem once_written (distinct : (fields.map Field.name).Nodup) (values : Values fields)
    (all : List Field) : Once all (writtenMembers fields values) := by
  induction fields with
  | nil => exact .nil
  | cons field fields ih =>
    obtain ⟨value, values⟩ := values
    obtain ⟨apart, distinct⟩ := List.nodup_cons.mp distinct
    rw [writtenMembers]
    split
    · exact ih distinct values
    · refine .cons (fun entry among other _ here there => apart ?_) (ih distinct values)
      have same : field.name = entry.1 := here.trans there.symm
      exact same ▸ written_known values entry among

structure FaithfulField (field : Field) : Prop where
  codec : Faithful field.codec
  omitted : ∀ value, field.isOmitted value → field.absent = some value

theorem fills_written (distinct : (fields.map Field.name).Nodup)
    (faithful : ∀ field ∈ fields, FaithfulField field) (values : Values fields)
    (others : ∀ field ∈ fields, Unnamed members field) :
    Fills (members ++ writtenMembers fields values) fields values := by
  -- What has been written for earlier fields stays in front and names none of those left.
  induction fields generalizing members with
  | nil => exact .nil _
  | cons field fields ih =>
    obtain ⟨value, values⟩ := values
    obtain ⟨apart, distinct⟩ := List.nodup_cons.mp distinct
    obtain ⟨faithfulHere, faithfulLater⟩ := List.forall_mem_cons.mp faithful
    obtain ⟨unnamed, othersLater⟩ := List.forall_mem_cons.mp others
    rw [writtenMembers]
    split
    · rename_i isOmitted
      refine .absent (fun entry among same => ?_) (faithfulHere.omitted value isOmitted)
        (ih distinct faithfulLater values othersLater)
      rcases List.mem_append.mp among with before | after
      · exact unnamed entry before same
      · exact apart (same ▸ written_known values entry after)
    · rw [List.append_cons]
      refine .told (by simp) (faithfulHere.codec.typed value)
        (ih distinct faithfulLater values fun other known entry among same => ?_)
      rcases List.mem_append.mp among with before | last
      · exact othersLater other known entry before same
      · rw [List.mem_singleton.mp last] at same
        change field.name = other.name at same
        exact apart (same ▸ List.mem_map_of_mem known)

theorem writable_written (writable : ∀ field ∈ fields, ∀ value, Writable (field.codec.write value))
    (values : Values fields) : ∀ entry ∈ writtenMembers fields values, Writable entry.2 := by
  induction fields with
  | nil => exact fun _ none => by cases none
  | cons field fields ih =>
    obtain ⟨value, values⟩ := values
    obtain ⟨here, later⟩ := List.forall_mem_cons.mp writable
    rw [writtenMembers]
    split
    · exact ih later values
    · exact List.forall_mem_cons.mpr ⟨here value, ih later values⟩

section
variable {ρ : Type} {record : Record ρ}

theorem typed_write (distinct : (record.fields.map Field.name).Nodup) (value : ρ)
    {values : Values record.fields}
    (fills : Fills (writtenMembers record.fields (record.toValues value)) record.fields values) :
    Typed record.codec (record.codec.write value) (record.ofValues values) := by
  have once := once_written distinct (record.toValues value) record.fields
  have tolerable : Tolerable record.fields
      (writtenMembers record.fields (record.toValues value)) := by
    intro entry among unknown
    obtain ⟨field, known, same⟩ := List.mem_map.mp (written_known _ entry among)
    exact (unknown field known same.symm).elim
  rw [write_eq]
  exact .object distinct once tolerable fills

theorem writable_write
    (writable : ∀ field ∈ record.fields, ∀ value, Writable (field.codec.write value)) (value : ρ) :
    Writable (record.codec.write value) := by
  rw [write_eq]
  exact writable_objectOf (writable_keyed (writable_written writable _))

theorem faithful_record (distinct : (record.fields.map Field.name).Nodup)
    (faithful : ∀ field ∈ record.fields, FaithfulField field)
    (restores : ∀ value, record.ofValues (record.toValues value) = value) :
    Faithful record.codec where
  typed value := by
    have nothing : ∀ field ∈ record.fields, Unnamed [] field := fun _ _ _ none => by cases none
    have typed := typed_write distinct value
      (fills_written distinct faithful (record.toValues value) nothing)
    rwa [restores] at typed
  writable := writable_write fun field known => (faithful field known).codec.writable

end

/-! ### Fields -/

variable {name : String}

theorem faithful_required (faithful : Faithful codec) :
    FaithfulField (.required name codec) :=
  ⟨faithful, fun _ omitted => by cases omitted⟩

theorem faithful_defaulted {absent : α} (faithful : Faithful codec) :
    FaithfulField (.defaulted name codec absent) :=
  ⟨faithful, fun _ omitted => by cases omitted⟩

theorem faithful_nil : ∀ field ∈ [], FaithfulField field :=
  fun _ none => by cases none

theorem faithful_cons (here : FaithfulField field)
    (later : ∀ field ∈ fields, FaithfulField field) :
    ∀ other ∈ field :: fields, FaithfulField other :=
  List.forall_mem_cons.mpr ⟨here, later⟩

/-! ## Messages -/

theorem faithful_summary : Faithful summary := by
  have date : Faithful instant.optional := faithful_optional faithful_instant (by simp [instant])
  refine faithful_record (by decide) ?_ fun _ => rfl
  exact faithful_cons (faithful_required faithful_text) <|
    faithful_cons (faithful_defaulted faithful_text) <|
    faithful_cons (faithful_defaulted faithful_status) <|
    faithful_cons (faithful_defaulted date) <|
    faithful_cons (faithful_defaulted date) faithful_nil

theorem faithful_challenge : Faithful challenge := by
  refine faithful_record (by decide) ?_ fun _ => rfl
  exact faithful_cons (faithful_required faithful_text) <|
    faithful_cons (faithful_required faithful_text) <|
    faithful_cons (faithful_defaulted faithful_text) <|
    faithful_cons (faithful_defaulted faithful_signed) <|
    faithful_cons (faithful_defaulted faithful_flag) faithful_nil

theorem faithful_snapshot : Faithful snapshot := by
  refine faithful_record (by decide) ?_ fun _ => rfl
  exact faithful_cons (faithful_required faithful_text) <|
    faithful_cons (faithful_required faithful_status) faithful_nil

theorem faithful_chunk : Faithful chunk := by
  refine faithful_record (by decide) ?_ fun _ => rfl
  exact faithful_cons (faithful_defaulted faithful_text) <|
    faithful_cons (faithful_required faithful_status) <|
    faithful_cons (faithful_defaulted faithful_flag) faithful_nil

theorem faithful_frame : Faithful frame := by
  have message : FaithfulField (.sparse "error_message" Codec.text "" (· == "")) := by
    refine ⟨faithful_text, fun (value : String) omitted => ?_⟩
    have isEmpty : value = "" := beq_iff_eq.mp omitted
    rw [isEmpty]
    rfl
  refine faithful_record (by decide) ?_ fun _ => rfl
  exact faithful_cons (faithful_defaulted faithful_text) <|
    faithful_cons (faithful_defaulted faithful_status) <|
    faithful_cons (faithful_defaulted faithful_flag) <|
    faithful_cons message faithful_nil

theorem faithful_challengeReply : Faithful challengeReply := by
  have given : Faithful challenge.optional :=
    faithful_optional faithful_challenge fun value => by simp [challenge, Record.codec]
  refine faithful_record (by decide) ?_ fun _ => rfl
  exact faithful_cons (faithful_defaulted given) <|
    faithful_cons (faithful_defaulted faithful_text) faithful_nil

theorem faithful_listReply : Faithful listReply := by
  refine faithful_record (by decide) ?_ fun _ => rfl
  exact faithful_cons (faithful_defaulted (faithful_list faithful_summary)) <|
    faithful_cons (faithful_defaulted faithful_text) faithful_nil

theorem faithful_logReply : Faithful logReply := by
  refine faithful_record (by decide) ?_ fun _ => rfl
  exact faithful_cons (faithful_defaulted faithful_text) <|
    faithful_cons (faithful_defaulted faithful_status) <|
    faithful_cons (faithful_defaulted faithful_text) faithful_nil

/-- The codecs of what the platform tells. -/
inductive MessageCodec : {α : Type} → Codec α → Prop
  | status : MessageCodec status
  | summary : MessageCodec summary
  | snapshot : MessageCodec snapshot
  | chunk : MessageCodec chunk
  | challenge : MessageCodec challenge
  | frame : MessageCodec frame
  | challengeReply : MessageCodec challengeReply
  | listReply : MessageCodec listReply
  | logReply : MessageCodec logReply

theorem MessageCodec.faithful (message : MessageCodec codec) : Faithful codec := by
  cases message with
  | status => exact faithful_status
  | summary => exact faithful_summary
  | snapshot => exact faithful_snapshot
  | chunk => exact faithful_chunk
  | challenge => exact faithful_challenge
  | frame => exact faithful_frame
  | challengeReply => exact faithful_challengeReply
  | listReply => exact faithful_listReply
  | logReply => exact faithful_logReply

/-- Every value of a message is decoded from its text. So a text that is decoded has a form of its
own that is decoded to the same, and that is what comes of encoding that again. -/
theorem decode_encode (message : MessageCodec codec) :
    (∀ value, codec.decode (codec.encode value) = .ok value) ∧
    ∀ text value, codec.decode text = .ok value → ∃ canonical,
      codec.encode value = canonical ∧ codec.decode canonical = .ok value ∧
        ∀ again, codec.decode canonical = .ok again → codec.encode again = canonical := by
  have decodes := message.faithful.restores
  refine ⟨decodes, fun _ value _ => ⟨_, rfl, decodes value, fun again decoded => ?_⟩⟩
  rw [decodes value] at decoded
  cases decoded
  rfl

def farLeapSecond : Instant :=
  ⟨⟨12345, 12, 31, by decide, by decide, by decide⟩, 23, 59, 60, 1, by decide, by decide, by decide,
    by decide⟩

theorem decode_encode_summary :
    summary.decode (summary.encode ⟨"a\"\\\n\x01", "", .failed, some farLeapSecond, none⟩) =
      .ok ⟨"a\"\\\n\x01", "", .failed, some farLeapSecond, none⟩ :=
  (decode_encode .summary).1 _

end BuildWatch.Wire
