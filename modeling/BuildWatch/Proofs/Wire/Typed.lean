import BuildWatch.Follow.Config
import BuildWatch.Proofs.Json.Objects
import BuildWatch.Wire.Frame

namespace BuildWatch.Wire

open Json

mutual

inductive Typed : {α : Type} → Codec α → List Token → α → Prop
  | text (value : String) : Typed Codec.text [.text value] value
  | flag (value : Bool) : Typed Codec.flag [.flag value] value
  | status (word : String) : Typed status [.text word] (Status.ofWire word)
  | instant {text : String} {value : Instant} (parses : Instant.parse? text = some value) :
      Typed instant [.text text] value
  | signed (value : Int64) : Typed signed [.number (.ofInt value.toInt)] value
  | millis {n : Nat} (fits : n < UInt64.size) :
      Typed millis [.number (.ofInt n)] (n * nanosPerMilli)
  | transport (value : Transport) : Typed transport [.text (transportName value)] value
  | transportKey (value : Transport) :
      Typed transport (objectOf (keyed [(transportName value, [.null])])) value
  | null {α : Type} (codec : Codec α) : Typed codec.optional [.null] none
  | present {α : Type} {codec : Codec α} {tokens : List Token} {value : α}
      (given : tokens ≠ [.null]) (typed : Typed codec tokens value) :
      Typed codec.optional tokens (some value)
  | list {α : Type} {codec : Codec α} {entries : List (List Token × α)}
      (each : ∀ entry ∈ entries, Typed codec entry.1 entry.2) :
      Typed codec.list (listOf (entries.map Prod.fst)) (entries.map Prod.snd)
  | object {ρ : Type} {record : Record ρ} {members : List (String × List Token)}
      {values : Values record.fields} (distinct : (record.fields.map Field.name).Nodup)
      (once : Once record.fields members) (tolerable : Tolerable record.fields members)
      (fills : Fills members record.fields values) :
      Typed record.codec (objectOf (keyed members)) (record.ofValues values)
  | inOrder {ρ : Type} {record : Record ρ} {items : List (List Token)}
      {values : Values record.fields} (listed : Listed items record.fields values) :
      Typed record.codec (listOf items) (record.ofValues values)

/-- The values of a record whose members are given by name. -/
inductive Fills : List (String × List Token) → (fields : List Field) → Values fields → Prop
  | nil (members : List (String × List Token)) : Fills members [] ()
  | told {members : List (String × List Token)} {field : Field} {fields : List Field}
      {tokens : List Token} {value : field.Carrier} {values : Values fields}
      (named : (field.name, tokens) ∈ members) (typed : Typed field.codec tokens value)
      (later : Fills members fields values) : Fills members (field :: fields) (value, values)
  | absent {members : List (String × List Token)} {field : Field} {fields : List Field}
      {value : field.Carrier} {values : Values fields} (unnamed : Unnamed members field)
      (default : field.absent = some value) (later : Fills members fields values) :
      Fills members (field :: fields) (value, values)

/-- The values of a record whose fields are given one after the other, the last ones left out. -/
inductive Listed : List (List Token) → (fields : List Field) → Values fields → Prop
  | nil : Listed [] [] ()
  | told {items : List (List Token)} {field : Field} {fields : List Field}
      {tokens : List Token} {value : field.Carrier} {values : Values fields}
      (typed : Typed field.codec tokens value) (later : Listed items fields values) :
      Listed (tokens :: items) (field :: fields) (value, values)
  | absent {field : Field} {fields : List Field} {value : field.Carrier} {values : Values fields}
      (default : field.absent = some value) (later : Listed [] fields values) :
      Listed [] (field :: fields) (value, values)

end

variable {α : Type} {codec : Codec α} {tokens : List Token} {value : α} {fields : List Field}
  {members : List (String × List Token)} {items : List (List Token)} {values : Values fields}

/-! ## Plain values -/

theorem map_reads {β : Type} {rename : α → β} {back : β → α} (reads : codec.Reads tokens value) :
    (codec.map rename back).Reads tokens (rename value) := by
  intro rest
  simp only [Codec.map, reads rest]

theorem whole_reads {name : String} {least most n : Int} (above : least ≤ n) (below : n ≤ most)
    (lower : -(UInt64.size : Int) ≤ 2 * n) (upper : n < UInt64.size) :
    (Codec.whole name least most).Reads [.number (.ofInt n)] n := by
  intro rest
  simp only [Codec.whole, List.singleton_append, Numeral.quantity_ofInt lower upper, above, below,
    and_self, if_true]

theorem signed_reads (value : Int64) : signed.Reads [.number (.ofInt value.toInt)] value := by
  have least : Int64.minValue.toInt ≤ value.toInt := value.le_toInt
  have most : value.toInt ≤ Int64.maxValue.toInt := Int.le_of_lt_add_one value.toInt_lt
  have bounds : -(UInt64.size : Int) ≤ 2 * value.toInt ∧ value.toInt < UInt64.size := by
    have lower := value.le_toInt
    have upper := value.toInt_lt
    simp only [UInt64.size]
    omega
  have reads : signed.Reads [.number (.ofInt value.toInt)] (Int64.ofInt value.toInt) :=
    map_reads (whole_reads least most bounds.1 bounds.2)
  rwa [Int64.ofInt_toInt] at reads

theorem millis_reads {n : Nat} (fits : n < UInt64.size) :
    millis.Reads [.number (.ofInt n)] (n * nanosPerMilli) := by
  have least : (0 : Int) ≤ n := Int.natCast_nonneg n
  have most : (n : Int) ≤ word := Int.ofNat_le.mpr (Nat.le_pred_of_lt fits)
  have reads : millis.Reads [.number (.ofInt n)] ((n : Int).toNat * nanosPerMilli) :=
    map_reads (whole_reads least most (by omega) (Int.ofNat_lt.mpr fits))
  rwa [Int.toNat_natCast] at reads

theorem transport_reads (value : Transport) :
    transport.Reads [.text (transportName value)] value ∧
      transport.Reads (objectOf (keyed [(transportName value, [.null])])) value := by
  constructor <;> intro rest <;> cases value <;> rfl

theorem optional_reads (given : tokens ≠ [.null]) (isValue : IsValue tokens)
    (reads : codec.Reads tokens value) : codec.optional.Reads tokens (some value) := by
  obtain ⟨head, others, rfl, -⟩ := isValue.head
  have other : head ≠ .null := by
    rintro rfl
    cases isValue
    exact given rfl
  intro rest
  have read := reads rest
  rw [List.cons_append] at read ⊢
  cases head <;> first | exact (other rfl).elim | simp only [Codec.optional, read]

/-! ## Records -/

mutual

theorem Typed.sound {α : Type} {codec : Codec α} {tokens : List Token} {value : α} :
    Typed codec tokens value → IsValue tokens ∧ codec.Reads tokens value
  | .text _ | .status _ => ⟨.text _, fun _ => rfl⟩
  | .flag _ => ⟨.flag _, fun _ => rfl⟩
  | .instant parses => by
    refine ⟨.text _, fun rest => ?_⟩
    simp only [instant, List.singleton_append, parses]
  | .signed value => ⟨.number _, signed_reads value⟩
  | .millis fits => ⟨.number _, millis_reads fits⟩
  | .transport value => ⟨.text _, (transport_reads value).1⟩
  | .transportKey value => ⟨isValue_objectOf (by simpa using .null), (transport_reads value).2⟩
  | .null _ => ⟨.null, fun _ => rfl⟩
  | .present given typed => by
    obtain ⟨isValue, reads⟩ := typed.sound
    exact ⟨isValue, optional_reads given isValue reads⟩
  | .list each => by
    have sound := fun entry among => (each entry among).sound
    refine ⟨.list fun item among => ?_, Codec.list_reads sound⟩
    obtain ⟨entry, present, rfl⟩ := List.mem_map.mp among
    exact (sound entry present).1
  | .object distinct once tolerable fills => by
    obtain ⟨told, complete⟩ := fills.sound once
    have reads := fun field known tokens among => (told field known tokens among).2
    have each := tolerable.each fun field known tokens among => (told field known tokens among).1
    exact ⟨isValue_objectOf each, Record.reads_object distinct ⟨once, reads, tolerable⟩ complete⟩
  | .inOrder listed => by
    obtain ⟨each, inOrder⟩ := listed.sound
    exact ⟨.list each, Record.reads_list _ inOrder⟩

theorem Fills.sound {members : List (String × List Token)} {fields : List Field}
    {values : Values fields} : Fills members fields values → Once fields members →
    (∀ field ∈ fields, ∀ tokens, (field.name, tokens) ∈ members →
      IsValue tokens ∧ ∃ value, field.codec.Reads tokens value) ∧
    ∀ slots, Slots.Told members fields slots → Slots.complete fields slots = .ok values
  | .nil _, _ => ⟨by simp, fun _ _ => rfl⟩
  | .told named typed later, once => by
    obtain ⟨isValue, reads⟩ := typed.sound
    obtain ⟨told, complete⟩ := later.sound once.others
    refine ⟨List.forall_mem_cons.mpr ⟨fun tokens among => ?_, told⟩, fun ⟨slot, slots⟩ filled => ?_⟩
    · obtain rfl := once.tokens_eq List.mem_cons_self named among
      exact ⟨isValue, _, reads⟩
    · obtain rfl := filled.1.eq_some once List.mem_cons_self named reads
      exact Slots.complete_cons rfl (complete slots filled.2)
  | .absent unnamed default later, once => by
    obtain ⟨told, complete⟩ := later.sound once.others
    refine ⟨List.forall_mem_cons.mpr ⟨fun tokens among => ?_, told⟩, fun ⟨slot, slots⟩ filled => ?_⟩
    · exact (unnamed _ among rfl).elim
    · obtain rfl := filled.1.eq_none unnamed
      exact Slots.complete_cons default (complete slots filled.2)

theorem Listed.sound {items : List (List Token)} {fields : List Field}
    {values : Values fields} : Listed items fields values →
    (∀ item ∈ items, IsValue item) ∧ ReadsInOrder fields items values
  | .nil => ⟨by simp, fun _ _ _ first _ => by cases first <;> rfl⟩
  | .told typed later => by
    obtain ⟨isValue, reads⟩ := typed.sound
    obtain ⟨each, inOrder⟩ := later.sound
    exact ⟨List.forall_mem_cons.mpr ⟨isValue, each⟩, .item isValue reads inOrder⟩
  | .absent default later => ⟨by simp, .absent default later.sound.2⟩

end

theorem Typed.decode {text : String} (typed : Typed codec tokens value)
    (spelled : Spelled tokens text.toList) : codec.decode text = .ok value := by
  obtain ⟨isValue, reads⟩ := typed.sound
  have read := reads []
  rw [List.append_nil] at read
  rw [Codec.decode, scan_of_spelled spelled isValue.apart, read]

end BuildWatch.Wire
