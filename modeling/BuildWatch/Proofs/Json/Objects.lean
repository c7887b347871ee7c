import BuildWatch.Proofs.Json.Values

namespace BuildWatch.Json

variable {α : Type} {codec : Codec α} {tokens tail : List Token} {value : α} {field : Field}
  {fields : List Field} {slots : Slots fields} {members later : List (String × List Token)}
  {key : String}

/-- The tokens are read as a value, whatever comes after them. -/
def Codec.Reads {α : Type} (codec : Codec α) (tokens : List Token) (value : α) : Prop :=
  ∀ rest, codec.read (tokens ++ rest) = .ok (value, rest)

theorem Codec.Reads.unique {other : α} (left : codec.Reads tokens value)
    (right : codec.Reads tokens other) : value = other := by
  have same := (left []).symm.trans (right [])
  cases same
  rfl

/-! ## Members -/

def keyed (members : List (String × List Token)) : List (Token × List Token) :=
  members.map fun entry => (.text entry.1, entry.2)

def membersFrom (first : Bool) (members : List (String × List Token)) : List Token :=
  elements first (members.map fun entry => member (.text entry.1) entry.2)

theorem membersOf_keyed (members : List (String × List Token)) :
    membersOf (keyed members) = membersFrom true members := by
  rw [membersOf, keyed, List.map_map]
  rfl

theorem nextKey_member (first : Bool) (key : String) (tokens : List Token)
    (later : List (String × List Token)) (tail : List Token) :
    nextKey first (membersFrom first ((key, tokens) :: later) ++ tail) =
      .ok (some (key, .colon :: (tokens ++ (membersFrom false later ++ tail)))) := by
  rw [← List.append_assoc tokens]
  cases first with
  | true =>
    rw [membersFrom, elements, List.map_cons, separated_cons]
    rfl
  | false => rfl

def Once (fields : List Field) (members : List (String × List Token)) : Prop :=
  members.Pairwise fun earlier later =>
    ∀ field ∈ fields, earlier.1 = field.name → later.1 ≠ field.name

def Tolerable (fields : List Field) (members : List (String × List Token)) : Prop :=
  ∀ entry ∈ members, (∀ field ∈ fields, entry.1 ≠ field.name) → IsValue entry.2

def Unnamed (members : List (String × List Token)) (field : Field) : Prop :=
  ∀ entry ∈ members, entry.1 ≠ field.name

instance (members : List (String × List Token)) (field : Field) :
    Decidable (Unnamed members field) :=
  inferInstanceAs (Decidable (∀ entry ∈ members, entry.1 ≠ field.name))

/-- The first field without a default that no member names. -/
def firstMissing? (fields : List Field) (members : List (String × List Token)) : Option Field :=
  fields.find? fun field => field.absent.isNone && decide (Unnamed members field)

theorem Once.tokens_eq {left right : List Token} (once : Once fields members)
    (known : field ∈ fields) (here : (field.name, left) ∈ members)
    (there : (field.name, right) ∈ members) : left = right := by
  induction once with
  | nil => cases here
  | cons apart _ ih =>
    cases here with
    | head =>
      cases there with
      | head => rfl
      | tail _ there => exact (apart _ there field known rfl rfl).elim
    | tail _ here =>
      cases there with
      | head => exact (apart _ here field known rfl rfl).elim
      | tail _ there => exact ih here there

theorem Once.others (once : Once (field :: fields) members) : Once fields members :=
  once.imp fun apart other known => apart other (List.mem_cons_of_mem _ known)

/-! ## Slots -/

def Told (members : List (String × List Token)) (field : Field) : Option field.Carrier → Prop
  | none => Unnamed members field
  | some value => ∃ tokens, (field.name, tokens) ∈ members ∧ field.codec.Reads tokens value

theorem Told.concat_other {slot : Option field.Carrier} (told : Told members field slot)
    (tokens : List Token) (other : key ≠ field.name) :
    Told (members ++ [(key, tokens)]) field slot := by
  cases slot with
  | none =>
    intro entry among
    rcases List.mem_append.mp among with before | last
    · exact told entry before
    · rw [List.mem_singleton.mp last]
      exact other
  | some value =>
    obtain ⟨text, among, reads⟩ := told
    exact ⟨text, List.mem_append_left _ among, reads⟩

theorem Told.eq_none {slot : Option field.Carrier} (told : Told members field slot)
    (unnamed : Unnamed members field) : slot = none := by
  cases slot with
  | none => rfl
  | some value =>
    obtain ⟨tokens, among, _⟩ := told
    exact (unnamed _ among rfl).elim

theorem Told.eq_some {slot : Option field.Carrier} {value : field.Carrier}
    (told : Told members field slot) (once : Once fields members) (known : field ∈ fields)
    (named : (field.name, tokens) ∈ members) (reads : field.codec.Reads tokens value) :
    slot = some value := by
  cases slot with
  | none => exact (told _ named rfl).elim
  | some other =>
    obtain ⟨same, among, readsSame⟩ := told
    obtain rfl := once.tokens_eq known among named
    rw [readsSame.unique reads]

namespace Slots

def Told (members : List (String × List Token)) : (fields : List Field) → Slots fields → Prop
  | [], _ => True
  | field :: fields, (slot, slots) => Json.Told members field slot ∧ Told members fields slots

theorem told_empty (fields : List Field) : Told [] fields (empty fields) := by
  induction fields with
  | nil => trivial
  | cons field fields ih => exact ⟨fun _ none => (List.not_mem_nil none).elim, ih⟩

theorem Told.concat_other (told : Told members fields slots) (tokens : List Token)
    (other : ∀ field ∈ fields, key ≠ field.name) :
    Told (members ++ [(key, tokens)]) fields slots := by
  induction fields with
  | nil => trivial
  | cons field fields ih =>
    obtain ⟨apart, others⟩ := List.forall_mem_cons.mp other
    exact ⟨told.1.concat_other tokens apart, ih told.2 others⟩

/-! ### One member -/

theorem mem_of_name_ne {head : Field} (known : field ∈ head :: fields)
    (other : field.name ≠ head.name) : field ∈ fields :=
  (List.mem_cons.mp known).resolve_left fun same => other (congrArg Field.name same)

theorem read?_other {slot : Option field.Carrier} (slots : Slots fields) (tokens : List Token)
    (other : key ≠ field.name) : read? (field :: fields) (slot, slots) key tokens =
      (read? fields slots key tokens).map fun result =>
        result.map fun (slots, rest) => ((slot, slots), rest) := by
  cases slot <;> rw [read?, if_neg other]

theorem read?_unknown (slots : Slots fields) (tokens : List Token)
    (unknown : ∀ field ∈ fields, key ≠ field.name) : read? fields slots key tokens = none := by
  induction fields with
  | nil => rfl
  | cons field fields ih =>
    obtain ⟨slot, slots⟩ := slots
    obtain ⟨apart, others⟩ := List.forall_mem_cons.mp unknown
    rw [read?_other slots tokens apart, ih slots others]
    rfl

theorem Told.read?_fresh {value : field.Carrier} (told : Told members fields slots)
    (distinct : (fields.map Field.name).Nodup) (known : field ∈ fields)
    (fresh : Unnamed members field) (reads : field.codec.Reads tokens value)
    (tail : List Token) :
    ∃ next, read? fields slots field.name (.colon :: (tokens ++ tail)) = some (.ok (next, tail)) ∧
      Told (members ++ [(field.name, tokens)]) fields next := by
  induction fields with
  | nil => cases known
  | cons head fields ih =>
    obtain ⟨slot, slots⟩ := slots
    obtain ⟨apart, distinct⟩ := List.nodup_cons.mp distinct
    -- A key is looked for by name, so its field is the head only if no later one has that name.
    by_cases named : field.name = head.name
    · have same : field = head := by
        refine (List.mem_cons.mp known).resolve_right fun among => apart ?_
        exact named ▸ List.mem_map_of_mem among
      subst same
      cases slot with
      | some value =>
        obtain ⟨before, among, _⟩ := told.1
        exact (fresh _ among rfl).elim
      | none =>
        refine ⟨(some value, slots), ?_, ⟨tokens, by simp, reads⟩, told.2.concat_other tokens ?_⟩
        · simp only [read?, if_true, readColon, bind, Except.bind, reads tail]
        · exact fun other among same => apart (same ▸ List.mem_map_of_mem among)
    · obtain ⟨next, read, toldNext⟩ := ih told.2 distinct (mem_of_name_ne known named)
      refine ⟨(slot, next), ?_, ?_, toldNext⟩
      · rw [read?_other slots _ named, read]
        rfl
      · exact told.1.concat_other tokens named

theorem Told.read?_again {tokens : List Token} (told : Told members fields slots)
    (known : field ∈ fields) (named : (field.name, tokens) ∈ members) (rest : List Token) :
    read? fields slots field.name rest =
      some (.error (.mismatch (.duplicateField field.name))) := by
  induction fields with
  | nil => cases known
  | cons head fields ih =>
    obtain ⟨slot, slots⟩ := slots
    by_cases same : field.name = head.name
    · cases slot with
      | none => exact (told.1 _ named same).elim
      | some value => simp only [read?, same, if_true]
    · rw [read?_other slots rest same, ih told.2 (mem_of_name_ne known same)]
      rfl

/-! ### The end -/

theorem complete_cons {slot : Option field.Carrier} {value : field.Carrier}
    {values : Values fields} (held : (slot <|> field.absent) = some value)
    (others : complete fields slots = .ok values) :
    complete (field :: fields) (slot, slots) = .ok (value, values) := by
  simp only [complete, held, others]
  rfl

theorem Told.complete_missing (told : Told members fields slots)
    (missing : firstMissing? fields members = some field) :
    complete fields slots = .error (.mismatch (.missingField field.name)) := by
  induction fields with
  | nil => cases missing
  | cons head fields ih =>
    obtain ⟨slot, slots⟩ := slots
    rw [firstMissing?, List.find?_cons] at missing
    cases slot with
    | some value =>
      obtain ⟨tokens, among, _⟩ := told.1
      have named : decide (Unnamed members head) = false :=
        decide_eq_false fun unnamed => unnamed _ among rfl
      rw [named, Bool.and_false] at missing
      change (complete fields slots).map _ = _
      rw [ih told.2 missing]
      rfl
    | none =>
      have unnamed : Unnamed members head := told.1
      cases absent : head.absent with
      | none =>
        simp only [absent, unnamed] at missing
        cases missing
        simp only [complete, absent]
        rfl
      | some value =>
        simp only [absent] at missing
        simp only [complete, absent]
        change (complete fields slots).map _ = _
        rw [ih told.2 missing]
        rfl

end Slots

/-! ## Reading the members -/

/-- The members of an object as a record with the fields can take them, the ones that are missing
aside. -/
structure Fits (fields : List Field) (members : List (String × List Token)) : Prop where
  once : Once fields members
  reads : ∀ field ∈ fields, ∀ tokens, (field.name, tokens) ∈ members →
    ∃ value, field.codec.Reads tokens value
  tolerable : Tolerable fields members

section
variable (distinct : (fields.map Field.name).Nodup)
include distinct

theorem readMember_of_fresh (told : Slots.Told members fields slots)
    (fresh : ∀ field ∈ fields, key = field.name → Unnamed members field)
    (reads : ∀ field ∈ fields, key = field.name → ∃ value, field.codec.Reads tokens value)
    (tolerable : (∀ field ∈ fields, key ≠ field.name) → IsValue tokens) (tail : List Token) :
    ∃ next, readMember fields slots key (.colon :: (tokens ++ tail)) = .ok (next, tail) ∧
      Slots.Told (members ++ [(key, tokens)]) fields next := by
  by_cases known : ∃ field ∈ fields, key = field.name
  · obtain ⟨field, among, rfl⟩ := known
    obtain ⟨value, reads⟩ := reads field among rfl
    obtain ⟨next, read, toldNext⟩ :=
      told.read?_fresh distinct among (fresh field among rfl) reads tail
    exact ⟨next, by rw [readMember, read], toldNext⟩
  · have unknown : ∀ field ∈ fields, key ≠ field.name :=
      fun field among same => known ⟨field, among, same⟩
    refine ⟨slots, ?_, told.concat_other tokens unknown⟩
    have passed : skipValue (tokens ++ tail) = .ok tail := by
      rw [skipValue, (tolerable unknown).passes]
      cases tail <;> rfl
    rw [readMember, Slots.read?_unknown slots _ unknown]
    simp only [readColon, bind, Except.bind, passed]

theorem readMembers_step {first : Bool} (fits : Fits fields (members ++ (key, tokens) :: later))
    (told : Slots.Told members fields slots) (fuel : Nat) (tail : List Token) :
    ∃ next, readMembers fields (fuel + 1) first slots
          (membersFrom first ((key, tokens) :: later) ++ tail) =
        readMembers fields fuel false next (membersFrom false later ++ tail) ∧
      Slots.Told (members ++ [(key, tokens)]) fields next := by
  have here : (key, tokens) ∈ members ++ (key, tokens) :: later := by simp
  have fresh : ∀ field ∈ fields, key = field.name → Unnamed members field := by
    intro field known named entry among same
    have apart := (List.pairwise_append.mp fits.once).2.2 entry among _ List.mem_cons_self
    exact apart field known same named
  obtain ⟨next, read, toldNext⟩ := readMember_of_fresh distinct told fresh
    (fun field known named => fits.reads field known tokens (named ▸ here))
    (fits.tolerable _ here) (membersFrom false later ++ tail)
  refine ⟨next, ?_, toldNext⟩
  simp only [readMembers, nextKey_member, bind, Except.bind, read]

theorem readMembers_from {first : Bool} (fits : Fits fields (members ++ later))
    (told : Slots.Told members fields slots) (fuel : Nat) (tail : List Token) :
    ∃ next, readMembers fields (later.length + fuel) first slots
          (membersFrom first later ++ tail) =
        readMembers fields fuel (first && later.isEmpty) next tail ∧
      Slots.Told (members ++ later) fields next := by
  -- The induction is on what is left to read; the slots hold what `members` have told so far.
  induction later generalizing first members slots with
  | nil =>
    rw [List.append_nil, List.length_nil, Nat.zero_add, List.isEmpty_nil, Bool.and_true]
    exact ⟨slots, by cases first <;> rfl, told⟩
  | cons entry later ih =>
    obtain ⟨key, tokens⟩ := entry
    obtain ⟨middle, step, toldMiddle⟩ :=
      readMembers_step distinct fits told (later.length + fuel) tail
    rw [List.append_cons] at fits ⊢
    obtain ⟨next, run, toldNext⟩ := ih fits toldMiddle
    rw [List.length_cons, Nat.add_right_comm, step, run]
    exact ⟨next, by rw [List.isEmpty_cons, Bool.and_false, Bool.false_and], toldNext⟩

theorem readMembers_members (fits : Fits fields members) (token : Token) (rest : List Token) :
    let tokens := membersOf (keyed members) ++ token :: rest
    ∃ slots fuel, readMembers fields (tokens.length + 1) true (Slots.empty fields) tokens =
        readMembers fields (fuel + 1) members.isEmpty slots (token :: rest) ∧
      Slots.Told members fields slots := by
  intro tokens
  -- Each member takes a token at least, so the fuel is enough for all of them.
  have few := length_elements true (members.map fun entry => member (.text entry.1) entry.2)
  have enough : members.length + 1 ≤ tokens.length + 1 := by
    rw [List.length_map, ← membersFrom, ← membersOf_keyed] at few
    simp only [tokens, List.length_append, List.length_cons]
    omega
  obtain ⟨fuel, count⟩ := Nat.exists_eq_add_of_le enough
  have begun : Fits fields ([] ++ members) := fits
  obtain ⟨slots, run, told⟩ :=
    readMembers_from distinct begun (Slots.told_empty fields) (fuel + 1) (token :: rest)
  rw [count, show members.length + 1 + fuel = members.length + (fuel + 1) by omega]
  refine ⟨slots, fuel, ?_, told⟩
  simp only [tokens, membersOf_keyed]
  exact run

/-! ## Objects -/

theorem readObject_members (fits : Fits fields members) (rest : List Token) :
    ∃ slots, Slots.Told members fields slots ∧
      readObject fields (membersOf (keyed members) ++ .closeObject :: rest) =
        (Slots.complete fields slots).map fun values => (values, rest) := by
  obtain ⟨slots, fuel, run, told⟩ := readMembers_members distinct fits .closeObject rest
  refine ⟨slots, told, ?_⟩
  have ends : readMembers fields (fuel + 1) members.isEmpty slots (.closeObject :: rest) =
      .ok (slots, .closeObject :: rest) := rfl
  simp only [readObject, run, ends, bind, Except.bind]
  cases Slots.complete fields slots <;> rfl

theorem readObject_repeated {tokens : List Token} (fits : Fits fields members)
    (known : field ∈ fields) (named : (field.name, tokens) ∈ members) (rest : List Token) :
    readObject fields (membersOf (keyed members) ++ .comma :: .text field.name :: rest) =
      .error (.mismatch (.duplicateField field.name)) := by
  obtain ⟨slots, fuel, run, told⟩ :=
    readMembers_members distinct fits .comma (.text field.name :: rest)
  have begun : members.isEmpty = false := by
    cases members with
    | nil => cases named
    | cons => rfl
  have refused : readMember fields slots field.name rest =
      .error (.mismatch (.duplicateField field.name)) := by
    rw [readMember, told.read?_again known named]
  have stops : readMembers fields (fuel + 1) false slots (.comma :: .text field.name :: rest) =
      .error (.mismatch (.duplicateField field.name)) := by
    simp only [readMembers, nextKey, Bool.false_eq_true, if_false, bind, Except.bind, refused]
  rw [begun, stops] at run
  simp only [readObject, run, bind, Except.bind]

end

theorem Tolerable.each (tolerable : Tolerable fields members)
    (known : ∀ field ∈ fields, ∀ tokens, (field.name, tokens) ∈ members → IsValue tokens) :
    ∀ entry ∈ members, IsValue entry.2 := by
  rintro ⟨key, tokens⟩ present
  by_cases named : ∃ field ∈ fields, key = field.name
  · obtain ⟨field, isField, rfl⟩ := named
    exact known field isField tokens present
  · exact tolerable _ present fun field isField same => named ⟨field, isField, same⟩

theorem isKey_keyed (members : List (String × List Token)) :
    ∀ entry ∈ keyed members, entry.1.isKey := by
  intro entry among
  obtain ⟨_, _, rfl⟩ := List.mem_map.mp among
  rfl

theorem isValue_keyed (each : ∀ entry ∈ members, IsValue entry.2) :
    ∀ entry ∈ keyed members, IsValue entry.2 := by
  intro entry among
  obtain ⟨source, present, rfl⟩ := List.mem_map.mp among
  exact each source present

theorem writable_keyed (each : ∀ entry ∈ members, Writable entry.2) :
    ∀ entry ∈ keyed members, entry.1.Writable ∧ Writable entry.2 := by
  intro entry among
  obtain ⟨source, present, rfl⟩ := List.mem_map.mp among
  exact ⟨.text source.1, each source present⟩

theorem isValue_objectOf (each : ∀ entry ∈ members, IsValue entry.2) :
    IsValue (objectOf (keyed members)) :=
  .object (isKey_keyed members) (isValue_keyed each)

namespace Record

variable {ρ : Type} (record : Record ρ)

theorem read_object (tokens : List Token) :
    record.codec.read (.openObject :: tokens) =
      (readObject record.fields tokens).map fun (values, rest) => (record.ofValues values, rest) :=
  rfl

variable {record} (distinct : (record.fields.map Field.name).Nodup)
  (fits : Fits record.fields members)

include distinct fits

theorem reads_object {values : Values record.fields}
    (complete : ∀ slots, Slots.Told members record.fields slots →
      Slots.complete record.fields slots = .ok values) :
    record.codec.Reads (objectOf (keyed members)) (record.ofValues values) := by
  intro rest
  obtain ⟨slots, told, read⟩ := readObject_members distinct fits rest
  rw [objectOf, List.cons_append, List.append_assoc, List.singleton_append, read_object, read,
    complete slots told]
  rfl

theorem read_missing (missing : firstMissing? record.fields members = some field)
    (rest : List Token) : record.codec.read (objectOf (keyed members) ++ rest) =
      .error (.mismatch (.missingField field.name)) := by
  obtain ⟨slots, told, read⟩ := readObject_members distinct fits rest
  rw [objectOf, List.cons_append, List.append_assoc, List.singleton_append, read_object, read,
    told.complete_missing missing]
  rfl

theorem read_repeated {tokens : List Token} (known : field ∈ record.fields)
    (named : (field.name, tokens) ∈ members) (rest : List Token) :
    record.codec.read
        (.openObject :: (membersOf (keyed members) ++ .comma :: .text field.name :: rest)) =
      .error (.mismatch (.duplicateField field.name)) := by
  rw [read_object, readObject_repeated distinct fits known named]
  rfl

end Record

/-! ## Lists -/

theorem nextElement_item {item : List Token} (value : IsValue item) (first : Bool)
    (items : List (List Token)) (tail : List Token) :
    nextElement first (elements first (item :: items) ++ tail) =
      .ok (some (item ++ (elements false items ++ tail))) := by
  obtain ⟨head, others, rfl, opens⟩ := value.head
  cases first with
  | true =>
    rw [elements, separated_cons, List.append_assoc]
    cases head <;> first | rfl | exact (opens rfl).elim
  | false =>
    rw [← List.append_assoc]
    cases head <;> first | rfl | exact (opens rfl).elim

theorem nextElement_end (first : Bool) (rest : List Token) :
    nextElement first (elements first [] ++ .closeList :: rest) = .ok none := by
  cases first <;> rfl

theorem readElements_of_reads {entries : List (List Token × α)}
    (each : ∀ entry ∈ entries, IsValue entry.1 ∧ codec.Reads entry.1 entry.2) (rest : List Token)
    {fuel : Nat} (enough : entries.length < fuel) (first : Bool) :
    Codec.readElements codec fuel first
        (elements first (entries.map Prod.fst) ++ .closeList :: rest) =
      .ok (entries.map Prod.snd, .closeList :: rest) := by
  induction entries generalizing fuel first with
  | nil =>
    obtain ⟨fuel, rfl⟩ := Nat.exists_eq_succ_of_ne_zero (Nat.ne_of_gt enough)
    cases first <;> rfl
  | cons entry entries ih =>
    obtain ⟨fuel, rfl⟩ := Nat.exists_eq_succ_of_ne_zero (Nat.ne_of_gt (Nat.zero_lt_of_lt enough))
    obtain ⟨⟨isValue, reads⟩, later⟩ := List.forall_mem_cons.mp each
    have readLater := ih later (Nat.lt_of_succ_lt_succ enough) false
    rw [List.map_cons, Codec.readElements, nextElement_item isValue]
    simp only [bind, Except.bind, reads _, readLater, List.map_cons]

theorem Codec.list_reads {entries : List (List Token × α)}
    (each : ∀ entry ∈ entries, IsValue entry.1 ∧ codec.Reads entry.1 entry.2) :
    codec.list.Reads (listOf (entries.map Prod.fst)) (entries.map Prod.snd) := by
  intro rest
  have few := length_elements true (entries.map Prod.fst)
  have enough : entries.length <
      (elements true (entries.map Prod.fst) ++ .closeList :: rest).length + 1 := by
    rw [List.length_map] at few
    simp only [List.length_append, List.length_cons]
    omega
  have read := readElements_of_reads each rest enough true
  rw [listOf, List.cons_append, List.append_assoc]
  simp only [Codec.list, List.singleton_append, bind, Except.bind]
  rw [elements] at read
  rw [read]
  rfl

/-! ### Records as lists -/

variable {items : List (List Token)} {values : Values fields}

def ReadsInOrder (fields : List Field) (items : List (List Token)) (values : Values fields) :
    Prop :=
  ∀ record count index first rest,
    readFields record count fields index first (elements first items ++ .closeList :: rest) =
      .ok (values, .closeList :: rest)

theorem ReadsInOrder.item {value : field.Carrier} (isValue : IsValue tokens)
    (reads : field.codec.Reads tokens value) (later : ReadsInOrder fields items values) :
    ReadsInOrder (field :: fields) (tokens :: items) (value, values) := by
  intro record count index first rest
  rw [readFields, nextElement_item isValue]
  simp only [bind, Except.bind, reads _, later _ _ _ false _]

theorem ReadsInOrder.absent {value : field.Carrier} (absent : field.absent = some value)
    (later : ReadsInOrder fields [] values) :
    ReadsInOrder (field :: fields) [] (value, values) := by
  intro record count index first rest
  rw [readFields, nextElement_end]
  simp only [bind, Except.bind, absent, later _ _ _ first _]

theorem Record.reads_list {ρ : Type} (record : Record ρ) {values : Values record.fields}
    (inOrder : ReadsInOrder record.fields items values) :
    record.codec.Reads (listOf items) (record.ofValues values) := by
  intro rest
  have read := inOrder record.name record.fields.length 0 true rest
  rw [listOf, List.cons_append, List.append_assoc]
  rw [elements] at read
  simp only [Record.codec, List.singleton_append, bind, Except.bind, read]
  rfl

end BuildWatch.Json
