import BuildWatch.Json.Record

namespace BuildWatch.Json

variable {α : Type} {codec : Codec α} {tokens rest : List Token} {value : α}
  {fields : List Field} {slots next : Slots fields} {values : Values fields}

/-! ## Readers that succeed -/

theorem bind_eq_ok {ε β : Type} {first : Except ε α} {later : α → Except ε β} {result : β} :
    (first >>= later) = .ok result ↔ ∃ value, first = .ok value ∧ later value = .ok result := by
  cases first <;> simp [bind, Except.bind]

theorem map_eq_ok {ε β : Type} {first : Except ε α} {rename : α → β} {result : β} :
    first.map rename = .ok result ↔ ∃ value, first = .ok value ∧ rename value = result := by
  cases first <;> simp [Except.map]

def Codec.Gives {α : Type} (codec : Codec α) (value : α) : Prop :=
  ∃ tokens rest, codec.read tokens = .ok (value, rest)

theorem Codec.gives_of_decode {text : String} (decoded : codec.decode text = .ok value) :
    codec.Gives value := by
  rw [Codec.decode] at decoded
  split at decoded
  · rename_i read
    cases decoded
    exact ⟨_, _, read⟩
  · cases decoded
  · cases decoded

theorem Codec.Gives.of_whole {name : String} {least most n : Int}
    (gives : (Codec.whole name least most).Gives n) : least ≤ n ∧ n ≤ most := by
  obtain ⟨tokens, rest, read⟩ := gives
  simp only [Codec.whole] at read
  split at read
  · split at read
    · split at read
      · rename_i bounds
        cases read
        exact bounds
      · cases read
    · cases read
    · cases read
  · cases read

theorem Codec.Gives.of_map {β : Type} {rename : α → β} {back : β → α} {value : β}
    (gives : (codec.map rename back).Gives value) :
    ∃ source, codec.Gives source ∧ rename source = value := by
  obtain ⟨tokens, rest, read⟩ := gives
  simp only [Codec.map] at read
  split at read
  · rename_i source behind reads
    cases read
    exact ⟨source, ⟨tokens, _, reads⟩, rfl⟩
  · cases read

/-! ## Values of fields -/

def Field.Gives (field : Field) (value : field.Carrier) : Prop :=
  field.codec.Gives value ∨ field.absent = some value

def Values.Given : (fields : List Field) → Values fields → Prop
  | [], _ => True
  | field :: fields, (value, values) => field.Gives value ∧ Given fields values

/-! ## Objects -/

namespace Slots

def Given : (fields : List Field) → Slots fields → Prop
  | [], _ => True
  | field :: fields, (slot, slots) =>
    (∀ value, slot = some value → field.codec.Gives value) ∧ Given fields slots

theorem given_empty (fields : List Field) : Given fields (empty fields) := by
  induction fields with
  | nil => trivial
  | cons field fields ih => exact ⟨fun _ none => (by cases none), ih⟩

theorem Given.read? {key : String} (given : Given fields slots)
    (read : read? fields slots key tokens = some (.ok (next, rest))) : Given fields next := by
  induction fields with
  | nil => cases read
  | cons field fields ih =>
    obtain ⟨slot, slots⟩ := slots
    simp only [Slots.read?] at read
    split at read
    · cases slot with
      | some held => cases read
      | none =>
        obtain ⟨after, -, read⟩ := bind_eq_ok.mp (Option.some.inj read)
        obtain ⟨⟨value, behind⟩, gives, read⟩ := bind_eq_ok.mp read
        cases read
        refine ⟨fun other held => ?_, given.2⟩
        cases held
        exact ⟨after, _, gives⟩
    · obtain ⟨result, found, read⟩ := Option.map_eq_some_iff.mp read
      obtain ⟨⟨others, behind⟩, rfl, read⟩ := map_eq_ok.mp read
      cases read
      exact ⟨given.1, ih given.2 found⟩

theorem Given.complete (given : Given fields slots)
    (complete : Slots.complete fields slots = .ok values) : Values.Given fields values := by
  induction fields with
  | nil => trivial
  | cons field fields ih =>
    obtain ⟨slot, slots⟩ := slots
    simp only [Slots.complete] at complete
    split at complete
    · cases complete
    · rename_i value held
      obtain ⟨others, completes, rfl⟩ := map_eq_ok.mp complete
      refine ⟨?_, ih given.2 completes⟩
      cases slot with
      | none => exact .inr held
      | some told =>
        cases held
        exact .inl (given.1 _ rfl)

end Slots

theorem readMember_given {key : String} (given : Slots.Given fields slots)
    (read : readMember fields slots key tokens = .ok (next, rest)) : Slots.Given fields next := by
  rw [readMember] at read
  split at read
  · rename_i found
    rw [read] at found
    exact given.read? found
  · -- A member that no field has is passed over, and the slots stay as they are.
    obtain ⟨after, -, read⟩ := bind_eq_ok.mp read
    obtain ⟨behind, -, read⟩ := bind_eq_ok.mp read
    cases read
    exact given

theorem readMembers_given {fuel : Nat} {first : Bool} (given : Slots.Given fields slots)
    (read : readMembers fields fuel first slots tokens = .ok (next, rest)) :
    Slots.Given fields next := by
  induction fuel generalizing first slots tokens with
  | zero => cases read
  | succ fuel ih =>
    rw [readMembers] at read
    obtain ⟨member?, -, read⟩ := bind_eq_ok.mp read
    cases member? with
    | none =>
      cases read
      exact given
    | some member =>
      obtain ⟨⟨slots, behind⟩, one, later⟩ := bind_eq_ok.mp read
      exact ih (readMember_given given one) later

theorem readObject_given (read : readObject fields tokens = .ok (values, rest)) :
    Values.Given fields values := by
  obtain ⟨⟨slots, behind⟩, members, read⟩ := bind_eq_ok.mp read
  obtain ⟨others, completes, read⟩ := bind_eq_ok.mp read
  obtain ⟨after, -, read⟩ := bind_eq_ok.mp read
  cases read
  exact (readMembers_given (Slots.given_empty fields) members).complete completes

/-! ## Lists -/

theorem readFields_given {record : String} {count index : Nat} {first : Bool}
    (read : readFields record count fields index first tokens = .ok (values, rest)) :
    Values.Given fields values := by
  induction fields generalizing index first tokens with
  | nil => trivial
  | cons field fields ih =>
    rw [readFields] at read
    obtain ⟨element?, -, read⟩ := bind_eq_ok.mp read
    cases element? with
    | some element =>
      obtain ⟨⟨value, behind⟩, gives, read⟩ := bind_eq_ok.mp read
      obtain ⟨⟨others, after⟩, later, read⟩ := bind_eq_ok.mp read
      cases read
      exact ⟨.inl ⟨_, _, gives⟩, ih later⟩
    | none =>
      dsimp only at read
      split at read
      · cases read
      · rename_i default
        obtain ⟨⟨others, after⟩, later, read⟩ := bind_eq_ok.mp read
        cases read
        exact ⟨.inr default, ih later⟩

/-! ## Records -/

theorem Record.gives {ρ : Type} {record : Record ρ} {value : ρ} (gives : record.codec.Gives value) :
    ∃ values, Values.Given record.fields values ∧ record.ofValues values = value := by
  obtain ⟨tokens, rest, read⟩ := gives
  simp only [Record.codec] at read
  split at read
  · obtain ⟨⟨values, behind⟩, object, read⟩ := bind_eq_ok.mp read
    cases read
    exact ⟨values, readObject_given object, rfl⟩
  · obtain ⟨⟨values, behind⟩, inOrder, read⟩ := bind_eq_ok.mp read
    obtain ⟨after, -, read⟩ := bind_eq_ok.mp read
    cases read
    exact ⟨values, readFields_given inOrder, rfl⟩
  · cases read

end BuildWatch.Json
