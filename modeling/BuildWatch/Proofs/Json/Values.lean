import BuildWatch.Json.Record
import BuildWatch.Proofs.Json.Spelling

namespace BuildWatch.Json

variable {token first last : Token} {tokens rest front : List Token} {items : List (List Token)}
  {members : List (Token × List Token)} {stack : List Frame}

/-! ## The grammar -/

def Token.isKey : Token → Bool
  | text _ | unpaired => true
  | _ => false

def listOf (items : List (List Token)) : List Token :=
  .openList :: (separated items ++ [.closeList])

def member (key : Token) (value : List Token) : List Token :=
  key :: .colon :: value

def membersOf (members : List (Token × List Token)) : List Token :=
  separated (members.map fun entry => member entry.1 entry.2)

def objectOf (members : List (Token × List Token)) : List Token :=
  .openObject :: (membersOf members ++ [.closeObject])

inductive IsValue : List Token → Prop
  | null : IsValue [.null]
  | flag (value : Bool) : IsValue [.flag value]
  | number (value : Numeral) : IsValue [.number value]
  | text (value : String) : IsValue [.text value]
  | unpaired : IsValue [.unpaired]
  | list {items : List (List Token)} (each : ∀ item ∈ items, IsValue item) : IsValue (listOf items)
  | object {members : List (Token × List Token)} (keys : ∀ entry ∈ members, entry.1.isKey)
      (each : ∀ entry ∈ members, IsValue entry.2) : IsValue (objectOf members)

theorem separated_cons_cons (item next : List Token) (others : List (List Token)) :
    separated (item :: next :: others) = item ++ .comma :: separated (next :: others) := rfl

def elements : Bool → List (List Token) → List Token
  | true, items => separated items
  | false, items => items.flatMap (.comma :: ·)

theorem separated_cons (item : List Token) (items : List (List Token)) :
    separated (item :: items) = item ++ elements false items := by
  induction items generalizing item with
  | nil => exact (List.append_nil item).symm
  | cons next items ih =>
    rw [separated_cons_cons, ih]
    rfl

theorem length_elements (first : Bool) (items : List (List Token)) :
    items.length ≤ (elements first items).length + 1 := by
  have after (items : List (List Token)) : items.length ≤ (elements false items).length := by
    induction items with
    | nil => exact Nat.le_refl 0
    | cons item items ih =>
      simp only [elements, List.flatMap_cons, List.length_append, List.length_cons] at ih ⊢
      omega
  cases first with
  | false => exact Nat.le_succ_of_le (after items)
  | true =>
    cases items with
    | nil => exact Nat.zero_le _
    | cons item items =>
      have more := after items
      rw [elements, separated_cons, List.length_append, List.length_cons]
      omega

/-! ## Passing over -/

theorem skipFrom_element (opens : token ≠ .closeList) :
    skipFrom .element stack (token :: rest) = skipFrom .value stack (token :: rest) := by
  cases token <;> first | rfl | exact (opens rfl).elim

theorem skipFrom_member (key : token.isKey) :
    skipFrom .member stack (token :: rest) = skipFrom .colon stack rest ∧
      skipFrom .key stack (token :: rest) = skipFrom .colon stack rest := by
  cases token <;> first | exact ⟨rfl, rfl⟩ | cases key

theorem IsValue.head (value : IsValue tokens) :
    ∃ first others, tokens = first :: others ∧ first ≠ .closeList := by
  cases value <;> exact ⟨_, _, rfl, by simp⟩

def Passes (tokens : List Token) : Prop :=
  ∀ stack rest, skipFrom .value stack (tokens ++ rest) = skipFrom .next stack rest

theorem skipFrom_items (item : List Token) (others : List (List Token))
    (each : ∀ tokens ∈ item :: others, Passes tokens) (stack : List Frame) (rest : List Token) :
    skipFrom .value (.list :: stack) (separated (item :: others) ++ .closeList :: rest) =
      skipFrom .next stack rest := by
  induction others generalizing item with
  | nil =>
    have passes := each item (by simp)
    rw [separated, passes]
    rfl
  | cons next others ih =>
    obtain ⟨passes, later⟩ := List.forall_mem_cons.mp each
    rw [separated_cons_cons, List.append_assoc, passes, List.cons_append]
    exact ih next later

theorem membersOf_cons_cons (entry next : Token × List Token)
    (others : List (Token × List Token)) : membersOf (entry :: next :: others) =
      entry.1 :: .colon :: (entry.2 ++ .comma :: membersOf (next :: others)) := rfl

theorem skipFrom_members (entry : Token × List Token) (others : List (Token × List Token))
    (keys : ∀ other ∈ entry :: others, other.1.isKey)
    (each : ∀ other ∈ entry :: others, Passes other.2) (stack : List Frame) (rest : List Token) :
    skipFrom .key (.object :: stack) (membersOf (entry :: others) ++ .closeObject :: rest) =
      skipFrom .next stack rest := by
  induction others generalizing entry with
  | nil =>
    have passes := each entry (by simp)
    change skipFrom .key (.object :: stack) (entry.1 :: .colon :: (entry.2 ++ _)) = _
    rw [(skipFrom_member (keys entry (by simp))).2]
    exact passes _ _
  | cons next others ih =>
    obtain ⟨passes, later⟩ := List.forall_mem_cons.mp each
    obtain ⟨key, laterKeys⟩ := List.forall_mem_cons.mp keys
    rw [membersOf_cons_cons, List.cons_append, List.cons_append, List.append_assoc,
      (skipFrom_member key).2]
    exact (passes _ _).trans (ih next laterKeys later)

theorem IsValue.passes (value : IsValue tokens) : Passes tokens := by
  induction value with
  | null | flag | number | text | unpaired => exact fun _ _ => rfl
  | @list items each ih =>
    intro stack rest
    change skipFrom .element (.list :: stack) (separated items ++ [.closeList] ++ rest) = _
    rw [List.append_assoc]
    cases items with
    | nil => rfl
    | cons item others =>
      have opens : ∃ first more, separated (item :: others) = first :: more ∧
          first ≠ .closeList := by
        obtain ⟨first, more, itemEq, opens⟩ := (each item (by simp)).head
        cases others <;> exact ⟨_, _, by rw [itemEq]; rfl, opens⟩
      -- A list that is not empty goes on as if its first element came after a comma.
      have passed := skipFrom_items item others ih stack rest
      obtain ⟨first, more, whole, opens⟩ := opens
      rw [whole] at passed ⊢
      exact (skipFrom_element opens).trans passed
  | @object members keys each ih =>
    intro stack rest
    change skipFrom .member (.object :: stack) (membersOf members ++ [.closeObject] ++ rest) = _
    rw [List.append_assoc]
    cases members with
    | nil => rfl
    | cons entry others =>
      have passed := skipFrom_members entry others keys ih stack rest
      obtain ⟨more, whole⟩ : ∃ more, membersOf (entry :: others) = entry.1 :: more := by
        cases others <;> exact ⟨_, rfl⟩
      rw [whole] at passed ⊢
      have key := keys entry (by simp)
      exact ((skipFrom_member key).1.trans (skipFrom_member key).2.symm).trans passed

/-! ## Tokens that stand apart -/

theorem apart_single (token : Token) : Apart [token] := .singleton token

theorem apart_cons (other : token.isNumber = false) (apart : Apart tokens) :
    Apart (token :: tokens) :=
  List.isChain_cons.mpr ⟨fun _ _ => .inl other, apart⟩

theorem apart_append_cons (left : Apart front) (other : token.isNumber = false)
    (right : Apart rest) : Apart (front ++ token :: rest) := by
  refine List.isChain_append.mpr ⟨left, apart_cons other right, fun last _ next atFront => .inr ?_⟩
  obtain rfl : token = next := Option.some.inj atFront
  exact other

theorem apart_separated (each : ∀ item ∈ items, Apart item) : Apart (separated items) := by
  induction items with
  | nil => exact .nil
  | cons item others ih =>
    obtain ⟨first, later⟩ := List.forall_mem_cons.mp each
    cases others with
    | nil => exact first
    | cons next others => exact apart_append_cons first rfl (ih later)

theorem apart_member {key : Token} (isKey : key.isKey) (apart : Apart tokens) :
    Apart (member key tokens) := by
  have other : key.isNumber = false := by
    cases key <;> first | rfl | cases isKey
  exact apart_cons other (apart_cons rfl apart)

theorem apart_listOf (each : ∀ item ∈ items, Apart item) : Apart (listOf items) :=
  apart_cons rfl (apart_append_cons (apart_separated each) rfl .nil)

theorem apart_membersOf (keys : ∀ entry ∈ members, entry.1.isKey)
    (each : ∀ entry ∈ members, Apart entry.2) : Apart (membersOf members) := by
  refine apart_separated fun item among => ?_
  obtain ⟨entry, present, rfl⟩ := List.mem_map.mp among
  exact apart_member (keys entry present) (each entry present)

theorem apart_objectOf (keys : ∀ entry ∈ members, entry.1.isKey)
    (each : ∀ entry ∈ members, Apart entry.2) : Apart (objectOf members) :=
  apart_cons rfl (apart_append_cons (apart_membersOf keys each) rfl .nil)

theorem IsValue.apart (value : IsValue tokens) : Apart tokens := by
  induction value with
  | null | flag | number | text | unpaired => exact apart_single _
  | list _ ih => exact apart_listOf ih
  | object keys _ ih => exact apart_objectOf keys ih

/-! ## Tokens that are written -/

abbrev Writable (tokens : List Token) : Prop :=
  ∀ token ∈ tokens, token.Writable

theorem writable_nil : Writable [] :=
  fun _ none => (List.not_mem_nil none).elim

theorem Token.Writable.alone (writable : token.Writable) : Json.Writable [token] :=
  List.forall_mem_singleton.mpr writable

theorem writable_fixed (known : token ∈ Token.fixed) (rest : Writable tokens) :
    Writable (token :: tokens) :=
  List.forall_mem_cons.mpr ⟨.fixed known, rest⟩

theorem writable_append (left : Writable front) (right : Writable tokens) :
    Writable (front ++ tokens) :=
  List.forall_mem_append.mpr ⟨left, right⟩

theorem writable_separated (each : ∀ item ∈ items, Writable item) : Writable (separated items) := by
  induction items with
  | nil => exact writable_nil
  | cons item others ih =>
    obtain ⟨first, later⟩ := List.forall_mem_cons.mp each
    cases others with
    | nil => exact first
    | cons next others => exact writable_append first (writable_fixed (by decide) (ih later))

theorem writable_listOf (each : ∀ item ∈ items, Writable item) : Writable (listOf items) :=
  writable_fixed (by decide) (writable_append (writable_separated each)
    (writable_fixed (by decide) writable_nil))

theorem writable_membersOf (each : ∀ entry ∈ members, entry.1.Writable ∧ Writable entry.2) :
    Writable (membersOf members) := by
  refine writable_separated fun item among => ?_
  obtain ⟨entry, present, rfl⟩ := List.mem_map.mp among
  obtain ⟨key, value⟩ := each entry present
  exact List.forall_mem_cons.mpr ⟨key, writable_fixed (by decide) value⟩

theorem writable_objectOf (each : ∀ entry ∈ members, entry.1.Writable ∧ Writable entry.2) :
    Writable (objectOf members) :=
  writable_fixed (by decide) (writable_append (writable_membersOf each)
    (writable_fixed (by decide) writable_nil))

end BuildWatch.Json
