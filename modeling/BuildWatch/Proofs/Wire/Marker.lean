import BuildWatch.Wire.Frame
import Mathlib.Data.List.Forall2

namespace BuildWatch

open Text

/-! ## Status words -/

def IsSmall (letter : Char) : Prop :=
  97 ≤ letter.toNat ∧ letter.toNat ≤ 122 ∧ letter.toUpper.toNat = letter.toNat - 32

instance (letter : Char) : Decidable (IsSmall letter) :=
  inferInstanceAs (Decidable (_ ∧ _ ∧ _))

def InEitherCase (c letter : Char) : Prop :=
  c = letter ∨ c = letter.toUpper

theorem toNat_toLower (c : Char) :
    c.toLower.toNat = if 65 ≤ c.toNat ∧ c.toNat ≤ 90 then c.toNat + 32 else c.toNat := by
  have capital : c.val ≥ 'A'.val ∧ c.val ≤ 'Z'.val ↔ 65 ≤ c.toNat ∧ c.toNat ≤ 90 := by
    simp only [ge_iff_le, UInt32.le_iff_toNat_le]
    rfl
  unfold Char.toLower
  simp only [capital]
  split
  · rename_i bounds
    change (c.val + ('a'.val - 'A'.val)).toNat = c.toNat + 32
    rw [UInt32.toNat_add]
    apply Nat.mod_eq_of_lt
    have upper := bounds.2
    change c.toNat + 32 < _
    omega
  · rfl

theorem toLower_eq_iff {c letter : Char} (small : IsSmall letter) :
    c.toLower = letter ↔ InEitherCase c letter := by
  obtain ⟨lower, upper, capital⟩ := small
  unfold InEitherCase
  simp only [← Char.toNat_inj, toNat_toLower, capital]
  split <;> omega

theorem bounds_of_eitherCase {c letter : Char} (small : IsSmall letter)
    (same : InEitherCase c letter) : 65 ≤ c.toNat ∧ c.toNat ≤ 122 := by
  obtain ⟨lower, upper, capital⟩ := small
  rcases same with rfl | rfl <;> omega

theorem not_blank_of_bounds {c : Char} (bounds : 65 ≤ c.toNat ∧ c.toNat ≤ 122) :
    isBlank c = false := by
  simp only [isBlank, blankRanges, List.any_cons, List.any_nil, Bool.or_eq_false_iff,
    Bool.and_eq_false_iff, decide_eq_false_iff_not, and_true]
  omega

theorem lower_eq_iff {text word : List Char} (small : ∀ letter ∈ word, IsSmall letter) :
    lower text = word ↔ List.Forall₂ InEitherCase text word := by
  induction word generalizing text with
  | nil => simp [lower]
  | cons letter word ih =>
    obtain ⟨here, later⟩ := List.forall_mem_cons.mp small
    cases text with
    | nil => simp [lower]
    | cons c text =>
      rw [List.forall₂_cons, ← ih later, ← toLower_eq_iff here]
      exact List.cons_eq_cons

namespace Status

variable {status : Status} {word : String}

/-- A word is the name of a status in any case, with blanks around it or none. -/
def Spells (status : Status) (word : String) : Prop :=
  ∃ before name after, word.toList = before ++ name ++ after ∧
    (∀ c ∈ before, isBlank c) ∧ (∀ c ∈ after, isBlank c) ∧
    List.Forall₂ InEitherCase name status.wire.toList

theorem isSmall_of_mem_wire (status : Status) :
    ∀ letter ∈ status.wire.toList, IsSmall letter := by
  -- As a statement about all characters it would be decided by going through every one there is.
  have small : status.wire.toList.all fun letter => IsSmall letter := by
    cases status <;> decide +kernel
  intro letter among
  exact of_decide_eq_true (List.all_eq_true.mp small letter among)

theorem find?_wire (status : Status) :
    (all.find? fun other => other.wire == status.wire) = some status := by
  cases status <;> decide +kernel

theorem bounds_of_name {name : List Char}
    (named : List.Forall₂ InEitherCase name status.wire.toList) :
    ∀ c ∈ name, 65 ≤ c.toNat ∧ c.toNat ≤ 122 := by
  intro c among
  obtain ⟨n, bound, rfl⟩ := List.getElem_of_mem among
  have bound' : n < status.wire.toList.length := named.length_eq ▸ bound
  exact bounds_of_eitherCase (isSmall_of_mem_wire status _ (List.getElem_mem bound'))
    (named.get bound bound')

theorem parse?_eq_some_iff : parse? word = some status ↔ status.Spells word := by
  have read : parse? word = some status ↔ lower (trim word.toList) = status.wire.toList := by
    rw [← String.ofList_inj, String.ofList_toList]
    constructor
    · intro found
      have same : status.wire = normal word := by simpa using List.find?_some found
      rw [same, normal, lowered, trimmed, String.toList_ofList]
    · intro same
      have same' : normal word = status.wire := by
        rw [normal, lowered, trimmed, String.toList_ofList, same]
      rw [parse?, same', find?_wire]
  rw [read, lower_eq_iff (isSmall_of_mem_wire status)]
  constructor
  · intro named
    obtain ⟨before, after, split, blank, blank'⟩ := exists_trim word.toList
    exact ⟨before, _, after, split, blank, blank', named⟩
  · rintro ⟨before, name, after, split, blank, blank', named⟩
    rwa [split, trim_eq blank blank' fun c among =>
      not_blank_of_bounds (bounds_of_name named c among)]

theorem ofWire_of_spells (spells : status.Spells word) : ofWire word = status := by
  rw [ofWire, parse?_eq_some_iff.mpr spells, Option.getD_some]

theorem ofWire_of_unspelled (unspelled : ∀ status : Status, ¬ status.Spells word) :
    ofWire word = .unspecified := by
  have unread : parse? word = none :=
    Option.eq_none_iff_forall_ne_some.mpr fun status read =>
      unspelled status (parse?_eq_some_iff.mp read)
  rw [ofWire, unread, Option.getD_none]

theorem Spells.append_blanks {blanks : String} (spells : status.Spells word)
    (blank : ∀ c ∈ blanks.toList, isBlank c) : status.Spells (word ++ blanks) := by
  obtain ⟨before, name, after, split, blankBefore, blankAfter, named⟩ := spells
  refine ⟨before, name, after ++ blanks.toList, ?_, blankBefore, ?_, named⟩
  · rw [String.toList_append, split, List.append_assoc]
  · exact List.forall_mem_append.mpr ⟨blankAfter, blank⟩

theorem colon_notMem_of_spells (spells : status.Spells word) : ':' ∉ word.toList := by
  obtain ⟨before, name, after, split, blank, blank', named⟩ := spells
  have solid : isBlank ':' = false := by decide
  intro among
  rw [split, List.mem_append, List.mem_append] at among
  rcases among with (among | among) | among
  · exact absurd (blank _ among) (by simp [solid])
  · exact absurd (bounds_of_name named _ among) (by decide)
  · exact absurd (blank' _ among) (by simp [solid])

end Status

/-! ## Markers -/

namespace Wire

variable {status : Status} {word detail blanks : String}

theorem trimEnd_markerStart (rest : List Char) :
    trimEnd (markerStart.toList ++ rest) = markerStart.toList ++ trimEnd rest := by
  have split : markerStart.toList = "BUILD_COMPLETE".toList ++ [':'] := by decide +kernel
  rw [split, List.append_assoc, List.append_assoc]
  exact trimEnd_append_cons_of_not_blank (by decide) _ rest

theorem marker?_isSome_iff {raw : String} :
    (marker? raw).isSome ↔ markerStart.toList <+: raw.toList := by
  rw [marker?, Option.isSome_map, Option.isSome_iff_exists]
  simp only [afterPrefix?_eq_some]
  constructor
  · rintro ⟨rest, begins⟩
    obtain ⟨blanks, whole, -⟩ := exists_trimEnd raw.toList
    refine ⟨rest ++ blanks, ?_⟩
    rw [← List.append_assoc, ← begins, ← whole]
  · rintro ⟨rest, begins⟩
    refine ⟨trimEnd rest, ?_⟩
    rw [← begins, trimEnd_markerStart]

theorem marker?_of_detail (unsplit : ':' ∉ word.toList) :
    marker? (markerStart ++ word ++ ":" ++ detail) =
      some (.ofWire word, String.ofList (trimEnd detail.toList)) := by
  have trimmed : trimEnd (markerStart ++ word ++ ":" ++ detail).toList =
      markerStart.toList ++ (word.toList ++ ':' :: trimEnd detail.toList) := by
    have colon : ":".toList = [':'] := by decide +kernel
    simp only [String.toList_append, List.append_assoc, trimEnd_markerStart, colon]
    rw [List.singleton_append, trimEnd_append_cons_of_not_blank (by decide)]
  rw [marker?, trimmed, afterPrefix?_append, Option.map_some, cutAt_append unsplit]
  simp

theorem marker?_of_bare (unsplit : ':' ∉ word.toList) :
    marker? (markerStart ++ word) = some (.ofWire word, "") := by
  obtain ⟨blanks, whole, blank⟩ := exists_trimEnd word.toList
  have uncut : ':' ∉ trimEnd word.toList := by
    rw [whole] at unsplit
    exact fun among => unsplit (List.mem_append_left _ among)
  have same : Status.ofWire (String.ofList (trimEnd word.toList)) = Status.ofWire word := by
    have normal : Status.normal (String.ofList (trimEnd word.toList)) = Status.normal word := by
      have kept : trim word.toList = trim (trimEnd word.toList) := by
        conv_lhs => rw [whole, trim_append_blanks blank]
      simp only [Status.normal, trimmed, String.toList_ofList, kept]
    simp only [Status.ofWire, Status.parse?, normal]
  rw [marker?, String.toList_append, trimEnd_markerStart, afterPrefix?_append, Option.map_some,
    cutAt_of_notMem uncut]
  simp [same]

/-- A marker gives back the status however its name is written, and the detail without the blanks at
the end. A text is a marker if and only if it begins like one; what is no status word in it counts
as unspecified. -/
theorem markers_round_trip :
    (∀ (status : Status) (word detail blanks : String), status.Spells word →
      (∀ c ∈ blanks.toList, isBlank c) →
      marker? (markerStart ++ word ++ ":" ++ detail ++ blanks) =
          some (status, String.ofList (trimEnd detail.toList)) ∧
        marker? (markerStart ++ word ++ blanks) = some (status, "")) ∧
    (∀ raw, (marker? raw).isSome ↔ markerStart.toList <+: raw.toList) ∧
    ∀ word detail : String, ':' ∉ word.toList → (∀ status : Status, ¬ status.Spells word) →
      marker? (markerStart ++ word ++ ":" ++ detail) =
          some (.unspecified, String.ofList (trimEnd detail.toList)) ∧
        marker? (markerStart ++ word) = some (.unspecified, "") := by
  refine ⟨?_, fun raw => marker?_isSome_iff, ?_⟩
  · intro status word detail blanks spells blank
    have unsplit := Status.colon_notMem_of_spells spells
    have padded : status.Spells (word ++ blanks) := spells.append_blanks blank
    constructor
    · rw [String.append_assoc, marker?_of_detail unsplit, Status.ofWire_of_spells spells,
        String.toList_append, trimEnd_append_blanks blank]
    · rw [String.append_assoc, marker?_of_bare (Status.colon_notMem_of_spells padded),
        Status.ofWire_of_spells padded]
  · intro word detail unsplit unspelled
    rw [marker?_of_detail unsplit, marker?_of_bare unsplit, Status.ofWire_of_unspelled unspelled]
    exact ⟨rfl, rfl⟩

theorem odd_markers_round_trip :
    marker? "BUILD_COMPLETE:\u3000SuCCess\t::a\n: \u2003\n" = some (.success, ":a\n:") ∧
      marker? "BUILD_COMPLETE:\u3000SuCCess\t \u2003\n" = some (.success, "") ∧
      marker? "BUILD_COMPLETE:suc cess" = some (.unspecified, "") := by
  have spells : Status.success.Spells "\u3000SuCCess\t" :=
    Status.parse?_eq_some_iff.mp (by decide +kernel)
  have unspelled : ∀ status : Status, ¬ status.Spells "suc cess" := by
    intro status spells
    have unread : Status.parse? "suc cess" = none := by decide +kernel
    rw [Status.parse?_eq_some_iff.mpr spells] at unread
    cases unread
  obtain ⟨reads, -, odd⟩ := markers_round_trip
  obtain ⟨whole, bare⟩ := reads .success "\u3000SuCCess\t" ":a\n:" " \u2003\n" spells
    (List.all_eq_true.mp (by decide +kernel))
  have kept : String.ofList (trimEnd ":a\n:".toList) = ":a\n:" := by decide +kernel
  rw [kept] at whole
  exact ⟨whole, bare, (odd "suc cess" "" (by decide +kernel) unspelled).2⟩

end Wire

end BuildWatch
