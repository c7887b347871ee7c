import BuildWatch.Proofs.Wire.Marker

namespace BuildWatch

open Text

/-! ## Words in a text -/

theorem toLower_eq_space {c : Char} : c.toLower = ' ' ↔ c = ' ' := by
  have space : ' '.toNat = 32 := rfl
  rw [← Char.toNat_inj, ← Char.toNat_inj, toNat_toLower, space]
  split <;> omega

/-- The words "not found" stand in a text, each of their letters in either case. -/
def SaysNotFound (text : String) : Prop :=
  ∃ before first second after, text.toList = before ++ (first ++ ' ' :: second) ++ after ∧
    List.Forall₂ InEitherCase first "not".toList ∧ List.Forall₂ InEitherCase second "found".toList

theorem saysNotFound_iff {text : String} :
    SaysNotFound text ↔ occurs "not found".toList (lower text.toList) := by
  have words : "not found".toList = "not".toList ++ ' ' :: "found".toList := by decide +kernel
  have small {word : List Char} (all : word.all fun letter => IsSmall letter) :
      ∀ letter ∈ word, IsSmall letter := fun letter among =>
    of_decide_eq_true (List.all_eq_true.mp all letter among)
  have smallFirst : ∀ letter ∈ "not".toList, IsSmall letter := small (by decide +kernel)
  have smallSecond : ∀ letter ∈ "found".toList, IsSmall letter := small (by decide +kernel)
  rw [occurs_iff, words]
  constructor
  · rintro ⟨before, first, second, after, split, sameFirst, sameSecond⟩
    refine ⟨lower before, lower after, ?_⟩
    rw [← (lower_eq_iff smallFirst).mpr sameFirst, ← (lower_eq_iff smallSecond).mpr sameSecond,
      split]
    simp [lower]
  · rintro ⟨before, after, split⟩
    -- Every letter stays in its place, so the text can be split where the lowered one is.
    obtain ⟨front, last, textEq, frontEq, -⟩ := List.map_eq_append_iff.mp split
    obtain ⟨start, middle, rfl, -, middleEq⟩ := List.map_eq_append_iff.mp frontEq
    obtain ⟨first, rest, rfl, firstEq, restEq⟩ := List.map_eq_append_iff.mp middleEq
    obtain ⟨space, second, rfl, spaceEq, secondEq⟩ := List.map_eq_cons_iff.mp restEq
    obtain rfl := toLower_eq_space.mp spaceEq
    exact ⟨start, first, second, last, textEq, (lower_eq_iff smallFirst).mp firstEq,
      (lower_eq_iff smallSecond).mp secondEq⟩

/-! ## Messages -/

namespace Fault

variable {message : String} {reported : Option Fault}

def IsBlank (message : String) : Prop :=
  ∀ c ∈ message.toList, isBlank c

theorem isBlank_iff : IsBlank message ↔ trimmed message = "" := by
  constructor
  · intro blank
    have nothing : trim message.toList = [] := trim_append_blanks blank []
    rw [trimmed, nothing, String.ofList_nil]
  · intro empty
    obtain ⟨before, after, split, blank, blank'⟩ := exists_trim message.toList
    have nothing : trim message.toList = [] := by simpa [trimmed] using congrArg String.toList empty
    rw [nothing, List.append_nil] at split
    rw [IsBlank, split]
    exact List.forall_mem_append.mpr ⟨blank, blank'⟩

/-- What a message inside an answer reports. -/
inductive Reports (message : String) : Option Fault → Prop
  | nothing (blank : IsBlank message) : Reports message none
  | notFound (worded : ¬ IsBlank message) (missing : SaysNotFound (trimmed message)) :
      Reports message (some (.notFound (trimmed message)))
  | remote (worded : ¬ IsBlank message) (other : ¬ SaysNotFound (trimmed message)) :
      Reports message (some (.remote (trimmed message)))

theorem reports_ofMessage? (message : String) : Reports message (ofMessage? message) := by
  unfold ofMessage?
  dsimp only
  split
  · rename_i empty
    exact .nothing (isBlank_iff.mpr empty)
  · rename_i worded
    rw [← isBlank_iff] at worded
    split
    · rename_i missing
      exact .notFound worded (saysNotFound_iff.mpr missing)
    · rename_i other
      exact .remote worded fun missing => other (saysNotFound_iff.mp missing)

theorem Reports.unique {other : Option Fault} (left : Reports message reported)
    (right : Reports message other) : reported = other := by
  cases left <;> cases right <;> first | rfl | contradiction

theorem ofMessage?_eq_iff : ofMessage? message = reported ↔ Reports message reported :=
  ⟨fun same => same ▸ reports_ofMessage? message, (reports_ofMessage? message).unique⟩

theorem check_of_isBlank (blank : IsBlank message) : check message = .ok () := by
  rw [check, ofMessage?_eq_iff.mpr (.nothing blank)]

theorem check_of_reports {fault : Fault} (reports : Reports message (some fault)) :
    check message = .error fault := by
  rw [check, ofMessage?_eq_iff.mpr reports]

theorem exists_reports (worded : ¬ IsBlank message) : ∃ fault, Reports message (some fault) := by
  by_cases missing : SaysNotFound (trimmed message)
  · exact ⟨_, .notFound worded missing⟩
  · exact ⟨_, .remote worded missing⟩

end Fault

end BuildWatch
