import BuildWatch.Wire.Endpoint
import Mathlib.Data.List.Infix

namespace BuildWatch.Wire

inductive Endpoint where
  | challenge
  | list
  | log
  | stream
  deriving DecidableEq, Repr

structure Resource where
  endpoint : Endpoint
  id : String
  deriving DecidableEq, Repr

/-! ## The parts of a path -/

namespace Endpoint

variable {first second : Endpoint}

def beginning : Endpoint → String
  | challenge | list => "/api/v1/admin/challenges/"
  | log | stream => "/api/v1/admin/build-logs/"

def ending : Endpoint → String
  | challenge | log => ""
  | list => "/build-logs"
  | stream => "/stream"

theorem length_beginning (endpoint : Endpoint) : endpoint.beginning.toList.length = 25 := by
  cases endpoint <;> rfl

theorem cases_of_beginning (same : first.beginning = second.beginning) :
    first = second ∨ first = .challenge ∧ second = .list ∨ first = .list ∧ second = .challenge ∨
      first = .log ∧ second = .stream ∨ first = .stream ∧ second = .log := by
  cases first <;> cases second <;> first | exact absurd same (by decide) | simp

end Endpoint

namespace Resource

variable {left right : Resource}

def path (resource : Resource) : String :=
  match resource.endpoint with
  | .challenge => challengePath resource.id
  | .list => listPath resource.id
  | .log => logPath resource.id
  | .stream => streamPath resource.id

theorem path_eq (resource : Resource) :
    resource.path = resource.endpoint.beginning ++ resource.id ++ resource.endpoint.ending := by
  obtain ⟨endpoint, id⟩ := resource
  cases endpoint with
  | challenge | log => exact String.append_empty.symm
  | list | stream => rfl

theorem exists_path (resource : Resource) : ∃ rest, resource.path.toList = '/' :: 'a' :: rest := by
  rw [path_eq, String.append_assoc, String.toList_append]
  cases resource.endpoint <;> exact ⟨_, rfl⟩

theorem parts_eq (same : left.path = right.path) :
    left.endpoint.beginning = right.endpoint.beginning ∧
      left.id ++ left.endpoint.ending = right.id ++ right.endpoint.ending := by
  rw [path_eq, path_eq, String.append_assoc, String.append_assoc] at same
  have letters :
      left.endpoint.beginning.toList ++ (left.id ++ left.endpoint.ending).toList =
        right.endpoint.beginning.toList ++ (right.id ++ right.endpoint.ending).toList := by
    rw [← String.toList_append, ← String.toList_append, same]
  -- The beginnings are equally long, so that each is where the other is in the common path.
  have long : left.endpoint.beginning.toList.length = right.endpoint.beginning.toList.length := by
    rw [Endpoint.length_beginning, Endpoint.length_beginning]
  obtain ⟨begins, rest⟩ := List.append_inj letters long
  exact ⟨String.toList_inj.mp begins, String.toList_inj.mp rest⟩

/-! ## Paths that are the same -/

/-- The identifier of the one ends in what the path of the other ends in. -/
inductive Shadows : Resource → Resource → Prop
  | list (challenge : String) :
      Shadows ⟨.challenge, challenge ++ "/build-logs"⟩ ⟨.list, challenge⟩
  | stream (job : String) : Shadows ⟨.log, job ++ "/stream"⟩ ⟨.stream, job⟩

theorem Shadows.path_eq (shadows : Shadows left right) : left.path = right.path := by
  cases shadows with
  | list challenge => exact (String.append_assoc ..).symm
  | stream job => exact (String.append_assoc ..).symm

theorem Shadows.slash_mem (shadows : Shadows left right) : '/' ∈ left.id.toList := by
  cases shadows <;> simp

theorem path_eq_iff :
    left.path = right.path ↔ left = right ∨ Shadows left right ∨ Shadows right left := by
  constructor
  · intro same
    obtain ⟨begins, rest⟩ := parts_eq same
    obtain ⟨first, id⟩ := left
    obtain ⟨second, other⟩ := right
    rcases Endpoint.cases_of_beginning begins with
      rfl | ⟨rfl, rfl⟩ | ⟨rfl, rfl⟩ | ⟨rfl, rfl⟩ | ⟨rfl, rfl⟩
    · obtain rfl : id = other := (String.append_left_inj _).mp rest
      exact .inl rfl
    · obtain rfl : id = other ++ "/build-logs" := String.append_empty.symm.trans rest
      exact .inr (.inl (.list other))
    · obtain rfl : other = id ++ "/build-logs" := String.append_empty.symm.trans rest.symm
      exact .inr (.inr (.list id))
    · obtain rfl : id = other ++ "/stream" := String.append_empty.symm.trans rest
      exact .inr (.inl (.stream other))
    · obtain rfl : other = id ++ "/stream" := String.append_empty.symm.trans rest.symm
      exact .inr (.inr (.stream id))
  · rintro (rfl | shadows | shadows)
    · rfl
    · exact shadows.path_eq
    · exact shadows.path_eq.symm

theorem eq_of_path_eq (plain : '/' ∉ left.id.toList) (plainToo : '/' ∉ right.id.toList)
    (same : left.path = right.path) : left = right := by
  rcases path_eq_iff.mp same with same | shadows | shadows
  · exact same
  · exact absurd shadows.slash_mem plain
  · exact absurd shadows.slash_mem plainToo

/-- Resources have the same path exactly if they are the same, or if one is a challenge and the
other the list of a challenge, or one a log and the other the stream of a job, and the identifier
of the first ends as the path of the second does. It takes a slash in an identifier to do that.
What is asked for in the end is another matter: there backslashes, question marks, number signs and
steps back may lead to another resource without a slash, though no plain identifier does so. -/
theorem paths_tell_resources_apart :
    (∀ left right : Resource,
      left.path = right.path ↔ left = right ∨ Shadows left right ∨ Shadows right left) ∧
    ∀ left right : Resource, '/' ∉ left.id.toList → '/' ∉ right.id.toList →
      left ≠ right → left.path ≠ right.path := by
  refine ⟨fun _ _ => path_eq_iff, fun left right plain plainToo apart same => ?_⟩
  exact apart (eq_of_path_eq plain plainToo same)

theorem odd_paths_tell_resources_apart :
    let list : Resource := ⟨.list, "..?x=1 #%2F"⟩
    let challenge : Resource := ⟨.challenge, "..?x=1 #%2Fbuild-logs"⟩
    ('/' ∉ list.id.toList ∧ '/' ∉ challenge.id.toList ∧ list ≠ challenge) ∧
      list.path ≠ challenge.path := by
  intro list challenge
  have plain : '/' ∉ list.id.toList := by decide
  have plainToo : '/' ∉ challenge.id.toList := by decide
  have apart : list ≠ challenge := by decide
  exact ⟨⟨plain, plainToo, apart⟩,
    paths_tell_resources_apart.2 list challenge plain plainToo apart⟩

theorem challenge_takes_path_of_list :
    let challenge : Resource := ⟨.challenge, "c1/build-logs"⟩
    let list : Resource := ⟨.list, "c1"⟩
    challenge.id ≠ "" ∧ list.id ≠ "" ∧ challenge.path = list.path ∧ challenge ≠ list := by
  decide

end Resource

end BuildWatch.Wire
