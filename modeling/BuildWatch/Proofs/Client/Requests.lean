import BuildWatch.Client.Link
import BuildWatch.Proofs.Address.PlainPaths
import BuildWatch.Proofs.Wire.Paths

namespace BuildWatch

/-! ## The steps of a path -/

namespace Wire

namespace Endpoint

def leadingSteps : Endpoint → List String
  | challenge | list => ["v1", "admin", "challenges"]
  | log | stream => ["v1", "admin", "build-logs"]

def trailingSteps : Endpoint → List String
  | challenge | log => []
  | list => ["build-logs"]
  | stream => ["stream"]

theorem isPlain_step (endpoint : Endpoint) :
    ∀ step ∈ endpoint.leadingSteps ++ endpoint.trailingSteps, Address.IsPlain step.toList := by
  cases endpoint <;> decide

end Endpoint

namespace Resource

variable {resource : Resource}

def steps (resource : Resource) : List (List Char) :=
  let ⟨endpoint, id⟩ := resource
  (endpoint.leadingSteps ++ id :: endpoint.trailingSteps).map String.toList

theorem steps_ne_nil (resource : Resource) : resource.steps ≠ [] := by
  rw [steps, List.map_append]
  exact List.append_ne_nil_of_right_ne_nil _ (List.cons_ne_nil _ _)

theorem path_eq_steps (resource : Resource) :
    resource.path = String.ofList (Address.pathOf ("api".toList :: resource.steps)) := by
  obtain ⟨endpoint, id⟩ := resource
  rw [← String.toList_inj, path_eq, String.toList_ofList]
  cases endpoint <;>
    simp [Endpoint.beginning, Endpoint.ending, steps, Endpoint.leadingSteps, Endpoint.trailingSteps,
      Address.pathOf]

theorem isPlain_steps (isPlain : Address.IsPlain resource.id.toList) :
    ∀ step ∈ resource.steps, Address.IsPlain step := by
  intro step among
  obtain ⟨text, present, rfl⟩ := List.mem_map.mp among
  rw [List.mem_append, List.mem_cons] at present
  rcases present with before | rfl | after
  · exact resource.endpoint.isPlain_step text (List.mem_append_left _ before)
  · exact isPlain
  · exact resource.endpoint.isPlain_step text (List.mem_append_right _ after)

end Resource

end Wire

/-! ## Requests -/

namespace Client

open Wire (Resource)

variable {settings : Settings} {left right : Resource} {job other : String} {request : Request}

def Request.below (request : Request) (steps : List (List Char)) : Request :=
  { request with address := request.address ++ String.ofList (Address.pathOf steps) }

theorem request?_eq (settings : Settings) (path : String) :
    request? settings path = (Address.normal? (settings.baseUrl ++ path)).bind fun address =>
      if hasSendableToken settings then some { address, token := settings.token } else none :=
  rfl

theorem exists_front_request? (settings : Settings) :
    ∃ front : Option Request, ∀ resource : Resource, Address.IsPlain resource.id.toList →
      request? settings resource.path = front.map (·.below resource.steps) := by
  have isPlain : Address.IsPlain "api".toList := by decide
  obtain ⟨front, behind⟩ := Address.normal?_append settings.baseUrl isPlain (by decide)
  let toRequest (address : String) : Request := { address, token := settings.token }
  refine ⟨if hasSendableToken settings then front.map toRequest else none,
    fun resource isPlain => ?_⟩
  have normal := behind resource.steps resource.steps_ne_nil (Resource.isPlain_steps isPlain)
  rw [request?_eq, Resource.path_eq_steps, normal]
  split
  · cases front <;> rfl
  · cases front <;> rfl

theorem path_eq_of_below_eq (same : request.below left.steps = request.below right.steps) :
    left.path = right.path := by
  have behind := congrArg Request.address same
  have texts := (String.append_right_inj _).mp behind
  have letters := String.ofList_injective texts
  rw [Resource.path_eq_steps, Resource.path_eq_steps, Address.pathOf_cons, Address.pathOf_cons,
    letters]

/-- No request is for two resources whose identifiers are plain steps. Others may lead elsewhere when
an address is brought into its normal form, also without a slash. -/
theorem eq_of_request?_eq (isPlain : Address.IsPlain left.id.toList)
    (isPlainToo : Address.IsPlain right.id.toList)
    (asked : request? settings left.path = some request)
    (askedToo : request? settings right.path = some request) : left = right := by
  obtain ⟨front, behind⟩ := exists_front_request? settings
  rw [behind left isPlain] at asked
  rw [behind right isPlainToo] at askedToo
  obtain ⟨first, rfl, whole⟩ := Option.map_eq_some_iff.mp asked
  have same : first.below left.steps = first.below right.steps :=
    whole.trans (Option.some.inj askedToo).symm
  exact Resource.eq_of_path_eq isPlain.slash_notMem isPlainToo.slash_notMem
    (path_eq_of_below_eq same)

example :
    let settings : Settings := { baseUrl := "http://host", streamUrl := "ws://host" }
    request? settings (Wire.challengePath "..\\build-logs\\j1") =
      request? settings (Wire.logPath "j1") := by
  decide +kernel

theorem address_of_streamRequest (asked : streamRequest settings job = .ok request) :
    request.address = settings.streamUrl ++ Wire.streamPath job := by
  simp only [streamRequest] at asked
  split at asked
  · cases asked
  · split at asked
    · cases asked
    · rw [← Except.ok.inj asked]

theorem eq_of_streamRequest_eq (asked : streamRequest settings job = .ok request)
    (askedToo : streamRequest settings other = .ok request) : job = other := by
  have same := (address_of_streamRequest asked).symm.trans (address_of_streamRequest askedToo)
  have paths := (String.append_right_inj _).mp same
  exact (String.append_right_inj _).mp ((String.append_left_inj _).mp paths)

end Client

end BuildWatch
