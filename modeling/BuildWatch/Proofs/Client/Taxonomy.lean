import BuildWatch.Client.Exchange
import BuildWatch.Proofs.Wire.Messages

namespace BuildWatch

open Text

/-! ## Replies -/

namespace Client

/-- A request for something: where it is asked for, the replies to expect with the message and the
payload in them, and the name of what is missing if there is none. -/
structure Inquiry (α β : Type) where
  path : String
  reply : Json.Codec α
  message : α → String
  payload? : α → Option β
  subject : String

namespace Inquiry

variable {α β : Type} {inquiry : Inquiry α β} {reply : α} {response : Response}
  {outcome : Except Fault β}

def value (inquiry : Inquiry α β) (reply : α) : Except Fault β := do
  Fault.check (inquiry.message reply)
  match inquiry.payload? reply with
  | some payload => .ok payload
  | none => .error (.notFound inquiry.subject)

/-- What a reply comes to. A message comes before the payload. -/
inductive Gives (inquiry : Inquiry α β) (reply : α) : Except Fault β → Prop
  | fault {fault : Fault} (reports : Fault.Reports (inquiry.message reply) (some fault)) :
      Gives inquiry reply (.error fault)
  | nothing (blank : Fault.IsBlank (inquiry.message reply))
      (absent : inquiry.payload? reply = none) :
      Gives inquiry reply (.error (.notFound inquiry.subject))
  | payload {payload : β} (blank : Fault.IsBlank (inquiry.message reply))
      (present : inquiry.payload? reply = some payload) : Gives inquiry reply (.ok payload)

theorem gives_value (inquiry : Inquiry α β) (reply : α) :
    inquiry.Gives reply (inquiry.value reply) := by
  by_cases blank : Fault.IsBlank (inquiry.message reply)
  · rw [value, Fault.check_of_isBlank blank]
    cases held : inquiry.payload? reply with
    | some payload => exact .payload blank held
    | none => exact .nothing blank held
  · obtain ⟨fault, reports⟩ := Fault.exists_reports blank
    rw [value, Fault.check_of_reports reports]
    exact .fault reports

theorem value_of_gives (gives : inquiry.Gives reply outcome) : inquiry.value reply = outcome := by
  cases gives with
  | fault reports =>
    rw [value, Fault.check_of_reports reports]
    rfl
  | nothing blank absent =>
    rw [value, Fault.check_of_isBlank blank, absent]
    rfl
  | payload blank present =>
    rw [value, Fault.check_of_isBlank blank, present]
    rfl

/-! ## Responses -/

/-- What a response comes to. A code that is not a success decides alone. -/
inductive Means (inquiry : Inquiry α β) (response : Response) : Except Fault β → Prop
  | unknown (code : response.status = 404) :
      Means inquiry response (.error (.notFound inquiry.path))
  | failed (code : response.status < 200 ∨ 300 ≤ response.status) (known : response.status ≠ 404) :
      Means inquiry response (.error (.remote ("HTTP " ++ toString response.status ++ ": " ++
        trimmed (lossy response.body))))
  | garbled {problem : Json.DecodeError} (code : 200 ≤ response.status ∧ response.status < 300)
      (undecodable : inquiry.reply.decodeBytes response.body = .error problem) :
      Means inquiry response (.error (.protocol problem.message))
  | reply {reply : α} {outcome : Except Fault β}
      (code : 200 ≤ response.status ∧ response.status < 300)
      (decoded : inquiry.reply.decodeBytes response.body = .ok reply)
      (gives : inquiry.Gives reply outcome) : Means inquiry response outcome

def answer (inquiry : Inquiry α β) (response : Response) : Except Fault β :=
  (response.result inquiry.path inquiry.reply inquiry.value).mapError RequestError.fault

theorem isSuccess_iff : response.isSuccess ↔ 200 ≤ response.status ∧ response.status < 300 := by
  simp [Response.isSuccess]

theorem answer_of_failed (failed : ¬ response.isSuccess) :
    inquiry.answer response = .error (response.statusFault inquiry.path) := by
  rw [answer, Response.result, if_neg failed]
  rfl

theorem answer_of_garbled {problem : Json.DecodeError} (success : response.isSuccess)
    (undecodable : inquiry.reply.decodeBytes response.body = .error problem) :
    inquiry.answer response = .error (.protocol problem.message) := by
  rw [answer, Response.result, if_pos success, undecodable]
  rfl

theorem answer_of_decoded (success : response.isSuccess)
    (decoded : inquiry.reply.decodeBytes response.body = .ok reply) :
    inquiry.answer response = inquiry.value reply := by
  rw [answer, Response.result, if_pos success, decoded]
  dsimp only
  cases inquiry.value reply <;> rfl

theorem means_answer (inquiry : Inquiry α β) (response : Response) :
    inquiry.Means response (inquiry.answer response) := by
  by_cases success : response.isSuccess
  · have code := isSuccess_iff.mp success
    cases decoded : inquiry.reply.decodeBytes response.body with
    | error problem =>
      rw [answer_of_garbled success decoded]
      exact .garbled code decoded
    | ok reply =>
      rw [answer_of_decoded success decoded]
      exact .reply code decoded (gives_value inquiry reply)
  · rw [answer_of_failed success, Response.statusFault]
    split
    · rename_i code
      exact .unknown code
    · rename_i known
      refine .failed ?_ known
      rw [isSuccess_iff] at success
      omega

theorem answer_of_means (means : inquiry.Means response outcome) :
    inquiry.answer response = outcome := by
  cases means with
  | unknown code =>
    rw [answer_of_failed (by simp [isSuccess_iff, code]), Response.statusFault, if_pos code]
  | failed code known =>
    rw [answer_of_failed (by rw [isSuccess_iff]; omega), Response.statusFault, if_neg known]
  | garbled code undecodable => exact answer_of_garbled (isSuccess_iff.mpr code) undecodable
  | reply code decoded gives =>
    rw [answer_of_decoded (isSuccess_iff.mpr code) decoded, value_of_gives gives]

theorem answer_eq_iff : inquiry.answer response = outcome ↔ inquiry.Means response outcome :=
  ⟨fun same => same ▸ means_answer inquiry response, answer_of_means⟩

end Inquiry

/-! ## The three requests -/

def challengeInquiry (id : String) : Inquiry Wire.ChallengeReply Challenge where
  path := Wire.challengePath id
  reply := Wire.challengeReply
  message := Wire.ChallengeReply.errorMessage
  payload? := Wire.ChallengeReply.challenge
  subject := id

def listInquiry (challenge : String) : Inquiry Wire.ListReply (List Summary) where
  path := Wire.listPath challenge
  reply := Wire.listReply
  message := Wire.ListReply.errorMessage
  payload? reply := some reply.logs
  subject := challenge

def snapshotInquiry (job : String) : Inquiry Wire.LogReply Snapshot where
  path := Wire.logPath job
  reply := Wire.logReply
  message := Wire.LogReply.errorMessage
  payload? reply := some { content := reply.content, status := reply.status }
  subject := job

def Query.outcome {α : Type} (query : Query α) (response : Response) : Except Fault α :=
  (query.result response).mapError RequestError.fault

theorem outcome_challengeQuery (id : String) (response : Response) :
    (challengeQuery id).outcome response = (challengeInquiry id).answer response := by
  have same : (challengeInquiry id).value = fun reply => reply.result id := by
    funext ⟨found, message⟩
    cases found <;> rfl
  rw [Inquiry.answer, same]
  rfl

theorem outcome_listQuery (challenge : String) (response : Response) :
    (listQuery challenge).outcome response = (listInquiry challenge).answer response := by
  have same : (listInquiry challenge).value = Wire.ListReply.result := rfl
  rw [Inquiry.answer, same]
  rfl

theorem outcome_snapshotQuery (job : String) (response : Response) :
    (snapshotQuery job).outcome response = (snapshotInquiry job).answer response := by
  have same : (snapshotInquiry job).value = Wire.LogReply.result := rfl
  rw [Inquiry.answer, same]
  rfl

/-- What any response to one of the three requests comes to, and nothing else. A frame of the
stream with a message that is not blank is the fault which the message reports, whatever else the
frame holds. -/
theorem answers_are_classified :
    (∀ id response outcome, (challengeQuery id).outcome response = outcome ↔
      (challengeInquiry id).Means response outcome) ∧
    (∀ challenge response outcome, (listQuery challenge).outcome response = outcome ↔
      (listInquiry challenge).Means response outcome) ∧
    (∀ job response outcome, (snapshotQuery job).outcome response = outcome ↔
      (snapshotInquiry job).Means response outcome) ∧
    ∀ text frame, Wire.isStructured text → Wire.frame.decode text = .ok frame →
      ¬ Fault.IsBlank frame.errorMessage →
        ∃ fault, Fault.Reports frame.errorMessage (some fault) ∧
          Wire.decodeFrame text = .error (.refused fault) := by
  refine ⟨fun id response outcome => ?_, fun challenge response outcome => ?_,
    fun job response outcome => ?_, fun text frame structured decoded worded => ?_⟩
  · rw [outcome_challengeQuery, Inquiry.answer_eq_iff]
  · rw [outcome_listQuery, Inquiry.answer_eq_iff]
  · rw [outcome_snapshotQuery, Inquiry.answer_eq_iff]
  · obtain ⟨fault, reports⟩ := Fault.exists_reports worded
    refine ⟨fault, reports, ?_⟩
    rw [Wire.decodeFrame, if_pos structured, decoded]
    simp only [Wire.Frame.result, Fault.check_of_reports reports]
    rfl

theorem missing_job_is_classified :
    let missing := "\x7b\"log_content\":\"one\",\"error_message\":\" Job NOT fOuNd\\n\"\x7d"
    let frame := "\x7b\"line\":\"one\",\"error_message\":\" Job NOT fOuNd\\n\"\x7d"
    (snapshotQuery "j1").outcome { status := 200, body := missing.toUTF8 } =
        .error (.notFound "Job NOT fOuNd") ∧
      (snapshotQuery "j1").outcome { status := 404, body := missing.toUTF8 } =
        .error (.notFound "/api/v1/admin/build-logs/j1") ∧
      Wire.decodeFrame frame = .error (.refused (.notFound "Job NOT fOuNd")) := by
  intro missing frame
  obtain ⟨-, -, snapshots, frames⟩ := answers_are_classified
  let reply : Wire.LogReply := ⟨"one", .unspecified, " Job NOT fOuNd\n"⟩
  have decoded : Wire.logReply.decode missing = .ok reply := by decide +kernel
  have decodedFrame :
      Wire.frame.decode frame = .ok ⟨"one", .unspecified, false, reply.errorMessage⟩ := by
    decide +kernel
  have message : Fault.ofMessage? reply.errorMessage = some (.notFound "Job NOT fOuNd") := by
    decide +kernel
  have reports := Fault.ofMessage?_eq_iff.mp message
  refine ⟨(snapshots "j1" _ _).mpr ?_, (snapshots "j1" _ _).mpr (.unknown rfl), ?_⟩
  · exact .reply (by decide) ((Json.Codec.decodeBytes_toUTF8 ..).trans decoded) (.fault reports)
  · have worded : ¬ Fault.IsBlank reply.errorMessage := by
      rw [Fault.isBlank_iff]
      decide +kernel
    obtain ⟨fault, reportsFault, refused⟩ := frames frame _ (by decide +kernel) decodedFrame worded
    have same : fault = .notFound "Job NOT fOuNd" := Option.some.inj (reportsFault.unique reports)
    rw [refused, same]

end Client

end BuildWatch
