import BuildWatch.Fault
import BuildWatch.Wire.Records

namespace BuildWatch.Wire

open Json

structure ChallengeReply where
  challenge : Option Challenge
  errorMessage : String
  deriving DecidableEq, Repr

structure ListReply where
  logs : List Summary
  errorMessage : String
  deriving DecidableEq, Repr

structure LogReply where
  content : String
  status : Status
  errorMessage : String
  deriving DecidableEq, Repr

/-! ## Codecs -/

def challengeReplyRecord : Record ChallengeReply where
  name := "GetChallengeResponse"
  fields := [
    .defaulted "challenge" challenge.optional none,
    .defaulted "error_message" Codec.text ""]
  ofValues := fun (challenge, errorMessage, ()) => { challenge, errorMessage }
  toValues value := (value.challenge, value.errorMessage, ())

def listReplyRecord : Record ListReply where
  name := "ListBuildLogsResponse"
  fields := [
    .defaulted "logs" summary.list [],
    .defaulted "error_message" Codec.text ""]
  ofValues := fun (logs, errorMessage, ()) => { logs, errorMessage }
  toValues value := (value.logs, value.errorMessage, ())

def logReplyRecord : Record LogReply where
  name := "GetBuildLogResponse"
  fields := [
    .defaulted "log_content" Codec.text "",
    .defaulted "status" status .unspecified,
    .defaulted "error_message" Codec.text ""]
  ofValues := fun (content, status, errorMessage, ()) => { content, status, errorMessage }
  toValues value := (value.content, value.status, value.errorMessage, ())

def challengeReply : Codec ChallengeReply := challengeReplyRecord.codec

def listReply : Codec ListReply := listReplyRecord.codec

def logReply : Codec LogReply := logReplyRecord.codec

/-! ## Results -/

def ChallengeReply.result (reply : ChallengeReply) (id : String) : Except Fault Challenge := do
  Fault.check reply.errorMessage
  match reply.challenge with
  | some challenge => .ok challenge
  | none => .error (.notFound id)

def ListReply.result (reply : ListReply) : Except Fault (List Summary) := do
  Fault.check reply.errorMessage
  .ok reply.logs

def LogReply.result (reply : LogReply) : Except Fault Snapshot := do
  Fault.check reply.errorMessage
  .ok { content := reply.content, status := reply.status }

end BuildWatch.Wire
