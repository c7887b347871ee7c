import BuildWatch.Instant.Printer
import BuildWatch.Instant.Reader
import BuildWatch.Json.Record
import BuildWatch.Records

namespace BuildWatch.Wire

open Json

def status : Codec Status :=
  Codec.text.map Status.ofWire Status.wire

def instant : Codec Instant where
  write value := [.text value.timestamp]
  read
    | .text text :: rest =>
      match Instant.parse? text with
      | some value => .ok (value, rest)
      | none => .error (.mismatch .badTimestamp)
    | tokens => .error (unexpected "an RFC 3339 formatted date and time string" tokens)

def signed : Codec Int64 :=
  (Codec.whole "i64" Int64.minValue.toInt Int64.maxValue.toInt).map Int64.ofInt Int64.toInt

def summaryRecord : Record Summary where
  name := "BuildLogSummary"
  fields := [
    .required "job_id" Codec.text,
    .defaulted "challenge_id" Codec.text "",
    .defaulted "status" status .unspecified,
    .defaulted "created_at" instant.optional none,
    .defaulted "completed_at" instant.optional none]
  ofValues := fun (job, challenge, status, created, completed, ()) =>
    { job, challenge, status, created, completed }
  toValues value :=
    (value.job, value.challenge, value.status, value.created, value.completed, ())

def challengeRecord : Record Challenge where
  name := "Challenge"
  fields := [
    .required "challenge_id" Codec.text,
    .required "name" Codec.text,
    .defaulted "genre" Codec.text "",
    .defaulted "points" signed 0,
    .defaulted "requires_instance" Codec.flag false]
  ofValues := fun (id, name, genre, points, requiresInstance, ()) =>
    { id, name, genre, points, requiresInstance }
  toValues value :=
    (value.id, value.name, value.genre, value.points, value.requiresInstance, ())

def snapshotRecord : Record Snapshot where
  name := "LogSnapshot"
  fields := [.required "content" Codec.text, .required "status" status]
  ofValues := fun (content, status, ()) => { content, status }
  toValues value := (value.content, value.status, ())

def chunkRecord : Record Chunk where
  name := "LogChunk"
  fields := [
    .defaulted "line" Codec.text "",
    .required "status" status,
    .defaulted "is_complete" Codec.flag false]
  ofValues := fun (line, status, isComplete, ()) => { line, status, isComplete }
  toValues value := (value.line, value.status, value.isComplete, ())

def summary : Codec Summary := summaryRecord.codec

def challenge : Codec Challenge := challengeRecord.codec

def snapshot : Codec Snapshot := snapshotRecord.codec

def chunk : Codec Chunk := chunkRecord.codec

end BuildWatch.Wire
