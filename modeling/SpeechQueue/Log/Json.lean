import SpeechQueue.Json.Text
import SpeechQueue.Log.Record

/-! # Records as JSON

The form of a record for other programs to read. Numbers keep their type; those that are not finite
have no form in JSON and become null. -/

namespace SpeechQueue

/-- The value of a field in JSON, where numbers are widened to 64 bits. -/
def FieldValue.json : FieldValue → String
  | .shown text => JsonText.write text
  | .label text => JsonText.write text
  | .number value =>
    if value.isFinite then String.ofList ((value.convert : Double).write .wide) else "null"
  | .count n => toString n

/-- The record as one JSON object, without the time. -/
def Record.json (r : Record) : String :=
  JsonText.writeObject
    [("level", JsonText.write r.level.name),
     ("fields", JsonText.writeObject
       (("message", JsonText.write r.message) ::
         r.fields.map fun (name, value) => (name, value.json))),
     ("target", JsonText.write r.target)]

end SpeechQueue
