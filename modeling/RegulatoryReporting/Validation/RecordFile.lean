import RegulatoryReporting.Wire.Decoder

/-!
# Record Files

A record file holds one record, or an array of records. A record is a JSON object.
-/

namespace RegulatoryReporting

/-- Why a text is no record file. -/
inductive RecordFileError
  /-- The text is not JSON. -/
  | undecodable (cause : DecodeError)
  /-- An item of the array is no object. -/
  | notObject (index : Nat)
  /-- The value is neither an object nor an array. -/
  | notRecords
  deriving DecidableEq, Repr

/-- The message for well-formed JSON that is no record file. -/
def RecordFileError.message? : RecordFileError → Option String
  | undecodable cause => cause.message?
  | notObject index => some s!"record #{index} is not a JSON object"
  | notRecords => some "expected a JSON object or an array of objects"

/-- The records of a value. -/
def recordsOf (v : Json) : Except RecordFileError (List Json) :=
  match v with
  | .arr items =>
    match items.findIdx? fun item => !item.isObject with
    | some index => .error (.notObject index)
    | none => .ok items
  | .obj _ => .ok [v]
  | _ => .error .notRecords

/-- The records of a text. -/
def readRecords (text : String) : Except RecordFileError (List Json) :=
  match Json.ofText? text with
  | .error e => .error (.undecodable e)
  | .ok v => recordsOf v

end RegulatoryReporting
