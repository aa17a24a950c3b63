import Chatflow.Schema.Field
import Chatflow.Time.Duration
import Chatflow.Time.ZoneName
import Chatflow.Value.Display
import Chatflow.Value.Reader
import Chatflow.Value.Writable

/-! The ways in which an operation can fail as a whole. -/

namespace Chatflow

inductive Fault where
  /-- A value cannot be walked through or converted at all. -/
  | wrongType
  /-- A value of a document has no members where they are asked for. -/
  | noMembers (v : Value)
  /-- A value that is no table was asked for a field. -/
  | noFields
  /-- A text is no whole numeral. -/
  | badNumeral (text : String)
  | numeralTooLong (digits : Nat)
  /-- An instant cannot be moved, or a number has no whole part. -/
  | span (error : SpanError)
  /-- The weights of a rotator add up to no finite number. -/
  | infiniteWeights
  | flowInvalid (flowId : String) (messages : List String)
  | flowNotFound (flowId : String)
  | sessionNotFound (address flowId : String)
  /-- A new session changed before its first run was saved. -/
  | startConflict (sessionId : String)
  /-- A session changed on every attempt to save it. -/
  | continueConflict (sessionId : String) (attempts : Int)
  /-- No provider produced a reply. -/
  | noCompletion (sessionId : String)
  | circuitOpen (service : String)
  | noZone (error : ZoneError)
  | unknownStatus (name : Value)
  | unknownLevel (text : String)
  /-- Fields that a swap may not change. -/
  | fixedFields (names : List String)
  | badJson (document : String) (error : JsonError)
  | invalidDocument (issues : List Schema.Issue)
  | databaseDown
  | cacheDown
  /-- The connection to a service failed or took too long. -/
  | connectionLost (message : String)
  | retriesExhausted
  | malformedResponse
  | noEntry (key : Value)
  /-- Something was to be taken apart into two, and has another number of parts. -/
  | notPair (length : Nat)
  /-- A member of a list was to be made an entry of a table, and has not two parts. -/
  | notEntry (place length : Nat)
  | notInstant (text : String)
  /-- A text that has to be written as bytes holds halves of characters. -/
  | halves (text : String)
  | unwritableNumber
  /-- A failure of the outside world, of a given kind. -/
  | outside (kind message : String)
deriving Repr

namespace Fault

/-- A text in quotes, cut at two hundred characters. -/
def shortQuote (s : String) : String := Text.clip 200 (Text.quoted s)

/-- What is said about halves of characters in a text that has to be written. -/
def halvesText (s : String) : String :=
  match Text.firstHalves? s with
  | some (place, [code]) =>
    let escaped := String.ofList (Text.escape code)
    s!"'utf-8' codec can't encode character '{escaped}' in position {place}: surrogates not allowed"
  | some (place, run) =>
    let last := place + run.length - 1
    s!"'utf-8' codec can't encode characters in position {place}-{last}: surrogates not allowed"
  | none => ""

/-- The sentence that tells what happened; there is none where only the type of a value is at fault. -/
def message? : Fault → Option String
  | wrongType | noMembers _ | noFields | invalidDocument _ => none
  | badNumeral text => some ("invalid literal for int() with base 10: " ++ shortQuote text)
  | numeralTooLong digits => some (digitLimitText digits)
  | span error => some error.message
  | infiniteWeights => some "Total of weights must be finite"
  | flowInvalid flowId messages => some (s!"Flow '{flowId}' is invalid: " ++ "; ".intercalate messages)
  | flowNotFound flowId => some s!"flow {flowId} not found"
  | sessionNotFound address flowId => some s!"no active session for {address} in flow {flowId}"
  | startConflict sessionId => some s!"session {sessionId} changed before its first run was saved"
  | continueConflict sessionId attempts => some s!"session {sessionId} changed {attempts} times in a row"
  | noCompletion sessionId => some s!"No AI provider produced a reply for session {sessionId}"
  | circuitOpen service => some s!"Circuit breaker is OPEN for {service}"
  | noZone error => some error.message
  | unknownStatus name => some (name.notationText ++ " is not a valid SessionStatus")
  | unknownLevel text => some ("Unknown level: " ++ Text.quoted text)
  | fixedFields names =>
    some ("Unsupported session fields for compare_and_swap: [" ++
      ", ".intercalate (names.map Text.quoted) ++ "]")
  | badJson document error => some (error.message document)
  | databaseDown => some "mongo down"
  | cacheDown => some "redis down"
  | connectionLost message => some message
  | retriesExhausted => some "RetryError"
  | malformedResponse => some "malformed response"
  | noEntry key => some key.notationText
  | notPair length =>
    some (if length < 2 then s!"not enough values to unpack (expected 2, got {length})"
      else "too many values to unpack (expected 2)")
  | notEntry place length =>
    some s!"dictionary update sequence element #{place} has length {length}; 2 is required"
  | notInstant text => some ("Invalid isoformat string: " ++ Text.quoted text)
  | halves text => some (halvesText text)
  | unwritableNumber => some digitLimitReached
  | outside _ message => some message

/-- A sentence in any case, for those who are told about a fault rather than answered with it. -/
def message : Fault → String
  | noMembers v => s!"'{v.kindName}' object is not iterable"
  | f => f.message?.getD ""

/-- What a check that stops short fails with. -/
def ofHalt : Schema.Halt → Fault
  | .noMembers v => noMembers v
  | .noPresent error => span error

def ofNumeral (text : String) : Decimal.NumeralError → Fault
  | .malformed => badNumeral text
  | .tooLong digits => numeralTooLong digits

end Fault

/-- Fields can be told in documents unless names inside their values hold halves of characters. -/
def Fields.checkTold (fields : Fields) : Except Fault Unit :=
  match fields.findSome? fun field => field.2.halfName? with
  | some name => .error (.halves name)
  | none => .ok ()

def Schema.Check.toExcept {α : Type} : Schema.Check α → Except Fault α
  | .ok a => .ok a
  | .failed issues => .error (.invalidDocument issues)
  | .broken halt => .error (.ofHalt halt)

end Chatflow
