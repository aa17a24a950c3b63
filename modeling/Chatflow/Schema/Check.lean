import Chatflow.Time.Duration
import Chatflow.Value.Basic

/-! The outcome of checking a document against a schema. Checks of the fields of one document are
combined so that the problems of all fields are reported, in the order of the fields. -/

namespace Chatflow.Schema

/-- A step from a document to a part of it. -/
inductive PathStep where
  | field (name : String)
  | index (n : Int)
deriving Repr, DecidableEq

/-- What can be wrong with a value. -/
inductive Problem where
  | missing
  | notText
  /-- A text that holds halves of characters. -/
  | notUnicode
  | textTooShort (limit : Nat)
  | textTooLong (limit : Nat)
  | notWhole
  | wholeUnreadable
  | wholeTooLong
  | fractionalPart
  | notFinite
  | below (limit : Int)
  | above (limit : Int)
  | notNumber
  | numberUnreadable
  | notPositive
  | notFlag
  | flagUnreadable
  | notList
  | notTable
  | notChoice (choices : List String)
  | notMember (choices : List String)
  | notRecord (record : String)
  | notTagged
  | tagMissing (tagField : String)
  | tagUnknown (tagField tag : String) (tags : List String)
  | notInstant
  | badInstant (reason : String)
  | noDate (reason : String)
  | extraField
  | refused (reason : String)
  | badJson
deriving Repr, DecidableEq

/-- Quoted choices: commas, and a word before the last one. -/
def orList : List String → String
  | [] => ""
  | [a] => s!"'{a}'"
  | [a, b] => s!"'{a}' or '{b}'"
  | a :: rest => s!"'{a}', " ++ orList rest

def commaList (choices : List String) : String := ", ".intercalate (choices.map fun c => s!"'{c}'")

namespace Problem

/-- The code by which programs tell problems apart. -/
def code : Problem → String
  | .missing => "missing"
  | .notText => "string_type"
  | .notUnicode => "string_unicode"
  | .textTooShort _ => "string_too_short"
  | .textTooLong _ => "string_too_long"
  | .notWhole => "int_type"
  | .wholeUnreadable => "int_parsing"
  | .wholeTooLong => "int_parsing_size"
  | .fractionalPart => "int_from_float"
  | .notFinite => "finite_number"
  | .below _ => "greater_than_equal"
  | .above _ => "less_than_equal"
  | .notNumber => "float_type"
  | .numberUnreadable => "float_parsing"
  | .notPositive => "greater_than"
  | .notFlag => "bool_type"
  | .flagUnreadable => "bool_parsing"
  | .notList => "list_type"
  | .notTable => "dict_type"
  | .notChoice _ => "literal_error"
  | .notMember _ => "enum"
  | .notRecord _ => "model_type"
  | .notTagged => "model_attributes_type"
  | .tagMissing _ => "union_tag_not_found"
  | .tagUnknown .. => "union_tag_invalid"
  | .notInstant => "datetime_type"
  | .badInstant _ => "datetime_parsing"
  | .noDate _ => "datetime_from_date_parsing"
  | .extraField => "extra_forbidden"
  | .refused _ => "value_error"
  | .badJson => "json_invalid"

def message : Problem → String
  | .missing => "Field required"
  | .notText => "Input should be a valid string"
  | .notUnicode => "Input should be a valid string, unable to parse raw data as a unicode string"
  | .textTooShort n => s!"String should have at least {n} character" ++ if n = 1 then "" else "s"
  | .textTooLong n => s!"String should have at most {n} character" ++ if n = 1 then "" else "s"
  | .notWhole => "Input should be a valid integer"
  | .wholeUnreadable => "Input should be a valid integer, unable to parse string as an integer"
  | .wholeTooLong => "Unable to parse input string as an integer, exceeded maximum size"
  | .fractionalPart => "Input should be a valid integer, got a number with a fractional part"
  | .notFinite => "Input should be a finite number"
  | .below n => s!"Input should be greater than or equal to {n}"
  | .above n => s!"Input should be less than or equal to {n}"
  | .notNumber => "Input should be a valid number"
  | .numberUnreadable => "Input should be a valid number, unable to parse string as a number"
  | .notPositive => "Input should be greater than 0"
  | .notFlag => "Input should be a valid boolean"
  | .flagUnreadable => "Input should be a valid boolean, unable to interpret input"
  | .notList => "Input should be a valid list"
  | .notTable => "Input should be a valid dictionary"
  | .notChoice choices | .notMember choices => "Input should be " ++ orList choices
  | .notRecord record => s!"Input should be a valid dictionary or instance of {record}"
  | .notTagged => "Input should be a valid dictionary or object to extract fields from"
  | .tagMissing field => s!"Unable to extract tag using discriminator '{field}'"
  | .tagUnknown field tag tags =>
    s!"Input tag '{tag}' found using '{field}' does not match any of the expected tags: " ++ commaList tags
  | .notInstant => "Input should be a valid datetime"
  | .badInstant reason => "Input should be a valid datetime, " ++ reason
  | .noDate reason => "Input should be a valid datetime or date, " ++ reason
  | .extraField => "Extra inputs are not permitted"
  | .refused reason => "Value error, " ++ reason
  | .badJson => "JSON decode error"

end Problem

/-- A problem and the place where it was found. -/
structure Issue where
  path : List PathStep
  problem : Problem
deriving Repr, DecidableEq

def PathStep.toValue : PathStep → Value
  | .field name => .str name
  | .index n => .int n

def Issue.toValue (i : Issue) : Value :=
  .obj [("loc", .list (i.path.map PathStep.toValue)), ("type", .str i.problem.code),
    ("msg", .str i.problem.message)]

/-- Why a check stops before it has seen everything. -/
inductive Halt where
  /-- A value has no members where they are asked for. -/
  | noMembers (v : Value)
  /-- The present time, which is to be filled in, is one that calendars do not know. -/
  | noPresent (error : SpanError)
deriving Repr

/-- The outcome of a check. -/
inductive Check (α : Type) where
  | ok (value : α)
  | failed (issues : List Issue)
  | broken (halt : Halt)
deriving Repr

namespace Check

/-- Applies a checked function to a checked argument. The issues of both are kept; a broken part ends
the check, unless the function is broken already. -/
def seq {α β : Type} : Check (α → β) → Check α → Check β
  | .ok f, .ok a => .ok (f a)
  | .ok _, .failed issues => .failed issues
  | .failed issues, .ok _ => .failed issues
  | .failed issues, .failed more => .failed (issues ++ more)
  | .broken halt, _ => .broken halt
  | _, .broken halt => .broken halt

instance : Applicative Check where
  pure := .ok
  seq f a := seq f (a ())

/-- Goes on with the value of a check that found nothing wrong. -/
def andThen {α β : Type} (check : Check α) (next : α → Check β) : Check β :=
  match check with
  | .ok a => next a
  | .failed issues => .failed issues
  | .broken halt => .broken halt

def problem {α : Type} (p : Problem) : Check α := .failed [⟨[], p⟩]

/-- Places the issues of a part within the whole. -/
def at' {α : Type} (step : PathStep) : Check α → Check α
  | .failed issues => .failed (issues.map fun issue => { issue with path := step :: issue.path })
  | check => check

def toOption {α : Type} : Check α → Option α
  | .ok a => some a
  | _ => none

end Check

end Chatflow.Schema
