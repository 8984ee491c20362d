import TodoPromo.Decimal.Shortest
import TodoPromo.Text.Quoted
import TodoPromo.Time.Notation

/-! # Why JSON text is refused

Reading stops at the first thing that is wrong, going from left to right. A cause concerns either
the form of the text or the kind of value that it spells; the two are told apart because clients
are told about them in different words. -/

namespace TodoPromo.Json

/-- A number as JSON spells it: an integer of 64 bits, or a floating-point number. -/
inductive Number where
  | integer (n : Int)
  | float (negative : Bool) (size : Binary.Scaled)
  deriving DecidableEq, Repr

/-- A value that was found where another kind was expected. -/
inductive Found where
  | number (n : Number)
  | boolean (b : Bool)
  | text (s : String)
  | null
  | sequence
  | map
  deriving DecidableEq, Repr

/-- Floating-point numbers in messages are positional from 10⁻⁵ up to below 10¹⁶. -/
def messageLayout : Decimal.Layout := ⟨-5, 15⟩

def Found.describe : Found → String
  | number (.integer n) => s!"integer `{n}`"
  | number (.float negative size) =>
    s!"floating point `{String.ofList (messageLayout.writeScaled .double negative size)}`"
  | boolean b => s!"boolean `{b}`"
  | text s => "string " ++ Text.quote s
  | null => "null"
  | sequence => "sequence"
  | map => "map"

/-- What is wrong with a JSON text. -/
inductive Cause where
  | endInValue
  | endInString
  | endInList
  | endInObject
  | expectedValue
  | expectedWord
  | expectedColon
  | expectedQuote
  | expectedCommaOrListEnd
  | expectedCommaOrObjectEnd
  | expectedNumericKey
  | keyNotString
  | trailingComma
  | trailingCharacters
  | invalidNumber
  | numberOutOfRange
  | invalidEscape
  | loneSurrogate
  | brokenSurrogatePair
  | controlCharacter
  | notUnicode
  | wrongKind (found : Found) (expected : String)
  | outOfRange (found : Found) (expected : String)
  | tooShort (length : Nat) (expected : String)
  | missingField (name : String)
  | duplicateField (name : String)
  | badInstant (e : Time.ReadError)
  deriving DecidableEq, Repr

namespace Cause

/-- The text is well-formed as far as it was read, but spells the wrong kind of value. -/
def isData : Cause → Bool
  | wrongKind .. | outOfRange .. | tooShort .. | missingField _ | duplicateField _
  | badInstant _ => true
  | _ => false

def message : Cause → String
  | endInValue => "EOF while parsing a value"
  | endInString => "EOF while parsing a string"
  | endInList => "EOF while parsing a list"
  | endInObject => "EOF while parsing an object"
  | expectedValue => "expected value"
  | expectedWord => "expected ident"
  | expectedColon => "expected `:`"
  | expectedQuote => "expected `\"`"
  | expectedCommaOrListEnd => "expected `,` or `]`"
  | expectedCommaOrObjectEnd => "expected `,` or `\x7d`"
  | expectedNumericKey => "invalid value: expected key to be a number in quotes"
  | keyNotString => "key must be a string"
  | trailingComma => "trailing comma"
  | trailingCharacters => "trailing characters"
  | invalidNumber => "invalid number"
  | numberOutOfRange => "number out of range"
  | invalidEscape => "invalid escape"
  | loneSurrogate => "lone leading surrogate in hex escape"
  | brokenSurrogatePair => "unexpected end of hex escape"
  | controlCharacter => "control character (\\u0000-\\u001F) found while parsing a string"
  | notUnicode => "invalid unicode code point"
  | wrongKind found expected => s!"invalid type: {found.describe}, expected {expected}"
  | outOfRange found expected => s!"invalid value: {found.describe}, expected {expected}"
  | tooShort n expected => s!"invalid length {n}, expected {expected}"
  | missingField name => s!"missing field `{name}`"
  | duplicateField name => s!"duplicate field `{name}`"
  | badInstant e => e.message

end Cause

/-- Where in the outermost value reading failed. -/
inductive Place where
  | key (name : String)
  | index (i : Nat)
  deriving DecidableEq, Repr

def Place.text : Place → String
  | key name => name
  | index i => s!"[{i}]"

/-- A cause, and the member of the outermost value that it lies in, if it lies in one. -/
structure Failure where
  place : Option Place
  cause : Cause
  deriving DecidableEq, Repr

def Failure.message (e : Failure) : String := e.cause.message

/-- The message with the place in front. A place that is shown as a single point is the whole. -/
def Failure.located (e : Failure) : String :=
  match e.place with
  | some p => if p.text = "." then e.message else p.text ++ ": " ++ e.message
  | none => e.message

end TodoPromo.Json
