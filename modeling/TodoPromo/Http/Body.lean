import TodoPromo.Http.Message
import TodoPromo.Json.Typed

/-! # JSON bodies

A body is read as JSON if the request calls it that and it is not too long. Only the first value in
it counts. What the request calls its body is a media type: a type and a subtype, the subtype's suffix,
and parameters, which are checked for their form only. -/

namespace TodoPromo.Http

/-! ### Media types -/

/-- A media type in small letters. The suffix is what follows the last plus sign of the subtype. -/
structure MediaType where
  main : String
  subtype : String
  suffix : Option String
  deriving DecidableEq, Repr

namespace MediaType

/-- The characters of names and of unquoted values. -/
def isToken (c : Char) : Bool :=
  c.isAlphanum || "!#$%&'*+-.^_`|~".toList.contains c

/-- The characters that may stand between quotes. -/
def isQuotable (c : Char) : Bool := 31 < c.toNat && c.toNat != 127

/-- The rest after a quoted value, whose opening quote is gone. The first character counts as part
of the value even if it is a quote. -/
def afterQuoted : List Char → Option (List Char)
  | [] => none
  | c :: cs =>
    if !isQuotable c then none
    else if (cs.takeWhile (· != '"')).all isQuotable then
      match cs.dropWhile (· != '"') with
      | _ :: rest => some rest
      | [] => none
    else none

/-- Whether a text is a list of parameters with semicolons between them, spaces in front of each
allowed. As every round takes a character, as many rounds as there are characters suffice. -/
def areParameters : Nat → List Char → Bool
  | 0, cs => cs.isEmpty
  | fuel + 1, cs =>
    match cs.dropWhile (· == ' ') with
    | [] => true
    | c :: cs =>
      if !isToken c then false
      else match (c :: cs).dropWhile isToken with
        | '=' :: '"' :: value =>
          match (afterQuoted value).map (·.dropWhile (· == ' ')) with
          | some [] => true
          | some (';' :: rest) => areParameters fuel rest
          | _ => false
        | '=' :: value =>
          match value.dropWhile isToken with
          | [] => true
          | ';' :: rest => rest.length + 1 < value.length && areParameters fuel rest
          | _ => false
        | _ => false

/-- Splits a subtype at its last plus sign, unless that is its first character. -/
def splitSuffix (cs : List Char) : List Char × Option (List Char) :=
  let suffix := (cs.drop 1).reverse.takeWhile (· != '+')
  if suffix.length = (cs.drop 1).length then (cs, none)
  else (cs.take (cs.length - suffix.length - 1), some suffix.reverse)

def small (cs : List Char) : String := String.ofList (cs.map Char.toLower)

/-- The media type that a content type names. -/
def parse? (s : String) : Option MediaType :=
  let cs := s.toList
  let main := cs.takeWhile isToken
  match main, cs.dropWhile isToken with
  | _ :: _, '/' :: rest =>
    let sub := rest.takeWhile isToken
    let parts := splitSuffix sub
    let type : MediaType := ⟨small main, small parts.1, parts.2.map small⟩
    match rest.dropWhile isToken with
    | [] => some type
    | ';' :: parameters =>
      if !sub.isEmpty && areParameters (parameters.length + 1) parameters then some type else none
    | _ => none
  | _, _ => none

/-- JSON itself, or an application type with the suffix of JSON. -/
def isJson (t : MediaType) : Bool :=
  t.main = "application" && (t.subtype = "json" || t.suffix = some "json")

end MediaType

/-! ### Bodies -/

/-- Why a body is refused. -/
inductive BodyError where
  /-- The content type is missing, or not a JSON type. -/
  | notJson
  | tooLong
  | unreadable (e : Json.Failure)
  deriving DecidableEq, Repr

def BodyError.message : BodyError → String
  | notJson => "Expected request with `Content-Type: application/json`"
  | tooLong => "Failed to buffer the request body: length limit exceeded"
  | unreadable e =>
    (if e.cause.isData then "Failed to deserialize the JSON body into the target type: "
      else "Failed to parse the request body as JSON: ") ++ e.located

/-- The length of the longest body that is read: two mebibytes. -/
def bodyLimit : Nat := 2097152

/-- Visible characters of ASCII, spaces and tabs: other header values have no reading. -/
def isHeaderText (c : Char) : Bool := c == '\t' || (32 ≤ c.toNat && c.toNat < 127)

/-- Whether the request says that its body is JSON. -/
def claimsJson (r : Request) : Bool :=
  match r.header? "content-type" with
  | some value =>
    value.toList.all isHeaderText && ((MediaType.parse? value).any MediaType.isJson)
  | none => false

/-- The value that the body of a request begins with. -/
def readBody {α : Type} [Json.Coded α] (r : Request) : Except BodyError α :=
  if !claimsJson r then .error .notJson
  else if bodyLimit < r.body.length then .error .tooLong
  else match Json.decodeFront r.body with
    | .ok a => .ok a
    | .error e => .error (.unreadable e)

end TodoPromo.Http
