import SqlGateway.Text.Utf8

/-!
# Why a JSON text cannot be read

A reader stops with a cause in front of a rest of the text, or some bytes further. From the whole
text follow the line and the column, which counts bytes.
-/

namespace SqlGateway.Json

inductive ReadCause where
  | endInValue
  | endInList
  | endInObject
  | endInString
  | expectedColon
  | expectedListEnd
  | expectedObjectEnd
  | expectedIdentifier
  | expectedValue
  | invalidEscape
  | invalidNumber
  | numberOutOfRange
  | controlCharacter
  | keyNotText
  | loneSurrogate
  | trailingComma
  | trailingText
  | endOfEscape
  | tooDeep
deriving DecidableEq, Repr

def ReadCause.message : ReadCause → String
  | .endInValue => "EOF while parsing a value"
  | .endInList => "EOF while parsing a list"
  | .endInObject => "EOF while parsing an object"
  | .endInString => "EOF while parsing a string"
  | .expectedColon => "expected `:`"
  | .expectedListEnd => "expected `,` or `]`"
  | .expectedObjectEnd => "expected `,` or `\x7d`"
  | .expectedIdentifier => "expected ident"
  | .expectedValue => "expected value"
  | .invalidEscape => "invalid escape"
  | .invalidNumber => "invalid number"
  | .numberOutOfRange => "number out of range"
  | .controlCharacter =>
    "control character (\\u0000-\\u001F) found while parsing a string"
  | .keyNotText => "key must be a string"
  | .loneSurrogate => "lone leading surrogate in hex escape"
  | .trailingComma => "trailing comma"
  | .trailingText => "trailing characters"
  | .endOfEscape => "unexpected end of hex escape"
  | .tooDeep => "recursion limit exceeded"

/-- Where a reader stopped: in front of a rest of the text, and how many bytes of the rest still
belong to the place. -/
structure Stop where
  cause : ReadCause
  rest : List Char
  bytes : Nat
deriving DecidableEq, Repr

structure Position where
  line : Nat
  column : Nat
deriving DecidableEq, Repr

namespace Position

def advance (place : Position) (byte : UInt8) : Position :=
  if byte = 10 then ⟨place.line + 1, 0⟩ else ⟨place.line, place.column + 1⟩

def behind (bytes : List UInt8) : Position := bytes.foldl advance ⟨1, 0⟩

/-- The place in `text` at which `rest` begins, or some bytes further, if there are so many. -/
def ofRest (text rest : List Char) (bytes : Nat) : Position :=
  let before := Text.Utf8.encode (text.take (text.length - rest.length))
  behind (before ++ (Text.Utf8.encode rest).take bytes)

example : ofRest "a\né1".toList "é1".toList 1 = ⟨2, 1⟩ := by decide

def describe (place : Position) (message : String) : String :=
  message ++ " at line " ++ toString place.line ++ " column " ++ toString place.column

end Position

structure ReadError where
  cause : ReadCause
  position : Position
deriving DecidableEq, Repr

def Stop.toError (text : List Char) (stop : Stop) : ReadError :=
  ⟨stop.cause, .ofRest text stop.rest stop.bytes⟩

def ReadError.message (error : ReadError) : String :=
  error.position.describe error.cause.message

end SqlGateway.Json
