import Diorama.Json.Value
import Diorama.Json.Cursor

-- What can be wrong with a document: its text, or the shape of what it says.

namespace Diorama

inductive TextFault where
  | endInValue
  | endInList
  | endInObject
  | endInString
  | colonExpected
  | listCommaExpected
  | objectCommaExpected
  | wordExpected
  | valueExpected
  | nameExpected
  | trailingComma
  | trailingCharacters
  | invalidEscape
  | invalidNumber
  | numberOutOfRange
  | controlCharacter
  | loneSurrogate
  | cutSurrogate
  | tooDeep
deriving DecidableEq, Inhabited

def TextFault.message : TextFault → String
  | .endInValue => "EOF while parsing a value"
  | .endInList => "EOF while parsing a list"
  | .endInObject => "EOF while parsing an object"
  | .endInString => "EOF while parsing a string"
  | .colonExpected => "expected `:`"
  | .listCommaExpected => "expected `,` or `]`"
  | .objectCommaExpected => "expected `,` or `\x7d`"
  | .wordExpected => "expected ident"
  | .valueExpected => "expected value"
  | .nameExpected => "key must be a string"
  | .trailingComma => "trailing comma"
  | .trailingCharacters => "trailing characters"
  | .invalidEscape => "invalid escape"
  | .invalidNumber => "invalid number"
  | .numberOutOfRange => "number out of range"
  | .controlCharacter => "control character (\\u0000-\\u001F) found while parsing a string"
  | .loneSurrogate => "lone leading surrogate in hex escape"
  | .cutSurrogate => "unexpected end of hex escape"
  | .tooDeep => "recursion limit exceeded"

-- What stood where something else was expected.
inductive Found where
  | null
  | bool (value : Bool)
  | number (value : Json.Number)
  | string (value : String)
  | sequence
  | map

def Found.message : Found → String
  | .null => "null"
  | .bool value => "boolean `" ++ (if value then "true" else "false") ++ "`"
  | .number (.integer n) => "integer `" ++ toString n ++ "`"
  | .number (.real x) => "floating point `" ++ Layout.double.writeDouble x ++ "`"
  | .string value => "string " ++ Text.quoteMessage value
  | .sequence => "sequence"
  | .map => "map"

inductive ShapeFault where
  | wrongType (found : Found) (expected : String)
  | missing (field : String)
  | repeated (field : String)
  | tooShort (length : Nat) (expected : String)
  | tooLong (length : Nat)
  | noColor

def ShapeFault.message : ShapeFault → String
  | .wrongType found expected => "invalid type: " ++ found.message ++ ", expected " ++ expected
  | .missing field => "missing field `" ++ field ++ "`"
  | .repeated field => "duplicate field `" ++ field ++ "`"
  | .tooShort length expected =>
    "invalid length " ++ toString length ++ ", expected " ++ expected
  | .tooLong length =>
    "invalid length " ++ toString length ++ ", expected fewer elements in array"
  | .noColor => "data did not match any variant of untagged enum Color"

-- A fault of the text always has a place; a fault of the shape has one when the value was read
-- straight from a text.
inductive DocumentFault where
  | text (fault : TextFault) (place : Place)
  | shape (fault : ShapeFault) (place : Option Place)

def Place.message (p : Place) : String :=
  " at line " ++ toString p.line ++ " column " ++ toString p.column

def DocumentFault.message : DocumentFault → String
  | .text fault place => fault.message ++ place.message
  | .shape fault place => fault.message ++ (place.map Place.message).getD ""

-- A fault of the text at its place, on the way to a `DocumentFault`.
structure Misread where
  fault : TextFault
  place : Place
deriving DecidableEq, Inhabited

def Misread.toDocumentFault (m : Misread) : DocumentFault := .text m.fault m.place

end Diorama
