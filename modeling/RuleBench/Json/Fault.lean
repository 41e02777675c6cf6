import RuleBench.Json.Basic
import RuleBench.Text.Quoted

set_option autoImplicit false

/-!
# What can be wrong with a JSON text

Either the text is not JSON, or it is but does not have the form that was asked for.  A fault says
what is wrong and, when it was found while reading a text, where: the line from 1 and the number of
bytes read of that line.
-/

namespace RuleBench.Json

/-- What stands where something else was wanted. -/
inductive Found where
  | null
  | bool (b : Bool)
  | num (n : Number)
  | text (s : String)
  | list
  | object

def found : Json → Found
  | .null => .null
  | .bool b => .bool b
  | .num n => .num n
  | .str s => .text s
  | .arr _ => .list
  | .obj _ => .object

def Found.describe : Found → String
  | .null => "null"
  | .bool b => s!"boolean `{b}`"
  | .num (.whole w) => s!"integer `{w.val}`"
  | .num (.real x) => "floating point `" ++ String.ofList x.text ++ "`"
  | .text s => "string " ++ Text.quoted s
  | .list => "sequence"
  | .object => "map"

inductive Cause where
  | endInValue
  | endInList
  | endInObject
  | endInString
  | expectedColon
  | expectedCommaOrBracket
  | expectedCommaOrBrace
  | expectedValue
  | expectedWord
  | invalidEscape
  | invalidNumber
  | numberOutOfRange
  | loneSurrogate
  | unfinishedSurrogates
  | controlCharacter
  | nameNotText
  | trailingComma
  | trailingText
  | tooDeep
  | wrongKind (found : Found) (wanted : String)
  | wrongValue (found : Found) (wanted : String)
  | wrongLength (length : Nat) (wanted : String)
  | unknownChoice (name : String) (choices : List String)
  | missingMember (name : String)
  | repeatedMember (name : String)

namespace Cause

def ticked (s : String) : String := "`" ++ s ++ "`"

def describeChoices : List String → String
  | [] => "there are no variants"
  | [a] => "expected " ++ ticked a
  | [a, b] => "expected " ++ ticked a ++ " or " ++ ticked b
  | choices => "expected one of " ++ ", ".intercalate (choices.map ticked)

def describe : Cause → String
  | .endInValue => "EOF while parsing a value"
  | .endInList => "EOF while parsing a list"
  | .endInObject => "EOF while parsing an object"
  | .endInString => "EOF while parsing a string"
  | .expectedColon => "expected `:`"
  | .expectedCommaOrBracket => "expected `,` or `]`"
  | .expectedCommaOrBrace => "expected `,` or `\x7d`"
  | .expectedValue => "expected value"
  | .expectedWord => "expected ident"
  | .invalidEscape => "invalid escape"
  | .invalidNumber => "invalid number"
  | .numberOutOfRange => "number out of range"
  | .loneSurrogate => "lone leading surrogate in hex escape"
  | .unfinishedSurrogates => "unexpected end of hex escape"
  | .controlCharacter => "control character (\\u0000-\\u001F) found while parsing a string"
  | .nameNotText => "key must be a string"
  | .trailingComma => "trailing comma"
  | .trailingText => "trailing characters"
  | .tooDeep => "recursion limit exceeded"
  | .wrongKind found wanted => "invalid type: " ++ found.describe ++ ", expected " ++ wanted
  | .wrongValue found wanted => "invalid value: " ++ found.describe ++ ", expected " ++ wanted
  | .wrongLength length wanted => s!"invalid length {length}, expected {wanted}"
  | .unknownChoice name choices =>
    "unknown variant " ++ ticked name ++ ", " ++ describeChoices choices
  | .missingMember name => "missing field " ++ ticked name
  | .repeatedMember name => "duplicate field " ++ ticked name

end Cause

structure Place where
  line : Nat
  column : Nat
  deriving DecidableEq

structure Fault where
  cause : Cause
  place : Option Place

namespace Fault

/-- Gives a fault a place unless it has one. -/
def placedAt (f : Fault) (p : Place) : Fault := { f with place := some (f.place.getD p) }

def message (f : Fault) : String :=
  match f.place with
  | none => f.cause.describe
  | some p => f.cause.describe ++ s!" at line {p.line} column {p.column}"

end Fault

end RuleBench.Json
