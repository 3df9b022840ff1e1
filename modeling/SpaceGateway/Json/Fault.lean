import SpaceGateway.Decimal.Layout
import SpaceGateway.Text.Characters
/-!
What can be wrong with a JSON text: its syntax, or the data that it holds. One function gives the
wording of each fault.
-/
namespace SpaceGateway.Json

/-- The broad kind of a fault. -/
inductive Category
  | malformed | endOfText | data
  deriving DecidableEq

/-- Faults of the text itself. -/
inductive SyntaxFault
  | endInValue | endInString | endInArray | endInObject
  | noColon | noArraySeparator | noObjectSeparator
  | unknownWord | noValue | badEscape | badNumber | numberTooLarge | badEncoding
  | controlInString | keyNotString | loneSurrogate | halfSurrogatePair
  | trailingComma | trailingText | tooDeep
  deriving DecidableEq

namespace SyntaxFault

def category : SyntaxFault → Category
  | endInValue | endInString | endInArray | endInObject => .endOfText
  | _ => .malformed

def message : SyntaxFault → String
  | endInValue => "EOF while parsing a value"
  | endInString => "EOF while parsing a string"
  | endInArray => "EOF while parsing a list"
  | endInObject => "EOF while parsing an object"
  | noColon => "expected `:`"
  | noArraySeparator => "expected `,` or `]`"
  | noObjectSeparator => "expected `,` or `\x7d`"
  | unknownWord => "expected ident"
  | noValue => "expected value"
  | badEscape => "invalid escape"
  | badNumber => "invalid number"
  | numberTooLarge => "number out of range"
  | badEncoding => "invalid unicode code point"
  | controlInString => "control character (\\u0000-\\u001F) found while parsing a string"
  | keyNotString => "key must be a string"
  | loneSurrogate => "lone leading surrogate in hex escape"
  | halfSurrogatePair => "unexpected end of hex escape"
  | trailingComma => "trailing comma"
  | trailingText => "trailing characters"
  | tooDeep => "recursion limit exceeded"

end SyntaxFault

/-- What stands where something else was wanted. -/
inductive Found
  | null
  | bool (b : Bool)
  | integer (n : Int)
  /-- A binary64 number, by its bits. -/
  | real (bits : UInt64)
  | string (s : String)
  | array
  | object
  | bareVariant
  deriving DecidableEq

/-- Numbers in messages are positional while the leading digit lies between the fifth place after
the point and the sixteenth before it. -/
def numberLayout : Decimal.Layout := ⟨-5, 15, true⟩

/-- A piece of a text in backquotes. -/
def backquoted (s : String) : String := "`" ++ s ++ "`"

def Found.message : Found → String
  | null => "null"
  | bool b => "boolean " ++ backquoted (if b then "true" else "false")
  | integer n => "integer " ++ backquoted (toString n)
  | real bits => "floating point " ++ backquoted (numberLayout.write bits)
  | string s => "string " ++ Text.quote s
  | array => "sequence"
  | object => "map"
  | bareVariant => "unit variant"

/-- Faults of the data in a text that is well formed as far as it was read. -/
inductive DataFault
  | wrongType (found : Found) (wanted : String)
  | wrongValue (found : Found) (wanted : String)
  | wrongLength (length : Nat) (wanted : String)
  | unknownVariant (name : String) (variants : List String)
  | missingField (name : String)
  | duplicateField (name : String)
  deriving DecidableEq

/-- A list of alternatives, as a message offers them. -/
def offer : List String → String
  | [] => "there are no variants"
  | [a] => "expected " ++ backquoted a
  | [a, b] => "expected " ++ backquoted a ++ " or " ++ backquoted b
  | names => "expected one of " ++ String.intercalate ", " (names.map backquoted)

def DataFault.message : DataFault → String
  | wrongType f w => "invalid type: " ++ f.message ++ ", expected " ++ w
  | wrongValue f w => "invalid value: " ++ f.message ++ ", expected " ++ w
  | wrongLength n w => "invalid length " ++ toString n ++ ", expected " ++ w
  | unknownVariant name variants =>
    "unknown variant " ++ backquoted name ++ ", " ++ offer variants
  | missingField name => "missing field " ++ backquoted name
  | duplicateField name => "duplicate field " ++ backquoted name

/-- Why a text does not give a value. -/
inductive Fault
  | text (f : SyntaxFault)
  | data (f : DataFault)
  deriving DecidableEq

namespace Fault

def category : Fault → Category
  | text f => f.category
  | data _ => .data

def message : Fault → String
  | text f => f.message
  | data f => f.message

end Fault
end SpaceGateway.Json
