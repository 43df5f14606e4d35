import CentralSystem.Decimal.Numeral
import CentralSystem.Error
import CentralSystem.Text
import CentralSystem.Timestamp.Reader

namespace CentralSystem

namespace Json

def describe : Json → String
  | .null => "null"
  | .bool b => "boolean `" ++ (if b then "true" else "false") ++ "`"
  | .number _ => "number"
  | .string s => "string " ++ Text.quoted s
  | .array _ => "sequence"
  | .object _ => "map"

end Json

inductive Mismatch where
  | invalidType (found : Json) (expected : String)
  | invalidNumber
  | tooFewItems (count : Nat) (record : String) (fields : Nat)
  | tooManyItems (count : Nat)
  | tooManyMembers (count : Nat)
  | missingField (name : String)
  | unknownVariant (found : String) (spellings : List String)
  | notSingleKey
  | timestamp (problem : TimestampError)
  | decimal (problem : NumberError)
  | decimalText (text : String)
  | decimalKey
deriving BEq, Repr

namespace Mismatch

def decimalExpected : String := "a Decimal type representing a fixed-point number"

def timestampExpected : String := "an RFC 3339 formatted date and time string"

def inBackticks (name : String) : String := "`" ++ name ++ "`"

def alternatives : List String → String
  | [] => "there are no variants"
  | [a] => "expected " ++ inBackticks a
  | [a, b] => "expected " ++ inBackticks a ++ " or " ++ inBackticks b
  | names => "expected one of " ++ ", ".intercalate (names.map inBackticks)

def decimalProblem : NumberError → String
  | .wideInteger i =>
    "invalid type: integer " ++ inBackticks (toString i) ++ (if i < 0 then " as i128" else " as u128") ++
      ", expected " ++ decimalExpected
  | .outOfRange n =>
    "invalid value: floating point " ++ inBackticks (String.ofList n.chars) ++ ", expected " ++
      decimalExpected
  | .decimal problem => problem.message

def message : Mismatch → String
  | invalidType found expected => "invalid type: " ++ found.describe ++ ", expected " ++ expected
  | invalidNumber => "invalid number"
  | tooFewItems count record fields =>
    "invalid length " ++ toString count ++ ", expected struct " ++ record ++ " with " ++
      toString fields ++ (if fields = 1 then " element" else " elements")
  | tooManyItems count =>
    "invalid length " ++ toString count ++ ", expected fewer elements in array"
  | tooManyMembers count =>
    "invalid length " ++ toString count ++ ", expected fewer elements in map"
  | missingField name => "missing field " ++ inBackticks name
  | unknownVariant found spellings =>
    "unknown variant " ++ inBackticks found ++ ", " ++ alternatives spellings
  | notSingleKey => "invalid value: map, expected map with a single key"
  | timestamp problem => problem.message
  | decimal problem => decimalProblem problem
  | decimalText text =>
    "invalid value: string " ++ Text.quoted text ++ ", expected " ++ decimalExpected
  | decimalKey => "expected field with custom name"

def firstQuoted? (s : String) : Option String :=
  match s.toList.dropWhile (· != '\x60') with
  | [] => none
  | _ :: cs => if cs.contains '\x60' then some (String.ofList (cs.takeWhile (· != '\x60'))) else none

def toError (m : Mismatch) : Error :=
  .validation ((firstQuoted? m.message).getD "payload") m.message

end Mismatch

end CentralSystem
