import CentralSystem.Json.Token

namespace CentralSystem.Json

def maxDepth : Nat := 127

mutual

def tokens : Json → List Token
  | .null => [.null]
  | .bool b => [.bool b]
  | .number n => [.number n]
  | .string s => [.string s]
  | .array [] => [.openArray, .closeArray]
  | .array (item :: items) => .openArray :: (item.tokens ++ moreItems items)
  | .object [] => [.openObject, .closeObject]
  | .object ((key, value) :: members) =>
    .openObject :: .string key :: .colon :: (value.tokens ++ moreMembers members)

def moreItems : List Json → List Token
  | [] => [.closeArray]
  | item :: items => .comma :: (item.tokens ++ moreItems items)

def moreMembers : List (String × Json) → List Token
  | [] => [.closeObject]
  | (key, value) :: members =>
    .comma :: .string key :: .colon :: (value.tokens ++ moreMembers members)

end

def render (j : Json) : String := String.ofList (j.tokens.flatMap Token.chars)

/-- A container that waits for the value being read: an array with its items, the last one first,
or an object with the members before this key. -/
inductive Container where
  | array (items : List Json)
  | object (members : List (String × Json)) (key : String)

/-- What the next token is for. -/
inductive Cursor where
  | value (stack : List Container)
  | firstItem (stack : List Container)
  | done (j : Json) (stack : List Container)
  | key (members : List (String × Json)) (stack : List Container)
  | colon (members : List (String × Json)) (key : String) (stack : List Container)
  | numberColon (stack : List Container)
  | numberText (stack : List Container)
  | numberEnd (n : Numeral) (stack : List Container)

namespace Cursor

def startValue? (stack : List Container) : Token → Option Cursor
  | .null => some (.done .null stack)
  | .bool b => some (.done (.bool b) stack)
  | .number n => some (.done (.number n) stack)
  | .string s => some (.done (.string s) stack)
  | .openArray => if stack.length < maxDepth then some (.firstItem stack) else none
  | .openObject => if stack.length < maxDepth then some (.key [] stack) else none
  | _ => none

/-- Reads one token. An object may end where a key is due only if it has no member yet: a comma
promises another one. -/
def feed? : Cursor → Token → Option Cursor
  | .value stack, t => startValue? stack t
  | .firstItem stack, .closeArray => some (.done (.array []) stack)
  | .firstItem stack, t => startValue? (.array [] :: stack) t
  | .done j (.array items :: stack), .comma => some (.value (.array (j :: items) :: stack))
  | .done j (.array items :: stack), .closeArray =>
    some (.done (.array (j :: items).reverse) stack)
  | .done j (.object members name :: stack), .comma =>
    some (.key (insertMember name j members) stack)
  | .done j (.object members name :: stack), .closeObject =>
    some (.done (.object (insertMember name j members)) stack)
  | .key [] stack, .string name =>
    if name = numberKey then some (.numberColon stack) else some (.colon [] name stack)
  | .key members stack, .string name => some (.colon members name stack)
  | .key [] stack, .closeObject => some (.done (.object []) stack)
  | .colon members name stack, .colon => some (.value (.object members name :: stack))
  | .numberColon stack, .colon => some (.numberText stack)
  | .numberText stack, .string s => (NumberScan.read? s.toList).map (.numberEnd · stack)
  | .numberEnd n stack, .closeObject => some (.done (.number n) stack)
  | _, _ => none

def finish? : Cursor → Option Json
  | .done j [] => some j
  | _ => none

end Cursor

def ofTokens? (ts : List Token) : Option Json :=
  (ts.foldlM Cursor.feed? (.value [])).bind Cursor.finish?

/-- The value that a text spells. Blanks, line ends and tabs may stand around tokens; anything
behind the value, a number with a leading zero, half a surrogate pair or a raw control character in
a string makes the text no JSON. -/
def parse? (text : String) : Option Json :=
  (Token.scan? text.toList).bind ofTokens?

end CentralSystem.Json
