import CentralSystem.Json.Value

namespace CentralSystem

inductive Setting where
  | absent
  | flag (b : Bool)
  | number (n : Numeral)
  | text (s : String)
  | list (items : List Setting)
  | group (members : List (String × Setting))
  /-- A value of a kind that no setting takes. -/
  | other
deriving Inhabited

namespace Setting

mutual

def ofJson : Json → Setting
  | .null => .absent
  | .bool b => .flag b
  | .number n => .number n
  | .string s => .text s
  | .array items => .list (ofItems items)
  | .object members => .group (ofMembers members)

def ofItems : List Json → List Setting
  | [] => []
  | j :: rest => ofJson j :: ofItems rest

def ofMembers : List (String × Json) → List (String × Setting)
  | [] => []
  | (key, j) :: rest => (key, ofJson j) :: ofMembers rest

end

end Setting

end CentralSystem
