import CentralSystem.Config.Setting

namespace CentralSystem.Toml

/-- How a table came to be: under a header of its own, on the way to the table of another header, or
on the way to a value. -/
inductive Origin where
  | header
  | onHeaderPath
  | onKeyPath
deriving DecidableEq, Repr

inductive Tree where
  | value (v : Setting)
  | table (origin : Origin) (members : List (String × Tree))
  /-- Tables under headers of one name; the last one is still open. -/
  | tables (closed : List (List (String × Tree))) (last : List (String × Tree))

abbrev Members := List (String × Tree)

namespace Members

def put (ms : Members) (key : String) (t : Tree) : Members :=
  ms.filter (·.1 != key) ++ [(key, t)]

/-- Changes the table at a path. Tables that are missing on the way are made; one that stands under a
header of its own is not entered by the path of a value. -/
def change (ofKey : Bool) (f : Origin → Members → Option Members) :
    (path : List String) → Origin → Members → Option Members
  | [], origin, ms => f origin ms
  | key :: path, _, ms =>
    match ms.lookup key with
    | none =>
      let origin := if ofKey then .onKeyPath else .onHeaderPath
      (change ofKey f path origin []).map fun inner => ms.put key (.table origin inner)
    | some (.table origin inner) =>
      if ofKey ∧ origin = .header then none
      else (change ofKey f path origin inner).map fun inner => ms.put key (.table origin inner)
    | some (.tables closed last) =>
      (change ofKey f path .header last).map fun last => ms.put key (.tables closed last)
    | some (.value _) => none

/-- Puts a value into a table. A table on the path of a key takes values by such a path only, and
every other one only by a simple key. -/
def addValue (ofPath : Bool) (key : String) (v : Setting) (origin : Origin) (ms : Members) :
    Option Members :=
  if (origin = .onKeyPath) ≠ ofPath then none
  else
    match ms.lookup key with
    | some _ => none
    | none => some (ms ++ [(key, .value v)])

def assign (key : List String) (v : Setting) (origin : Origin) (ms : Members) : Option Members :=
  match key.reverse with
  | [] => none
  | name :: path => change true (addValue (!path.isEmpty) name v) path.reverse origin ms

def openTable (key : String) (_ : Origin) (ms : Members) : Option Members :=
  match ms.lookup key with
  | none => some (ms ++ [(key, .table .header [])])
  | some (.table .onHeaderPath inner) => some (ms.put key (.table .header inner))
  | some _ => none

def openNext (key : String) (_ : Origin) (ms : Members) : Option Members :=
  match ms.lookup key with
  | none => some (ms ++ [(key, .tables [] [])])
  | some (.tables closed last) => some (ms.put key (.tables (closed ++ [last]) []))
  | some _ => none

def enter (several : Bool) (header : List String) (ms : Members) : Option Members :=
  match header.reverse with
  | [] => none
  | name :: path =>
    change false (if several then openNext name else openTable name) path.reverse .header ms

def assignUnder (header key : List String) (v : Setting) (ms : Members) : Option Members :=
  change false (assign key v) header .header ms

end Members

mutual

def Tree.setting : Tree → Setting
  | .value v => v
  | .table _ members => .group (settings members)
  | .tables closed last => .list (groups closed ++ [.group (settings last)])

def settings : Members → List (String × Setting)
  | [] => []
  | (key, t) :: rest => (key, t.setting) :: settings rest

def groups : List Members → List Setting
  | [] => []
  | ms :: rest => .group (settings ms) :: groups rest

end

end CentralSystem.Toml
