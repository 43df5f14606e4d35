import CentralSystem.Message.Mismatch

namespace CentralSystem

def spellingsOf (all : List α) (name : α → String) (aliases : α → List String) : List (String × α) :=
  all.flatMap fun a => (aliases a ++ [name a]).map (·, a)

structure Enumeration (α : Type) where
  all : List α
  name : α → String
  /-- Other accepted spellings of a value. -/
  aliases : α → List String := fun _ => []
  lookup_name (a : α) : (spellingsOf all name aliases).lookup (name a) = some a := by
    intro a; cases a <;> decide

namespace Enumeration

def spellings (e : Enumeration α) : List (String × α) :=
  spellingsOf e.all e.name e.aliases

def ofName? (e : Enumeration α) (name : String) : Option α := e.spellings.lookup name

@[simp] theorem ofName?_name (e : Enumeration α) (a : α) : e.ofName? (e.name a) = some a :=
  e.lookup_name a

def read (e : Enumeration α) (name : String) : Except Mismatch α :=
  match e.ofName? name with
  | some a => .ok a
  | none => .error (.unknownVariant name (e.spellings.map (·.1)))

/-- A value is given by its name, or as an object that has the name as its only key and nothing
behind it. -/
def decode (e : Enumeration α) : Json → Except Mismatch α
  | .string name => e.read name
  | .object [(name, j)] => do
    let a ← e.read name
    match j with
    | .null => .ok a
    | j => .error (.invalidType j "unit")
  | .object _ => .error .notSingleKey
  | j => .error (.invalidType j "string or map")

end Enumeration

mutual

inductive Shape : Type → Type 1 where
  | text : Shape String
  | int32 : Shape Int32
  | uint32 : Shape UInt32
  | timestamp : Shape Timestamp
  | decimal : Shape Decimal
  | choice {α : Type} (e : Enumeration α) : Shape α
  | list {α : Type} (item : Shape α) : Shape (List α)
  /-- A structure: its fields in the order in which they are declared, and how it is made of them. -/
  | record {σ α : Type} (name : String) (fields : Fields σ) (pack : σ → α) (unpack : α → σ)
      (pack_unpack : ∀ a, pack (unpack a) = a := by intros; rfl)
      (unpack_pack : ∀ s, unpack (pack s) = s := by intros; rfl) : Shape α

/-- The fields of a record with values in a product type. -/
inductive Fields : Type → Type 1 where
  | nil : Fields Unit
  | required {β σ : Type} (name : String) (shape : Shape β) (rest : Fields σ) : Fields (β × σ)
  | optional {β σ : Type} (name : String) (shape : Shape β) (rest : Fields σ) :
      Fields (Option β × σ)
  /-- An optional field at the end, which an array may leave out. -/
  | trailing {β : Type} (name : String) (shape : Shape β) : Fields (Option β × Unit)

end

/-- What is wrong with the members of an object. -/
inductive Fault where
  | bad (key : String) (m : Mismatch)
  | missing (name : String)

namespace Fault

/-- Of two faults the one to report: a bad member before a missing one, of two bad members the one
with the smaller key, of two missing ones the first. -/
def worse : Fault → Fault → Fault
  | .bad k m, .bad k' m' => if k' < k then .bad k' m' else .bad k m
  | .missing _, .bad k m => .bad k m
  | f, _ => f

def mismatch : Fault → Mismatch
  | .bad _ m => m
  | .missing name => .missingField name

end Fault

def pairUp : Except Fault β → Except Fault σ → Except Fault (β × σ)
  | .ok b, .ok s => .ok (b, s)
  | .ok _, .error f => .error f
  | .error f, .ok _ => .error f
  | .error f, .error f' => .error (f.worse f')

def optionally (read : Json → Except Mismatch β) : Json → Except Mismatch (Option β)
  | .null => .ok none
  | j => (read j).map some

def Fields.count : Fields σ → Nat
  | .nil => 0
  | .required _ _ rest => rest.count + 1
  | .optional _ _ rest => rest.count + 1
  | .trailing _ _ => 1

def Fields.names : Fields σ → List String
  | .nil => []
  | .required name _ rest => name :: rest.names
  | .optional name _ rest => name :: rest.names
  | .trailing name _ => [name]

def readDecimalText : Json → Except Mismatch Decimal
  | .string s => (Decimal.read s.toList).mapError fun problem => .decimal (.decimal problem)
  | j => .error (.invalidType j "string containing a decimal")

def readDecimal : Json → Except Mismatch Decimal
  | .number n => (Decimal.ofNumeral n).mapError .decimal
  | .string s => (Decimal.read s.toList).mapError fun _ => .decimalText s
  | .object ((key, j) :: rest) =>
    if key = Json.numberKey then do
      let d ← readDecimalText j
      if rest.isEmpty then .ok d else .error (.tooManyMembers (rest.length + 1))
    else .error .decimalKey
  | j => .error (.invalidType j Mismatch.decimalExpected)

def readTimestamp : Json → Except Mismatch Timestamp
  | .string s => (Timestamp.ofString s).mapError .timestamp
  | j => .error (.invalidType j Mismatch.timestampExpected)

def readInt32 : Json → Except Mismatch Int32
  | .number n => n.int32?.elim (.error .invalidNumber) .ok
  | j => .error (.invalidType j "i32")

def readUInt32 : Json → Except Mismatch UInt32
  | .number n => n.uint32?.elim (.error .invalidNumber) .ok
  | j => .error (.invalidType j "u32")

def readText : Json → Except Mismatch String
  | .string s => .ok s
  | j => .error (.invalidType j "a string")

mutual

def Shape.decode : Shape α → Json → Except Mismatch α
  | .text, j => readText j
  | .int32, j => readInt32 j
  | .uint32, j => readUInt32 j
  | .timestamp, j => readTimestamp j
  | .decimal, j => readDecimal j
  | .choice e, j => e.decode j
  | .list item, j =>
    match j with
    | .array items => items.mapM item.decode
    | j => .error (.invalidType j "a sequence")
  | .record name fields pack _ _ _, j =>
    match j with
    | .object members =>
      match fields.decodeMembers members with
      | .ok s => .ok (pack s)
      | .error f => .error f.mismatch
    | .array items =>
      match fields.decodeItems (.tooFewItems items.length name fields.count) items with
      | .ok (s, []) => .ok (pack s)
      | .ok _ => .error (.tooManyItems items.length)
      | .error m => .error m
    | j => .error (.invalidType j ("struct " ++ name))

def Fields.decodeMembers : Fields σ → List (String × Json) → Except Fault σ
  | .nil, _ => .ok ()
  | .required name shape rest, members =>
    let value := match members.lookup name with
      | some j => (shape.decode j).mapError (.bad name)
      | none => .error (.missing name)
    pairUp value (rest.decodeMembers members)
  | .optional name shape rest, members =>
    let value := match members.lookup name with
      | some j => (optionally shape.decode j).mapError (.bad name)
      | none => .ok none
    pairUp value (rest.decodeMembers members)
  | .trailing name shape, members =>
    match members.lookup name with
    | some j => ((optionally shape.decode j).map (·, ())).mapError (.bad name)
    | none => .ok (none, ())

def Fields.decodeItems (tooFew : Mismatch) :
    Fields σ → List Json → Except Mismatch (σ × List Json)
  | .nil, items => .ok ((), items)
  | .required .., [] => .error tooFew
  | .required _ shape rest, j :: items => do
    let b ← shape.decode j
    let (s, items) ← rest.decodeItems tooFew items
    return ((b, s), items)
  | .optional .., [] => .error tooFew
  | .optional _ shape rest, j :: items => do
    let b ← optionally shape.decode j
    let (s, items) ← rest.decodeItems tooFew items
    return ((b, s), items)
  | .trailing .., [] => .ok ((none, ()), [])
  | .trailing _ shape, j :: items => do
    let b ← optionally shape.decode j
    return ((b, ()), items)

end

mutual

def Shape.encode : Shape α → α → Json
  | .text, s => .string s
  | .int32, i => .ofInt i.toInt
  | .uint32, n => .ofNat n.toNat
  | .timestamp, t => .string t.render
  | .decimal, d => .number d.toNumeral
  | .choice e, a => .string (e.name a)
  | .list item, xs => .array (xs.map item.encode)
  | .record _ fields _ unpack _ _, a => .ofMembers (fields.encode (unpack a))

def Fields.encode : Fields σ → σ → List (String × Json)
  | .nil, _ => []
  | .required name shape rest, (b, s) => (name, shape.encode b) :: rest.encode s
  | .optional name shape rest, (some b, s) => (name, shape.encode b) :: rest.encode s
  | .optional _ _ rest, (none, s) => rest.encode s
  | .trailing name shape, (some b, ()) => [(name, shape.encode b)]
  | .trailing _ _, (none, ()) => []

end

/-- A condition on a value that its shape does not express, the field that it is about, and what is
said where it fails. -/
structure Bound (α : Type) where
  field : String
  reason : String
  holds : α → Bool

namespace Bound

def length (field : String) (most : Nat) (get : α → String) : Bound α :=
  ⟨field, "exceeds " ++ toString most ++ " characters", fun a => (get a).length ≤ most⟩

def optionalLength (field : String) (most : Nat) (get : α → Option String) : Bound α :=
  ⟨field, "exceeds " ++ toString most ++ " characters",
    fun a => (get a).all fun s => s.length ≤ most⟩

def positive (field : String) (get : α → UInt32) : Bound α :=
  ⟨field, "must be greater than 0", fun a => get a != 0⟩

def notEmpty (field : String) (get : α → List β) : Bound α :=
  ⟨field, "must not be empty", fun a => !(get a).isEmpty⟩

def toError (b : Bound α) : Error := .validation b.field b.reason

end Bound

/-- The shape of a message and the bounds that are checked after it, in this order. -/
structure Schema (α : Type) where
  shape : Shape α
  bounds : List (Bound α) := []

namespace Schema

def check (schema : Schema α) (a : α) : Except Error Unit :=
  match schema.bounds.find? (!·.holds a) with
  | some b => .error b.toError
  | none => .ok ()

def decode (schema : Schema α) (payload : Json) : Except Error α := do
  let a ← (schema.shape.decode payload).mapError Mismatch.toError
  schema.check a
  return a

def encode (schema : Schema α) (a : α) : Json := schema.shape.encode a

end Schema

end CentralSystem
