import CentralSystem.Text

namespace CentralSystem

inductive Negotiation where
  | selected (protocol : String)
  | noneOffered
  | unsupported
deriving DecidableEq, Inhabited, Repr

namespace Negotiation

def pieces (separator : Char) : List Char → List (List Char)
  | [] => [[]]
  | c :: cs =>
    match pieces separator cs with
    | [] => [[c]]
    | piece :: rest => if c = separator then [] :: piece :: rest else (c :: piece) :: rest

theorem pieces_ne_nil (separator : Char) (cs : List Char) : pieces separator cs ≠ [] := by
  cases cs with
  | nil => simp [pieces]
  | cons c cs => grind [pieces]

theorem intercalate_pieces (separator : Char) (cs : List Char) :
    [separator].intercalate (pieces separator cs) = cs := by
  induction cs with
  | nil => rfl
  | cons c cs ih =>
    rw [pieces]
    split <;> rename_i h
    · exact absurd h (pieces_ne_nil separator cs)
    · rw [h] at ih
      split <;> rename_i hc
      · rw [List.intercalate_cons_cons, ih, hc]
        rfl
      · rename_i piece rest
        cases rest <;> simp_all

theorem not_mem_of_mem_pieces {separator : Char} {cs p : List Char}
    (h : p ∈ pieces separator cs) : separator ∉ p := by
  induction cs generalizing p with
  | nil => simp_all [pieces]
  | cons c cs ih =>
    rw [pieces] at h
    split at h <;> rename_i hp
    · exact absurd hp (pieces_ne_nil separator cs)
    · grind

def offers (header : String) : List String :=
  (((pieces ',' header.toList).map (Text.trimBy Text.isBlank)).filter (!·.isEmpty)).map
    String.ofList

/-- Whether two names differ only in the case of the letters a to z. -/
def sameName (a b : String) : Bool := a.toList.map Char.toLower == b.toList.map Char.toLower

/-- Chooses a subprotocol. The order of preference is that of the supported ones, and so is the
spelling; where none is given, any is supported. -/
def negotiate (supported : List String) (header : String) : Negotiation :=
  match offers header with
  | [] => .noneOffered
  | first :: rest =>
    if supported.isEmpty then .selected first
    else
      match supported.find? fun name => (first :: rest).any (sameName · name) with
      | some name => .selected name
      | none => .unsupported

def protocol? : Negotiation → Option String
  | selected protocol => some protocol
  | _ => none

end Negotiation

namespace Handshake

/-- The id in a path `/ocpp/{id}` or `/{id}`. Slashes around it do not count. -/
def stationOfPath? (path : String) : Option String :=
  let isSlash := fun c : Char => c == '/'
  let cs := path.toList.dropWhile isSlash
  let area := ['o', 'c', 'p', 'p', '/']
  let id := Text.trimBy isSlash (if area.isPrefixOf cs then cs.drop area.length else cs)
  if id.isEmpty || id.contains '/' then none else some (String.ofList id)

def pathOf (target : String) : String :=
  String.ofList (target.toList.takeWhile fun c => c != '?' && c != '#')

/-- What the station that asks for a connection is told. -/
structure Reply where
  accepted : Bool
  protocol : Option String := none
  body : String := ""
deriving DecidableEq, Inhabited, Repr

/-- Answers a request for a connection. Without an id it is refused; without a common subprotocol it
is accepted all the same. Of several headers with offers the first counts. -/
def answer (supported : List String) (target : String) (headers : List String) :
    Option String × Reply :=
  match stationOfPath? (pathOf target) with
  | none => (none, { accepted := false, body := "missing charge point id" })
  | some station =>
    (some station,
      { accepted := true
        protocol := (Negotiation.negotiate supported (headers.headD "")).protocol? })

end Handshake

end CentralSystem
