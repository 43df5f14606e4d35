import CentralSystem.Toml.Number
import CentralSystem.Toml.Tree

namespace CentralSystem.Toml

def listPart (value : Read Setting) : Read (List Setting × Bool) := do
  modify skipLines
  match ← get with
  | ']' :: cs => set cs; return ([], false)
  | _ =>
    let v ← value
    modify skipLines
    match ← get with
    | ',' :: cs => set cs; return ([v], true)
    | ']' :: cs => set cs; return ([v], false)
    | _ => failure

def readPair (value : Read Setting) : Read (List String × Setting) := do
  let key ← readKey
  expect ['=']
  skipGap
  return (key, ← value)

def tablePart (value : Read Setting) : Read (List (List String × Setting) × Bool) := do
  let pair ← readPair value
  skipGap
  match ← get with
  | ',' :: cs => set cs; return ([pair], true)
  | '}' :: cs => set cs; return ([pair], false)
  | _ => failure

def readInline (value : Read Setting) : Read Setting := do
  skipGap
  match ← get with
  | '}' :: cs => set cs; return .group []
  | _ =>
    let pairs ← collectAll (tablePart value)
    match pairs.foldlM (fun ms (key, v) => Members.assign key v .header ms) [] with
    | some ms => return .group (settings ms)
    | none => failure

/-- A value that starts with a sign or a digit. A point in time is a group with a nameless member. -/
def readNumber : Read Setting :=
  (do readMoment; return .group [("", .other)]) <|> (do readFloat; return .other) <|>
    (do return .number (.ofInt (← readInteger)))

def readValue : (depth : Nat) → Read Setting
  | 0 => failure
  | depth + 1 => do
    match ← get with
    | [] => failure
    | c :: cs =>
      if c = '"' || c = '\'' then return .text (← readString)
      else if c = '[' ∧ depth ≠ 0 then
        set cs
        return .list (← collectAll (listPart (readValue depth)))
      else if c = '\x7b' ∧ depth ≠ 0 then
        set cs
        readInline (readValue depth)
      else if c = '+' || c = '-' || c.isDigit then readNumber
      else if c = 't' then expect ['t', 'r', 'u', 'e']; return .flag true
      else if c = 'f' then expect ['f', 'a', 'l', 's', 'e']; return .flag false
      else if c = 'i' || c = 'n' then readFloat; return .other
      else failure

inductive Line where
  | header (several : Bool) (path : List String)
  | value (key : List String) (v : Setting)

def readLine : Read Line := do
  let line ← match ← get with
    | '[' :: '[' :: cs =>
      set cs
      let path ← readKey
      expect [']', ']']
      pure (.header true path)
    | '[' :: cs =>
      set cs
      let path ← readKey
      expect [']']
      pure (.header false path)
    | _ =>
      let (key, v) ← readPair (readValue depthLimit)
      pure (.value key v)
  endLine
  return line

def linePart : Read (List Line × Bool) := do
  modify skipLines
  match ← get with
  | [] => return ([], false)
  | _ => return ([← readLine], true)

def addLine (state : List String × Members) : Line → Option (List String × Members)
  | .header several path => (state.2.enter several path).map (path, ·)
  | .value key v => (state.2.assignUnder state.1 key v).map (state.1, ·)

/-- What a file says. A byte order mark may stand in front. -/
def parse? (text : String) : Option Setting := do
  let cs := match text.toList with
    | '\ufeff' :: cs => cs
    | cs => cs
  let (lines, _) ← collectAll linePart cs
  let (_, ms) ← lines.foldlM addLine ([], [])
  return .group (settings ms)

end CentralSystem.Toml
