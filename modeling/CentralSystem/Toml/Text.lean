import CentralSystem.Json.Token

namespace CentralSystem.Toml

abbrev Read := StateT (List Char) Option

def collect (step : Read (List α × Bool)) : (fuel : Nat) → Read (List α)
  | 0 => failure
  | fuel + 1 => do
    let (found, more) ← step
    if more then return found ++ (← collect step fuel) else return found

/-- Repeats a step to its end. Each round but the last takes a character, so there are no more rounds
than characters and one. -/
def collectAll (step : Read (List α × Bool)) : Read (List α) := fun cs =>
  collect step (cs.length + 1) cs

def expect (text : List Char) : Read Unit := fun cs =>
  if text.isPrefixOf cs then some ((), cs.drop text.length) else none

def isGap (c : Char) : Bool := c == ' ' || c == '\t'

def skipGap : Read Unit := modify (·.dropWhile isGap)

def isVisible (c : Char) : Bool := c == '\t' || (32 ≤ c.toNat && c.toNat != 127)

mutual

/-- The text behind gaps, line ends and comments. A comment that holds a control is not passed. -/
def skipLines : List Char → List Char
  | [] => []
  | '\r' :: '\n' :: cs => skipLines cs
  | c :: cs =>
    if c = '#' then skipComment cs
    else if isGap c || c = '\n' then skipLines cs
    else c :: cs

def skipComment : List Char → List Char
  | [] => []
  | '\r' :: '\n' :: cs => skipLines cs
  | c :: cs =>
    if c = '\n' then skipLines cs else if isVisible c then skipComment cs else c :: cs

end

def endLine : Read Unit := do
  skipGap
  if (← get).head? = some '#' then modify (·.dropWhile isVisible)
  match ← get with
  | [] => return
  | '\n' :: cs | '\r' :: '\n' :: cs => set cs
  | _ => failure

def readHex (count : Nat) : Read Nat := fun cs =>
  let digits := cs.take count
  if digits.length = count then
    (digits.mapM Json.hexDigit?).map fun ds => (ds.foldl (16 * · + ·) 0, cs.drop count)
  else none

def readEscape : Read Char := do
  match ← get with
  | [] => failure
  | c :: cs =>
    set cs
    match c with
    | '"' | '\\' => return c
    | 'b' => return '\x08'
    | 'f' => return '\x0c'
    | 'n' => return '\n'
    | 'r' => return '\r'
    | 't' => return '\t'
    | 'u' => ofScalar (← readHex 4)
    | 'U' => ofScalar (← readHex 8)
    | _ => failure
where
  ofScalar (n : Nat) : Read Char := if n.isValidChar then pure (Char.ofNat n) else failure

def stringPart (quote : Char) : Read (List Char × Bool) := do
  match ← get with
  | [] => failure
  | c :: cs =>
    set cs
    if c = quote then return ([], false)
    else if c = '\\' ∧ quote = '"' then return ([← readEscape], true)
    else if isVisible c then return ([c], true)
    else failure

def skipLineEnds (cs : List Char) : Option (List Char) :=
  match cs.dropWhile isGap with
  | '\n' :: rest | '\r' :: '\n' :: rest => some (dropBlank rest)
  | _ => none
where
  dropBlank : List Char → List Char
    | [] => []
    | '\r' :: '\n' :: cs => dropBlank cs
    | c :: cs => if isGap c || c = '\n' then dropBlank cs else c :: cs

/-- A part of a string over several lines, up to its three closing quotes. Up to two more quotes in
front of them belong to the string. -/
def blockPart (quote : Char) : Read (List Char × Bool) := do
  match ← get with
  | [] => failure
  | '\r' :: '\n' :: cs => set cs; return (['\n'], true)
  | c :: cs =>
    let quotes := ((c :: cs).takeWhile (· == quote)).length
    if 3 ≤ quotes then
      let own := min (quotes - 3) 2
      modify (·.drop (own + 3))
      return (List.replicate own quote, false)
    else
      set cs
      if c = '\\' ∧ quote = '"' then
        match skipLineEnds cs with
        | some rest => set rest; return ([], true)
        | none => return ([← readEscape], true)
      else if c = '\n' || isVisible c then return ([c], true)
      else failure

def readLineString : Read String := do
  match ← get with
  | [] => failure
  | c :: cs =>
    if c = '"' || c = '\'' then
      set cs
      return String.ofList (← collectAll (stringPart c))
    else failure

def readString : Read String := do
  match ← get with
  | a :: b :: c :: cs =>
    if a = b ∧ b = c ∧ (a = '"' ∨ a = '\'') then
      set (match cs with
        | '\n' :: rest | '\r' :: '\n' :: rest => rest
        | cs => cs)
      return String.ofList (← collectAll (blockPart a))
    else readLineString
  | _ => readLineString

def isKeyChar (c : Char) : Bool := c.isAlphanum || c == '_' || c == '-'

def readSimpleKey : Read String := do
  match ← get with
  | [] => failure
  | c :: cs =>
    if c = '"' || c = '\'' then readLineString
    else if isKeyChar c then
      set (cs.dropWhile isKeyChar)
      return String.ofList (c :: cs.takeWhile isKeyChar)
    else failure

/-- Paths and nested values stay below this depth. -/
def depthLimit : Nat := 80

def keyPart : Read (List String × Bool) := do
  skipGap
  let key ← readSimpleKey
  skipGap
  match ← get with
  | '.' :: cs => set cs; return ([key], true)
  | _ => return ([key], false)

def readKey : Read (List String) := do
  let path ← collectAll keyPart
  if path.length < depthLimit then return path else failure

end CentralSystem.Toml
