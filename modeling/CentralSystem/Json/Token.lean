import CentralSystem.Json.Value

namespace CentralSystem.Json

inductive Token where
  | openArray
  | closeArray
  | openObject
  | closeObject
  | comma
  | colon
  | null
  | bool (b : Bool)
  | number (n : Numeral)
  | string (s : String)
deriving DecidableEq, Inhabited, Repr

inductive NumberScan where
  | minus
  | whole (negative : Bool) (n : Nat)
  | point (negative : Bool) (n : Nat)
  | fraction (negative : Bool) (n : Nat) (digits : List Digit)
  | mark (negative : Bool) (n : Nat) (digits : List Digit)
  | markSign (negative : Bool) (n : Nat) (digits : List Digit) (expNegative : Bool)
  | exponent (negative : Bool) (n : Nat) (digits : List Digit) (e : Exponent)

namespace NumberScan

def isExponentMark (c : Char) : Bool := c == 'e' || c == 'E'

/-- The scan that reads one character more, if the character continues the number. Nothing but a
point or an exponent follows a leading zero. -/
def feed? (c : Char) : NumberScan → Option NumberScan
  | .minus => (Digit.ofChar? c).map fun d => .whole true d
  | .whole neg n =>
    if c = '.' then some (.point neg n)
    else if isExponentMark c then some (.mark neg n [])
    else if n = 0 then none
    else (Digit.ofChar? c).map fun d => .whole neg (10 * n + d)
  | .point neg n => (Digit.ofChar? c).map fun d => .fraction neg n [d]
  | .fraction neg n ds =>
    if isExponentMark c then some (.mark neg n ds)
    else (Digit.ofChar? c).map fun d => .fraction neg n (ds ++ [d])
  | .mark neg n ds =>
    if c = '-' then some (.markSign neg n ds true)
    else if c = '+' then some (.markSign neg n ds false)
    else (Digit.ofChar? c).map fun d => .exponent neg n ds ⟨false, d, []⟩
  | .markSign neg n ds s => (Digit.ofChar? c).map fun d => .exponent neg n ds ⟨s, d, []⟩
  | .exponent neg n ds e =>
    (Digit.ofChar? c).map fun d => .exponent neg n ds { e with rest := e.rest ++ [d] }

def finish? : NumberScan → Option Numeral
  | .whole neg n => some ⟨neg, n, [], none⟩
  | .fraction neg n ds => some ⟨neg, n, ds, none⟩
  | .exponent neg n ds e => some ⟨neg, n, ds, some e⟩
  | _ => none

def start? (c : Char) : Option NumberScan :=
  if c = '-' then some .minus else (Digit.ofChar? c).map fun d => .whole false d

def read? : List Char → Option Numeral
  | [] => none
  | c :: cs => do
    let scan ← cs.foldlM (fun scan c => scan.feed? c) (← start? c)
    scan.finish?

end NumberScan

/-- What the characters read last belong to. In a string, `high` is the first half of a surrogate
pair, whose second half must follow at once. -/
inductive Mode where
  | between
  | word (left : List Char) (token : Token)
  | number (scan : NumberScan)
  | string (high : Option Nat) (done : List Char)
  | escape (high : Option Nat) (done : List Char)
  | unit (high : Option Nat) (done : List Char) (value left : Nat)

def isJsonBlank (c : Char) : Bool := c == ' ' || c == '\t' || c == '\n' || c == '\r'

def hexDigit? (c : Char) : Option Nat :=
  if 48 ≤ c.toNat ∧ c.toNat < 58 then some (c.toNat - 48)
  else if 97 ≤ c.toNat ∧ c.toNat < 103 then some (c.toNat - 87)
  else if 65 ≤ c.toNat ∧ c.toNat < 71 then some (c.toNat - 55)
  else none

/-- The character that a one letter escape stands for. -/
def unescape? : Char → Option Char
  | '"' => some '"'
  | '\\' => some '\\'
  | '/' => some '/'
  | 'b' => some '\x08'
  | 'f' => some '\x0c'
  | 'n' => some '\n'
  | 'r' => some '\r'
  | 't' => some '\t'
  | _ => none

def isHighSurrogate (u : Nat) : Bool := 0xD800 ≤ u && u < 0xDC00

def isLowSurrogate (u : Nat) : Bool := 0xDC00 ≤ u && u < 0xE000

/-- The mode after a complete 16 bit unit of a string. -/
def joinUnit? (high : Option Nat) (done : List Char) (u : Nat) : Option Mode :=
  match high with
  | some h =>
    if isLowSurrogate u then
      some (.string none (Char.ofNat (0x10000 + (h - 0xD800) * 0x400 + (u - 0xDC00)) :: done))
    else none
  | none =>
    if isHighSurrogate u then some (.string (some u) done)
    else if isLowSurrogate u then none
    else some (.string none (Char.ofNat u :: done))

/-- The tokens read so far, the last one first, and what is being read. -/
structure Lexer where
  done : List Token
  mode : Mode

namespace Lexer

def start : Lexer := ⟨[], .between⟩

def begin? (done : List Token) (c : Char) : Option Lexer :=
  if isJsonBlank c then some ⟨done, .between⟩
  else match c with
    | '[' => some ⟨.openArray :: done, .between⟩
    | ']' => some ⟨.closeArray :: done, .between⟩
    | '{' => some ⟨.openObject :: done, .between⟩
    | '}' => some ⟨.closeObject :: done, .between⟩
    | ',' => some ⟨.comma :: done, .between⟩
    | ':' => some ⟨.colon :: done, .between⟩
    | '"' => some ⟨done, .string none []⟩
    | 'n' => some ⟨done, .word ['u', 'l', 'l'] .null⟩
    | 't' => some ⟨done, .word ['r', 'u', 'e'] (.bool true)⟩
    | 'f' => some ⟨done, .word ['a', 'l', 's', 'e'] (.bool false)⟩
    | _ => (NumberScan.start? c).map (⟨done, .number ·⟩)

/-- Reads one character. A number ends at the first character that does not continue it. -/
def feed? (l : Lexer) (c : Char) : Option Lexer :=
  match l.mode with
  | .between => begin? l.done c
  | .word [] _ => none
  | .word (e :: left) token =>
    if c ≠ e then none
    else if left.isEmpty then some ⟨token :: l.done, .between⟩
    else some ⟨l.done, .word left token⟩
  | .number scan =>
    match scan.feed? c with
    | some scan => some ⟨l.done, .number scan⟩
    | none => scan.finish?.bind fun n => begin? (.number n :: l.done) c
  | .string high done =>
    if c = '\\' then some ⟨l.done, .escape high done⟩
    else if high.isSome then none
    else if c = '"' then some ⟨.string (String.ofList done.reverse) :: l.done, .between⟩
    else if c.toNat < 32 then none
    else some ⟨l.done, .string none (c :: done)⟩
  | .escape high done =>
    if c = 'u' then some ⟨l.done, .unit high done 0 4⟩
    else if high.isSome then none
    else (unescape? c).map fun c => ⟨l.done, .string none (c :: done)⟩
  | .unit high done value left =>
    (hexDigit? c).bind fun d =>
      if left = 1 then (joinUnit? high done (16 * value + d)).map (⟨l.done, ·⟩)
      else some ⟨l.done, .unit high done (16 * value + d) (left - 1)⟩

def finish? (l : Lexer) : Option (List Token) :=
  match l.mode with
  | .between => some l.done.reverse
  | .number scan => scan.finish?.map fun n => (.number n :: l.done).reverse
  | _ => none

end Lexer

def Token.scan? (cs : List Char) : Option (List Token) :=
  (cs.foldlM Lexer.feed? Lexer.start).bind Lexer.finish?

def hexChar (n : Nat) : Char := Nat.digitChar n

/-- One character of a string as it is written: only a quote, a backslash and the controls below
the blank are escaped. -/
def escapeChar (c : Char) : List Char :=
  if c = '"' then ['\\', '"']
  else if c = '\\' then ['\\', '\\']
  else if c = '\x08' then ['\\', 'b']
  else if c = '\x0c' then ['\\', 'f']
  else if c = '\n' then ['\\', 'n']
  else if c = '\r' then ['\\', 'r']
  else if c = '\t' then ['\\', 't']
  else if c.toNat < 32 then ['\\', 'u', '0', '0', hexChar (c.toNat / 16), hexChar (c.toNat % 16)]
  else [c]

def Token.chars : Token → List Char
  | .openArray => ['[']
  | .closeArray => [']']
  | .openObject => ['{']
  | .closeObject => ['}']
  | .comma => [',']
  | .colon => [':']
  | .null => ['n', 'u', 'l', 'l']
  | .bool true => ['t', 'r', 'u', 'e']
  | .bool false => ['f', 'a', 'l', 's', 'e']
  | .number n => n.chars
  | .string s => '"' :: (s.toList.flatMap escapeChar ++ ['"'])

end CentralSystem.Json
