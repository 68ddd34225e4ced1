import FunctionalSize.Json.Value

set_option autoImplicit false

/-!
# JSON tokens

The lexer reads a text character by character. Where the text stops being JSON it puts a `broken`
token and ignores the rest, so that whoever reads the tokens can still use those before it.

Strings must not hold control characters, and an escaped surrogate must be one half of a pair. A
number is refused when it overflows a double: its leading digits, as many as fit 64 bits, times
the power of ten that is left.
-/

namespace FunctionalSize

namespace Json

inductive Token where
  | arrayOpen
  | arrayClose
  | objectOpen
  | objectClose
  | comma
  | colon
  | null
  | bool (value : Bool)
  | number (value : Number)
  | string (value : String)
  | broken
deriving DecidableEq, Repr, Inhabited

structure Numeral where
  negative : Bool := false
  significand : Nat := 0
  scale : Nat := 0
  exponentNegative : Bool := false
  exponent : Nat := 0
deriving DecidableEq, Repr, Inhabited

namespace Numeral

def digit (n : Numeral) (d : Nat) : Numeral := { n with significand := n.significand * 10 + d }

def fractionDigit (n : Numeral) (d : Nat) : Numeral :=
  { n.digit d with scale := n.scale + 1 }

def exponentDigit (n : Numeral) (d : Nat) : Numeral := { n with exponent := n.exponent * 10 + d }

def power (n : Numeral) : Int :=
  (if n.exponentNegative then -(n.exponent : Int) else n.exponent) - n.scale

/-- Drops last digits until 64 bits suffice. -/
def leading (significand : Nat) (power : Int) : Nat × Int :=
  if significand < UInt64.size then (significand, power)
  else leading (significand / 10) (power + 1)
termination_by significand
decreasing_by
  have : 0 < UInt64.size := by decide
  omega

def overflows (significand : Nat) (power : Int) : Bool :=
  let (head, rest) := leading significand power
  if head = 0 ∨ rest < 0 then false
  else if 308 < rest then true
  else (head.toUInt64.toFloat * Float.ofScientific 1 false rest.toNat).isInf

def toInteger? (n : Numeral) : Option Number :=
  if n.significand < UInt64.size ∨ !overflows n.significand 0 then
    if n.negative then
      if n.significand = 0 then some (.decimal true 0 0) else some (.integer (-n.significand))
    else some (.integer n.significand)
  else none

def toDecimal? (n : Numeral) : Option Number :=
  if overflows n.significand n.power then none
  else some (.decimal n.negative n.significand n.power)

end Numeral

inductive Mode where
  | between
  | word (rest : List Char) (token : Token)
  | text (chars : List Char)
  | escape (chars : List Char)
  /-- In an escaped code unit with `digits` digits to come, after a first half of a pair. -/
  | unit (chars : List Char) (high : Option Nat) (digits value : Nat)
  | pairSlash (chars : List Char) (high : Nat)
  | pairMark (chars : List Char) (high : Nat)
  | minus
  | zero (n : Numeral)
  | whole (n : Numeral)
  | point (n : Numeral)
  | fraction (n : Numeral)
  | exponentMark (n : Numeral)
  | exponentSign (n : Numeral)
  | exponent (n : Numeral)
  | broken
deriving DecidableEq, Repr, Inhabited

def digit? (c : Char) : Option Nat :=
  if '0' ≤ c ∧ c ≤ '9' then some (c.toNat - '0'.toNat) else none

def hexDigit? (c : Char) : Option Nat :=
  if '0' ≤ c ∧ c ≤ '9' then some (c.toNat - '0'.toNat)
  else if 'a' ≤ c ∧ c ≤ 'f' then some (c.toNat - 'a'.toNat + 10)
  else if 'A' ≤ c ∧ c ≤ 'F' then some (c.toNat - 'A'.toNat + 10)
  else none

def isBlank (c : Char) : Bool := c == ' ' || c == '\n' || c == '\t' || c == '\r'

def escaped? : Char → Option Char
  | '"' => some '"'
  | '\\' => some '\\'
  | '/' => some '/'
  | 'b' => some '\x08'
  | 'f' => some '\x0c'
  | 'n' => some '\n'
  | 'r' => some '\r'
  | 't' => some '\t'
  | _ => none

structure Lexer where
  mode : Mode := .between
  tokens : List Token := []

namespace Lexer

def emit (l : Lexer) (t : Token) : Lexer := ⟨.between, t :: l.tokens⟩

def enter (l : Lexer) (mode : Mode) : Lexer := { l with mode }

def stop (l : Lexer) : Lexer := ⟨.broken, .broken :: l.tokens⟩

def begin (l : Lexer) (c : Char) : Lexer :=
  if isBlank c then l.enter .between
  else match c with
    | '[' => l.emit .arrayOpen
    | ']' => l.emit .arrayClose
    | '\x7b' => l.emit .objectOpen
    | '\x7d' => l.emit .objectClose
    | ',' => l.emit .comma
    | ':' => l.emit .colon
    | 'n' => l.enter (.word ['u', 'l', 'l'] .null)
    | 't' => l.enter (.word ['r', 'u', 'e'] (.bool true))
    | 'f' => l.enter (.word ['a', 'l', 's', 'e'] (.bool false))
    | '"' => l.enter (.text [])
    | '-' => l.enter .minus
    | '0' => l.enter (.zero {})
    | c => match digit? c with
      | some d => l.enter (.whole (Numeral.digit {} d))
      | none => l.stop

def emitNumber (l : Lexer) : Option Number → Lexer
  | some n => l.emit (.number n)
  | none => l.stop

def endNumber (l : Lexer) (n : Option Number) (c : Char) : Lexer :=
  match n with
  | some n => (l.emit (.number n)).begin c
  | none => l.stop

def endUnit (l : Lexer) (chars : List Char) (high : Option Nat) (value : Nat) : Lexer :=
  match high with
  | some high =>
    if 0xDC00 ≤ value ∧ value ≤ 0xDFFF then
      l.enter (.text
        (Char.ofNat (0x10000 + (high - 0xD800) * 0x400 + (value - 0xDC00)) :: chars))
    else l.stop
  | none =>
    if 0xD800 ≤ value ∧ value ≤ 0xDBFF then l.enter (.pairSlash chars value)
    else if 0xDC00 ≤ value ∧ value ≤ 0xDFFF then l.stop
    else l.enter (.text (Char.ofNat value :: chars))

def step (l : Lexer) (c : Char) : Lexer :=
  match l.mode with
  | .between => l.begin c
  | .word [] _ => l.stop
  | .word [last] token => if c = last then l.emit token else l.stop
  | .word (next :: rest) token => if c = next then l.enter (.word rest token) else l.stop
  | .text chars =>
    if c = '"' then l.emit (.string (String.ofList chars.reverse))
    else if c = '\\' then l.enter (.escape chars)
    else if c < ' ' then l.stop
    else l.enter (.text (c :: chars))
  | .escape chars =>
    if c = 'u' then l.enter (.unit chars none 4 0)
    else match escaped? c with
      | some e => l.enter (.text (e :: chars))
      | none => l.stop
  | .unit chars high digits value =>
    match hexDigit? c with
    | some d =>
      if digits ≤ 1 then l.endUnit chars high (value * 16 + d)
      else l.enter (.unit chars high (digits - 1) (value * 16 + d))
    | none => l.stop
  | .pairSlash chars high => if c = '\\' then l.enter (.pairMark chars high) else l.stop
  | .pairMark chars high =>
    if c = 'u' then l.enter (.unit chars (some high) 4 0) else l.stop
  | .minus =>
    match digit? c with
    | some 0 => l.enter (.zero { negative := true })
    | some d => l.enter (.whole (Numeral.digit { negative := true } d))
    | none => l.stop
  | .zero n =>
    if (digit? c).isSome then l.stop
    else if c = '.' then l.enter (.point n)
    else if c = 'e' ∨ c = 'E' then l.enter (.exponentMark n)
    else l.endNumber n.toInteger? c
  | .whole n =>
    match digit? c with
    | some d => l.enter (.whole (n.digit d))
    | none =>
      if c = '.' then l.enter (.point n)
      else if c = 'e' ∨ c = 'E' then l.enter (.exponentMark n)
      else l.endNumber n.toInteger? c
  | .point n =>
    match digit? c with
    | some d => l.enter (.fraction (n.fractionDigit d))
    | none => l.stop
  | .fraction n =>
    match digit? c with
    | some d => l.enter (.fraction (n.fractionDigit d))
    | none =>
      if c = 'e' ∨ c = 'E' then l.enter (.exponentMark n) else l.endNumber n.toDecimal? c
  | .exponentMark n =>
    if c = '+' then l.enter (.exponentSign n)
    else if c = '-' then l.enter (.exponentSign { n with exponentNegative := true })
    else match digit? c with
      | some d => l.enter (.exponent (n.exponentDigit d))
      | none => l.stop
  | .exponentSign n =>
    match digit? c with
    | some d => l.enter (.exponent (n.exponentDigit d))
    | none => l.stop
  | .exponent n =>
    match digit? c with
    | some d => l.enter (.exponent (n.exponentDigit d))
    | none => l.endNumber n.toDecimal? c
  | .broken => l

def finish (l : Lexer) : List Token :=
  let last := match l.mode with
    | .between | .broken => l
    | .zero n | .whole n => l.emitNumber n.toInteger?
    | .fraction n | .exponent n => l.emitNumber n.toDecimal?
    | _ => l.stop
  last.tokens.reverse

end Lexer

/-- Tokens of a text. A `broken` token can only be the last one. -/
def tokens (text : String) : List Token := (text.toList.foldl Lexer.step {}).finish

end Json

end FunctionalSize
