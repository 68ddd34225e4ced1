import FunctionalSize.Toml.Value

set_option autoImplicit false

namespace FunctionalSize

namespace Toml

def digitIn? (base : Nat) (c : Char) : Option Nat :=
  let value : Option Nat :=
    if '0' ≤ c ∧ c ≤ '9' then some (c.toNat - '0'.toNat)
    else if 'a' ≤ c ∧ c ≤ 'f' then some (c.toNat - 'a'.toNat + 10)
    else if 'A' ≤ c ∧ c ≤ 'F' then some (c.toNat - 'A'.toNat + 10)
    else none
  value.filter (· < base)

namespace Scalar

/-- Digits with single underscores between them, continuing a number. -/
def digitsFrom (base : Nat) : Nat → Bool → List Char → Option Nat
  | value, afterDigit, [] => if afterDigit then some value else none
  | value, afterDigit, '_' :: rest => if afterDigit then digitsFrom base value false rest else none
  | value, _, c :: rest =>
    match digitIn? base c with
    | some d => digitsFrom base (value * base + d) true rest
    | none => none

def digits? (base : Nat) (text : List Char) : Option Nat := digitsFrom base 0 false text

def decimal? : List Char → Option Nat
  | ['0'] => some 0
  | '0' :: _ => none
  | text => digits? 10 text

def splitSign : List Char → Bool × List Char
  | '-' :: rest => (true, rest)
  | '+' :: rest => (false, rest)
  | text => (false, text)

def integer? (text : List Char) : Option Value :=
  match text with
  | '0' :: 'x' :: rest => (digits? 16 rest).map fun n => .integer n
  | '0' :: 'o' :: rest => (digits? 8 rest).map fun n => .integer n
  | '0' :: 'b' :: rest => (digits? 2 rest).map fun n => .integer n
  | _ =>
    let (negative, rest) := splitSign text
    (decimal? rest).map fun n => .integer (if negative then -(n : Int) else n)

def cutAt (test : Char → Bool) (text : List Char) : List Char × Option (List Char) :=
  match text.dropWhile (!test ·) with
  | [] => (text, none)
  | _ :: rest => (text.takeWhile (!test ·), some rest)

def float? (text : List Char) : Option Value := do
  let (_, unsigned) := splitSign text
  if unsigned = ['i', 'n', 'f'] then return .float .infinite
  if unsigned = ['n', 'a', 'n'] then return .float .notANumber
  let (mantissa, exponent) := cutAt (fun c => c == 'e' || c == 'E') unsigned
  let (whole, fraction) := cutAt (· == '.') mantissa
  if exponent.isNone ∧ fraction.isNone then none
  let wholeValue ← decimal? whole
  let (significand, scale) ← match fraction with
    | none => some (wholeValue, 0)
    | some places => do
      let _ ← digits? 10 places
      let plain := places.filter (· != '_')
      some ((← digitsFrom 10 wholeValue true plain), plain.length)
  let power : Int ← match exponent with
    | none => some 0
    | some signed => do
      let (negative, rest) := splitSign signed
      let n ← digits? 10 rest
      some (if negative then -(n : Int) else (n : Int))
  return .float (.finite significand (power - scale))

def pair? (a b : Char) : Option Nat := do
  return (← digitIn? 10 a) * 10 + (← digitIn? 10 b)

def daysIn (year month : Nat) : Nat :=
  if month = 2 then
    if year % 4 = 0 ∧ (year % 100 ≠ 0 ∨ year % 400 = 0) then 29 else 28
  else if month = 4 ∨ month = 6 ∨ month = 9 ∨ month = 11 then 30
  else 31

def date? : List Char → Option (List Char)
  | y₁ :: y₂ :: y₃ :: y₄ :: '-' :: m₁ :: m₂ :: '-' :: d₁ :: d₂ :: rest => do
    let year := (← pair? y₁ y₂) * 100 + (← pair? y₃ y₄)
    let month ← pair? m₁ m₂
    let day ← pair? d₁ d₂
    if 1 ≤ month ∧ month ≤ 12 ∧ 1 ≤ day ∧ day ≤ daysIn year month then some rest else none
  | _ => none

def seconds? : List Char → Option (List Char)
  | ':' :: s₁ :: s₂ :: rest => do
    if 60 < (← pair? s₁ s₂) then none
    match rest with
    | '.' :: places =>
      if (places.takeWhile Char.isDigit).isEmpty then none
      else some (places.dropWhile Char.isDigit)
    | _ => some rest
  | ':' :: _ => none
  | rest => some rest

def time? : List Char → Option (List Char)
  | h₁ :: h₂ :: ':' :: m₁ :: m₂ :: rest => do
    if 23 < (← pair? h₁ h₂) ∨ 59 < (← pair? m₁ m₂) then none
    seconds? rest
  | _ => none

def isOffset : List Char → Bool
  | [] => true
  | [z] => z == 'Z' || z == 'z'
  | [sign, h₁, h₂, ':', m₁, m₂] =>
    (sign == '+' || sign == '-')
      && (pair? h₁ h₂).any (· ≤ 23) && (pair? m₁ m₂).any (· ≤ 59)
  | _ => false

def isDateTime (text : List Char) : Bool :=
  match date? text with
  | some [] => true
  | some (sep :: rest) =>
    (sep == 'T' || sep == 't' || sep == ' ') && (time? rest).any isOffset
  | none => time? text == some []

def parse? (text : List Char) : Option Value :=
  if text = ['t', 'r', 'u', 'e'] then some (.boolean true)
  else if text = ['f', 'a', 'l', 's', 'e'] then some (.boolean false)
  else if isDateTime text then some (.dateTime (String.ofList text))
  else (integer? text).or (float? text)

def isScalarChar (c : Char) : Bool :=
  c.isAlphanum || c == '+' || c == '-' || c == '_' || c == '.' || c == ':'

/-- Reads an unquoted value. A blank may stand between a date and a time. -/
def read? (text : List Char) : Option (Value × List Char) :=
  let word := text.takeWhile isScalarChar
  let rest := text.dropWhile isScalarChar
  match date? word, rest with
  | some [], ' ' :: d :: more =>
    if d.isDigit then
      let time := (d :: more).takeWhile isScalarChar
      (parse? (word ++ ' ' :: time)).map (·, (d :: more).dropWhile isScalarChar)
    else (parse? word).map (·, rest)
  | _, _ => (parse? word).map (·, rest)

end Scalar

end Toml

end FunctionalSize
