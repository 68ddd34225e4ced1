set_option autoImplicit false

namespace FunctionalSize

namespace Toml

inductive Float where
  | infinite
  | notANumber
  | finite (significand : Nat) (exponent : Int)
deriving DecidableEq, Repr, Inhabited

/-- The least number that rounds to an infinite double. -/
def doubleLimit : Nat := Nat.pow 2 1024 - Nat.pow 2 970

namespace Float

/-- Whether a finite number is too large for a double. Powers are only formed where the number of
digits leaves the answer open. -/
def overflows : Float → Bool
  | finite significand exponent =>
    let size : Int := (Nat.toDigits 10 significand).length + exponent
    if significand = 0 ∨ size < 300 then false
    else if 310 < size then true
    else if 0 ≤ exponent then doubleLimit ≤ significand * Nat.pow 10 exponent.toNat
    else doubleLimit * Nat.pow 10 exponent.natAbs ≤ significand
  | _ => false

end Float

inductive Value where
  | string (text : String)
  | integer (value : Int)
  | float (value : Float)
  | boolean (value : Bool)
  | dateTime (text : String)
  | array (items : List Value)
  | table (members : List (String × Value))
deriving Inhabited

namespace Value

mutual

def isReadable : Value → Bool
  | integer n => decide (-2 ^ 127 ≤ n ∧ n < 2 ^ 128)
  | float f => !f.overflows
  | array items => areReadable items
  | table members => membersReadable members
  | _ => true

def areReadable : List Value → Bool
  | [] => true
  | v :: rest => v.isReadable && areReadable rest

def membersReadable : List (String × Value) → Bool
  | [] => true
  | (_, v) :: rest => v.isReadable && membersReadable rest

end

def asString? : Value → Option String
  | string s => some s
  | _ => none

def asBool? : Value → Option Bool
  | boolean b => some b
  | _ => none

def asList? {α : Type} (read? : Value → Option α) : Value → Option (List α)
  | array items => items.mapM read?
  | _ => none

def asMap? {α : Type} (read? : Value → Option α) : Value → Option (List (String × α))
  | table members => members.mapM fun (key, v) => (read? v).map (key, ·)
  | _ => none

def asName? : Value → Option String
  | string s => some s
  | table [(name, array [])] => some name
  | table [(name, table [])] => some name
  | _ => none

/-- The named fields of a record. A table may hold other keys with readable values. An array gives
the fields in order; it may stop early, and what is too much is not looked at. A date is a record
without any of the fields. -/
def fields? (names : List String) : Value → Option (List (Option Value))
  | table members =>
    if membersReadable (members.filter fun (key, _) => key ∉ names) then
      some (names.map fun name => members.lookup name)
    else none
  | array items =>
    some ((items.take names.length).map some
      ++ List.replicate (names.length - items.length) none)
  | dateTime _ => some (names.map fun _ => none)
  | _ => none

def optional {α : Type} (read? : Value → Option α) : Option Value → Option (Option α)
  | none => some none
  | some v => (read? v).map some

end Value

end Toml

end FunctionalSize
