set_option autoImplicit false

/-!
# Byte order

Texts are ordered character by character. That is the order of their bytes in UTF-8: a character
with a longer code has a larger first byte, and codes of one length are numerals whose digits hold
six bits each. So the smaller of two characters has the code that comes first, and it does so
whatever follows the codes.
-/

namespace FunctionalSize.Text

open Std

def leading : Nat → Nat → Nat
  | 0, v => v
  | k + 1, v => leading k (v / 64)

def mark : Nat → Nat
  | 0 => 0
  | 1 => 0xc0
  | 2 => 0xe0
  | 3 => 0xf0
  | _ => 0xf8

end FunctionalSize.Text
