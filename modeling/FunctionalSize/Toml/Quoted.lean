import FunctionalSize.Toml.Scalar

set_option autoImplicit false

namespace FunctionalSize

namespace Toml

/-- Characters that may stand in comments and strings: no control characters but the tab. -/
def isPrintable (c : Char) : Bool := c == '\t' || (' ' ≤ c && c != '\x7f')

namespace Quoted

def codePoint? (digits : List Char) : Option Char := do
  let n ← digits.foldlM (fun n c => (digitIn? 16 c).map (n * 16 + ·)) 0
  if n.isValidChar then some (Char.ofNat n) else none

def escaped? : Char → Option Char
  | 'b' => some '\x08'
  | 't' => some '\t'
  | 'n' => some '\n'
  | 'f' => some '\x0c'
  | 'r' => some '\r'
  | 'e' => some '\x1b'
  | '"' => some '"'
  | '\\' => some '\\'
  | _ => none

def escape? : List Char → Option (Char × List Char)
  | 'x' :: a :: b :: rest => (codePoint? [a, b]).map (·, rest)
  | 'u' :: a :: b :: c :: d :: rest => (codePoint? [a, b, c, d]).map (·, rest)
  | 'U' :: a :: b :: c :: d :: e :: f :: g :: h :: rest =>
    (codePoint? [a, b, c, d, e, f, g, h]).map (·, rest)
  | c :: rest => (escaped? c).map (·, rest)
  | [] => none

def finish (chars : List Char) (rest : List Char) : Option (String × List Char) :=
  some (String.ofList chars.reverse, rest)

def basic (fuel : Nat) (chars : List Char) (text : List Char) : Option (String × List Char) :=
  match fuel, text with
  | _, '"' :: rest => finish chars rest
  | fuel + 1, '\\' :: rest =>
    match escape? rest with
    | some (c, rest) => basic fuel (c :: chars) rest
    | none => none
  | fuel + 1, c :: rest => if isPrintable c then basic fuel (c :: chars) rest else none
  | _, _ => none

def literal (chars : List Char) : List Char → Option (String × List Char)
  | '\'' :: rest => finish chars rest
  | c :: rest => if isPrintable c then literal (c :: chars) rest else none
  | [] => none

def skipSpace : List Char → List Char
  | ' ' :: rest | '\t' :: rest | '\n' :: rest => skipSpace rest
  | '\r' :: '\n' :: rest => skipSpace rest
  | text => text

def escapedLineEnd? (text : List Char) : Option (List Char) :=
  match text.dropWhile fun c => c == ' ' || c == '\t' with
  | '\n' :: rest => some (skipSpace rest)
  | '\r' :: '\n' :: rest => some (skipSpace rest)
  | _ => none

def dropLineEnd : List Char → List Char
  | '\n' :: rest => rest
  | '\r' :: '\n' :: rest => rest
  | text => text

/-- The end of a string in triple quotes; one or two more quotes in front belong to it. -/
def closing? (quote : Char) : List Char → Option (List Char × List Char)
  | a :: b :: c :: rest =>
    if a = quote ∧ b = quote ∧ c = quote then
      match rest with
      | d :: e :: more =>
        if d = quote ∧ e = quote then some ([quote, quote], more)
        else if d = quote then some ([quote], e :: more)
        else some ([], rest)
      | [d] => if d = quote then some ([quote], []) else some ([], rest)
      | [] => some ([], [])
    else none
  | _ => none

def multiLine (quote : Char) (escapes : Bool) (fuel : Nat) (chars : List Char)
    (text : List Char) : Option (String × List Char) :=
  match closing? quote text with
  | some (quotes, rest) => finish (quotes ++ chars) rest
  | none =>
    match fuel, text with
    | fuel + 1, '\r' :: '\n' :: rest =>
      multiLine quote escapes fuel ('\n' :: '\r' :: chars) rest
    | fuel + 1, '\n' :: rest => multiLine quote escapes fuel ('\n' :: chars) rest
    | fuel + 1, c :: rest =>
      if c = '\\' ∧ escapes then
        match escapedLineEnd? rest with
        | some rest => multiLine quote escapes fuel chars rest
        | none =>
          match escape? rest with
          | some (e, rest) => multiLine quote escapes fuel (e :: chars) rest
          | none => none
      else if isPrintable c then multiLine quote escapes fuel (c :: chars) rest
      else none
    | _, _ => none

def line? : List Char → Option (String × List Char)
  | '"' :: rest => basic rest.length [] rest
  | '\'' :: rest => literal [] rest
  | _ => none

def read? : List Char → Option (String × List Char)
  | '"' :: '"' :: '"' :: rest => multiLine '"' true rest.length [] (dropLineEnd rest)
  | '\'' :: '\'' :: '\'' :: rest => multiLine '\'' false rest.length [] (dropLineEnd rest)
  | text => line? text

end Quoted

end Toml

end FunctionalSize
