import FunctionalSize.Json.Token

set_option autoImplicit false

namespace FunctionalSize

namespace Json

def maxDepth : Nat := 127

/-- An open container whose next item is being read; items are kept last first. -/
inductive Frame where
  | array (items : List Json)
  | object (members : List (String × Json)) (key : String)
deriving Inhabited

inductive Parser where
  | value (stack : List Frame)
  | firstItem (stack : List Frame)
  | firstKey (stack : List Frame)
  | key (members : List (String × Json)) (stack : List Frame)
  | colon (members : List (String × Json)) (key : String) (stack : List Frame)
  | afterItem (items : List Json) (stack : List Frame)
  | afterMember (members : List (String × Json)) (stack : List Frame)
  /-- A value is complete; `clean` while no token followed it. -/
  | done (value : Json) (clean : Bool)
  | failed
deriving Inhabited

namespace Parser

def deliver (v : Json) : List Frame → Parser
  | [] => done v true
  | .array items :: stack => afterItem (v :: items) stack
  | .object members k :: stack => afterMember ((k, v) :: members) stack

def begin (stack : List Frame) : Token → Parser
  | .null => deliver .null stack
  | .bool b => deliver (.bool b) stack
  | .number n => deliver (.number n) stack
  | .string s => deliver (.string s) stack
  | .arrayOpen => if stack.length < maxDepth then firstItem stack else failed
  | .objectOpen => if stack.length < maxDepth then firstKey stack else failed
  | _ => failed

def step : Parser → Token → Parser
  | value stack, t => begin stack t
  | firstItem stack, .arrayClose => deliver (.array []) stack
  | firstItem stack, t => begin (.array [] :: stack) t
  | firstKey stack, .objectClose => deliver (.object []) stack
  | firstKey stack, .string k => colon [] k stack
  | key members stack, .string k => colon members k stack
  | colon members k stack, .colon => value (.object members k :: stack)
  | afterItem items stack, .comma => value (.array items :: stack)
  | afterItem items stack, .arrayClose => deliver (.array items.reverse) stack
  | afterMember members stack, .comma => key members stack
  | afterMember members stack, .objectClose => deliver (.object members.reverse) stack
  | done v _, _ => done v false
  | _, _ => failed

end Parser

/-- The first value of a text, and whether nothing but blanks follows it. -/
def readFirst (text : String) : Option (Json × Bool) :=
  match (tokens text).foldl Parser.step (.value []) with
  | .done v clean => some (v, clean)
  | _ => none

def syntaxMessage : String := "JSON syntax error"

def parse? (text : String) : Option Json :=
  match readFirst text with
  | some (v, true) => some v
  | _ => none

end Json

end FunctionalSize
