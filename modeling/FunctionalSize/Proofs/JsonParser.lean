import FunctionalSize.Json.Parser
import FunctionalSize.Proofs.JsonLexer

set_option autoImplicit false

namespace FunctionalSize

namespace Json

mutual

def spelling : Json → List Token
  | null => [.null]
  | bool b => [.bool b]
  | number n => [.number n]
  | string s => [.string s]
  | array items => .arrayOpen :: (itemsSpelling items ++ [.arrayClose])
  | object members => .objectOpen :: (membersSpelling members ++ [.objectClose])

def itemsSpelling : List Json → List Token
  | [] => []
  | [j] => spelling j
  | j :: rest => spelling j ++ .comma :: itemsSpelling rest

def membersSpelling : List (String × Json) → List Token
  | [] => []
  | [(k, j)] => .string k :: .colon :: spelling j
  | (k, j) :: rest => .string k :: .colon :: (spelling j ++ .comma :: membersSpelling rest)

end

theorem itemsSpelling_cons (j k : Json) (rest : List Json) :
    itemsSpelling (j :: k :: rest) = j.spelling ++ .comma :: itemsSpelling (k :: rest) :=
  itemsSpelling.eq_3 j (k :: rest) (by simp)

theorem membersSpelling_cons (m m' : String × Json) (rest : List (String × Json)) :
    membersSpelling (m :: m' :: rest) =
      .string m.1 :: .colon :: (m.2.spelling ++ .comma :: membersSpelling (m' :: rest)) :=
  membersSpelling.eq_3 m.1 m.2 (m' :: rest) (by simp)

def Writes (j : Json) (text : String) : Prop := Spells j.spelling text.toList

/-- Values with natural numbers of 64 bits only, inside at most `depth` containers. -/
inductive Plain : Nat → Json → Prop where
  | null {depth : Nat} : Plain depth null
  | bool {depth : Nat} (b : Bool) : Plain depth (bool b)
  | natural {depth n : Nat} (h : n < UInt64.size) : Plain depth (number (.integer n))
  | string {depth : Nat} (s : String) : Plain depth (string s)
  | array {depth : Nat} {items : List Json} (h : ∀ j ∈ items, Plain depth j) :
      Plain (depth + 1) (array items)
  | object {depth : Nat} {members : List (String × Json)} (h : ∀ m ∈ members, Plain depth m.2) :
      Plain (depth + 1) (object members)

namespace Parser

theorem foldl_firstItem (j : Json) (rest : List Json) (stack : List Frame) :
    (itemsSpelling (j :: rest)).foldl step (firstItem stack) =
      (itemsSpelling (j :: rest)).foldl step (value (.array [] :: stack)) := by
  have hj : j.spelling.foldl step (firstItem stack)
      = j.spelling.foldl step (value (.array [] :: stack)) := by
    cases j <;> rw [spelling] <;> rfl
  cases rest with
  | nil => rw [itemsSpelling, hj]
  | cons k rest => rw [itemsSpelling_cons, List.foldl_append, List.foldl_append, hj]

theorem foldl_firstKey (m : String × Json) (rest : List (String × Json)) (stack : List Frame) :
    (membersSpelling (m :: rest)).foldl step (firstKey stack) =
      (membersSpelling (m :: rest)).foldl step (key [] stack) := by
  cases rest with
  | nil => rw [membersSpelling]; rfl
  | cons m' rest => rw [membersSpelling_cons]; rfl

theorem foldl_items {items : List Json} {stack : List Frame} (hne : items ≠ [])
    (h : ∀ j ∈ items, ∀ done, j.spelling.foldl step (value (.array done :: stack))
      = afterItem (j :: done) stack) (done : List Json) :
    (itemsSpelling items).foldl step (value (.array done :: stack)) =
      afterItem (items.reverse ++ done) stack := by
  induction items generalizing done with
  | nil => contradiction
  | cons j rest ih =>
    have hj := h j List.mem_cons_self done
    cases rest with
    | nil =>
      rw [itemsSpelling]
      exact hj
    | cons k rest =>
      have hcomma : step (afterItem (j :: done) stack) .comma
          = value (.array (j :: done) :: stack) := rfl
      have hrest := ih (by simp) (fun j' hj' => h j' (List.mem_cons_of_mem j hj')) (j :: done)
      rw [itemsSpelling_cons, List.foldl_append, hj, List.foldl_cons, hcomma, hrest]
      simp

theorem foldl_members {members : List (String × Json)} {stack : List Frame} (hne : members ≠ [])
    (h : ∀ m ∈ members, ∀ done k, m.2.spelling.foldl step (value (.object done k :: stack))
      = afterMember ((k, m.2) :: done) stack) (done : List (String × Json)) :
    (membersSpelling members).foldl step (key done stack) =
      afterMember (members.reverse ++ done) stack := by
  induction members generalizing done with
  | nil => contradiction
  | cons m rest ih =>
    have hm := h m List.mem_cons_self done m.1
    cases rest with
    | nil =>
      rw [membersSpelling]
      exact hm
    | cons m' rest =>
      have hkey : step (step (key done stack) (.string m.1)) .colon
          = value (.object done m.1 :: stack) := rfl
      have hcomma : step (afterMember (m :: done) stack) .comma = key (m :: done) stack := rfl
      have hrest := ih (by simp) (fun n hn => h n (List.mem_cons_of_mem m hn)) (m :: done)
      rw [membersSpelling_cons, List.foldl_cons, List.foldl_cons, hkey, List.foldl_append, hm,
        List.foldl_cons, hcomma, hrest]
      simp

theorem foldl_spelling {depth : Nat} {j : Json} (h : Plain depth j) (stack : List Frame)
    (hdepth : stack.length + depth ≤ maxDepth) :
    j.spelling.foldl step (value stack) = deliver j stack := by
  -- each container moves one level from `depth` to the stack, so the bound is kept
  induction h generalizing stack with
  | null | bool | natural | string => rw [spelling]; rfl
  | @array depth items _ ih =>
    have hopen : step (value stack) .arrayOpen = firstItem stack := if_pos (by omega)
    rw [spelling, List.foldl_cons, hopen, List.foldl_append]
    cases items with
    | nil => rw [itemsSpelling]; rfl
    | cons j rest =>
      have hitem : ∀ j' ∈ j :: rest, ∀ done, j'.spelling.foldl step (value (.array done :: stack))
          = afterItem (j' :: done) stack :=
        fun j' hj' done => ih j' hj' (.array done :: stack) (by rw [List.length_cons]; omega)
      rw [foldl_firstItem, foldl_items (List.cons_ne_nil j rest) hitem]
      simp [step]
  | @object depth members _ ih =>
    have hopen : step (value stack) .objectOpen = firstKey stack := if_pos (by omega)
    rw [spelling, List.foldl_cons, hopen, List.foldl_append]
    cases members with
    | nil => rw [membersSpelling]; rfl
    | cons m rest =>
      have hmember : ∀ m' ∈ m :: rest, ∀ done k,
          m'.2.spelling.foldl step (value (.object done k :: stack))
            = afterMember ((k, m'.2) :: done) stack :=
        fun m' hm' done k => ih m' hm' (.object done k :: stack) (by rw [List.length_cons]; omega)
      rw [foldl_firstKey, foldl_members (List.cons_ne_nil m rest) hmember]
      simp [step]

end Parser

theorem readFirst_of_writes {depth : Nat} {j : Json} {text : String} (hj : Plain depth j)
    (hdepth : depth ≤ maxDepth) (h : Writes j text) : readFirst text = some (j, true) := by
  have hdone := Parser.foldl_spelling hj [] (by simpa using hdepth)
  simp only [readFirst, tokens_of_spells h, hdone]
  rfl

end Json

end FunctionalSize
