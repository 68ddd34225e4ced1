set_option autoImplicit false

namespace FunctionalSize

inductive Category where
  | registration
  | read
  | write
  | exit
deriving DecidableEq, Repr, Inhabited

namespace Category

def all : List Category := [registration, read, write, exit]

def name : Category → String
  | registration => "registration"
  | read => "read"
  | write => "write"
  | exit => "exit"

def ofName? (name : String) : Option Category := all.find? (·.name == name)

theorem mem_all (c : Category) : c ∈ all := by cases c <;> simp [all]

end Category

structure Labels where
  registration : Bool := false
  read : Bool := false
  write : Bool := false
  exit : Bool := false
deriving DecidableEq, Repr, Inhabited

namespace Labels

def none : Labels := {}

def contains (labels : Labels) : Category → Bool
  | .registration => labels.registration
  | .read => labels.read
  | .write => labels.write
  | .exit => labels.exit

def insert (labels : Labels) : Category → Labels
  | .registration => { labels with registration := true }
  | .read => { labels with read := true }
  | .write => { labels with write := true }
  | .exit => { labels with exit := true }

def ofPred (test : Category → Bool) : Labels where
  registration := test .registration
  read := test .read
  write := test .write
  exit := test .exit

def toList (labels : Labels) : List Category := Category.all.filter labels.contains

def size (labels : Labels) : Nat := labels.toList.length

def isEmpty (labels : Labels) : Bool := labels.toList.isEmpty

@[simp] theorem contains_none (c : Category) : none.contains c = false := by cases c <;> rfl

@[simp] theorem contains_ofPred (test : Category → Bool) (c : Category) :
    (ofPred test).contains c = test c := by cases c <;> rfl

theorem contains_insert (labels : Labels) (c d : Category) :
    (labels.insert c).contains d = (d == c || labels.contains d) := by
  cases c <;> cases d <;> rfl

theorem mem_toList {labels : Labels} {c : Category} :
    c ∈ labels.toList ↔ labels.contains c = true := by
  simp [toList, Category.mem_all]

end Labels

/-- Counts of the four kinds of data movement. They are exact; `Movements.Fits` says that each is a
number of 64 bits, as counters and documents hold it. -/
structure Movements where
  entries : Nat := 0
  exits : Nat := 0
  reads : Nat := 0
  writes : Nat := 0
deriving DecidableEq, Repr, Inhabited

namespace Movements

instance : Zero Movements := ⟨{}⟩

instance : Add Movements :=
  ⟨fun a b => ⟨a.entries + b.entries, a.exits + b.exits, a.reads + b.reads, a.writes + b.writes⟩⟩

/-- The functional size, as a sum of 64 bits: it starts again at zero when four counts that fit
add up to more. -/
def total (m : Movements) : Nat := (m.entries + m.exits + m.reads + m.writes) % UInt64.size

def isZero (m : Movements) : Bool := m.total == 0

def ofLabels (labels : Labels) : Movements where
  entries := labels.registration.toNat
  exits := labels.exit.toNat
  reads := labels.read.toNat
  writes := labels.write.toNat

def record (m : Movements) (labels : Labels) : Movements := m + ofLabels labels

def count (m : Movements) : Category → Nat
  | .registration => m.entries
  | .read => m.reads
  | .write => m.writes
  | .exit => m.exits

def Fits (m : Movements) : Prop := ∀ c, m.count c < UInt64.size

@[simp] theorem count_zero (c : Category) : (0 : Movements).count c = 0 := by cases c <;> rfl

@[simp] theorem count_add (a b : Movements) (c : Category) :
    (a + b).count c = a.count c + b.count c := by cases c <;> rfl

@[simp] theorem count_ofLabels (labels : Labels) (c : Category) :
    (ofLabels labels).count c = (labels.contains c).toNat := by cases c <;> rfl

@[ext] theorem ext_count {a b : Movements} (h : ∀ c, a.count c = b.count c) : a = b := by
  have hr := h .registration
  have hx := h .exit
  have hd := h .read
  have hw := h .write
  cases a
  cases b
  simp_all [count]

end Movements

end FunctionalSize
