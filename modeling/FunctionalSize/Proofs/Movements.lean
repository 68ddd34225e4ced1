import FunctionalSize.Category
import Mathlib.Algebra.Order.BigOperators.Group.List
import Mathlib.Algebra.Ring.Nat
import Mathlib.Data.UInt

set_option autoImplicit false

namespace FunctionalSize

namespace Movements

instance : AddCommMonoid Movements where
  add_assoc a b c := by
    ext d
    simp only [count_add]
    omega
  zero_add a := by
    ext d
    simp only [count_add, count_zero]
    omega
  add_zero a := by
    ext d
    simp only [count_add, count_zero]
    omega
  add_comm a b := by
    ext d
    simp only [count_add]
    omega
  nsmul := nsmulRec

instance : LE Movements := ⟨fun a b => ∀ c, a.count c ≤ b.count c⟩

instance : PartialOrder Movements where
  le_refl a c := Nat.le_refl _
  le_trans a b d hab hbd c := (hab c).trans (hbd c)
  le_antisymm a b hab hba := by
    ext c
    exact Nat.le_antisymm (hab c) (hba c)

instance : IsOrderedAddMonoid Movements where
  add_le_add_left a b hab d c := by
    simp only [count_add]
    exact Nat.add_le_add_right (hab c) _

theorem zero_le (m : Movements) : 0 ≤ m := by
  intro c
  rw [count_zero]
  exact Nat.zero_le _

theorem count_sum (ms : List Movements) (c : Category) :
    ms.sum.count c = (ms.map (·.count c)).sum := by
  induction ms with
  | nil => exact count_zero c
  | cons m ms ih => rw [List.sum_cons, count_add, ih, List.map_cons, List.sum_cons]

theorem sum_map_le_sum_map {α : Type} {xs ys : List α} (f : α → Movements) (hxs : xs.Nodup)
    (hsub : xs ⊆ ys) : (xs.map f).sum ≤ (ys.map f).sum := by
  obtain ⟨zs, hperm, hsublist⟩ := List.subperm_of_subset hxs hsub
  calc
    (xs.map f).sum = (zs.map f).sum := (hperm.map f).sum_eq.symm
    _ ≤ (ys.map f).sum := (hsublist.map f).sum_le_sum fun m _ => zero_le m

end Movements

end FunctionalSize
