import FunctionalSize.Report
import FunctionalSize.Proofs.ByteOrder
import FunctionalSize.Proofs.Movements
import FunctionalSize.Proofs.StableSort
import Mathlib.Data.List.Nodup

set_option autoImplicit false

namespace FunctionalSize

open Std

namespace FunctionalProcess

instance : TransCmp order :=
  inferInstanceAs (TransCmp (compareLex (compareOn name) (compareOn source)))

variable {a b : FunctionalProcess}

end FunctionalProcess

namespace Report

theorem processes_ofProcesses_map {α : Type} {le : α → α → Bool} {f : α → FunctionalProcess}
    (hle : ∀ a b, le a b = ((f a).order (f b)).isLE) (l : List α) :
    (ofProcesses (l.map f)).processes = (l.mergeSort le).map f :=
  (List.map_mergeSort fun a _ b _ => hle a b).symm

theorem ofProcesses_of_sorted {processes : List FunctionalProcess}
    (h : processes.Pairwise fun a b => (a.order b).isLE = true) :
    ofProcesses processes = ⟨(processes.map FunctionalProcess.movements).sum, processes⟩ := by
  unfold ofProcesses
  rw [List.mergeSort_of_pairwise h, List.sum_eq_foldl, List.foldl_map]

theorem totals_ofProcesses (processes : List FunctionalProcess) :
    (ofProcesses processes).totals
      = ((ofProcesses processes).processes.map FunctionalProcess.movements).sum := by
  change (processes.mergeSort _).foldl _ 0 = ((processes.mergeSort _).map _).sum
  rw [List.sum_eq_foldl, List.foldl_map]

def handlers : List FunctionalProcess :=
  [⟨"main.z", "b.go:3", ⟨1, 0, 2, 0⟩, 2⟩, ⟨"main.é", "a.go:9", ⟨1, 1, 0, 0⟩, 1⟩,
    ⟨"main.z", "a.go:7", ⟨1, 0, 0, 4⟩, 3⟩]

end Report

end FunctionalSize
