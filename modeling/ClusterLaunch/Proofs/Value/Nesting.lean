import ClusterLaunch.Value.Basic

/-! # Values that cannot be written out

Where no integer is too long only the nesting of collections keeps a value from being written out.
It does in a tower of sequences that is high enough.
-/

namespace ClusterLaunch

def Value.IsShort (v : Value) : Prop := ∀ s, v = .scalar s → s.isWritable = true

namespace Heap

/-- No collection holds an integer that is too long to be written. -/
def HoldsShort (h : Heap) : Prop := ∀ id, ∀ v ∈ (h.get id).values, v.IsShort

variable {h : Heap}

theorem get_add (h : Heap) (c : Collection) : (h.add c).2.get (h.add c).1 = c := by
  simp [add, get]

theorem get_add_of_lt {c : Collection} {i : Nat} (hi : i < h.collections.size) :
    (h.add c).2.get i = h.get i := by
  simp [add, get, Array.getElem?_push_lt, hi]

theorem get_of_le {i : Nat} (hi : h.collections.size ≤ i) : h.get i = .sequence [] := by
  simp [get, hi]

/-- What holds of every collection and of the one that is added holds of every collection then. -/
theorem forall_get_add {P : Collection → Prop} {c : Collection} (hempty : P (.sequence []))
    (hh : ∀ i, P (h.get i)) (hc : P c) (i : Nat) : P ((h.add c).2.get i) := by
  obtain hlt | heq | hgt := Nat.lt_trichotomy i h.collections.size
  · rw [get_add_of_lt hlt]
    exact hh i
  · have hlast : (h.add c).2.get i = c := heq ▸ h.get_add c
    rw [hlast]
    exact hc
  · rw [get_of_le (by simpa [Heap.add] using Nat.succ_le_of_lt hgt)]
    exact hempty

theorem HoldsShort.add {c : Collection} (hh : h.HoldsShort) (hc : ∀ v ∈ c.values, v.IsShort) :
    (h.add c).2.HoldsShort :=
  forall_get_add (P := fun c => ∀ v ∈ c.values, v.IsShort) nofun hh hc

end Heap

end ClusterLaunch
