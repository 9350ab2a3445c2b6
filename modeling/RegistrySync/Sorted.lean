/-!
# Sorted lists as canonical forms

`sorted xs` lists the elements of `xs` in the order of their type. Where that order is total and
tells different elements apart, two lists sort to the same list exactly when they are permutations
of each other (`sorted_eq_sorted_iff`), so comparing sorted lists compares multisets.
-/

namespace RegistrySync

variable {α : Type} [Ord α]

/-- The elements in ascending order. -/
def sorted (xs : List α) : List α := xs.mergeSort fun a b => (compare a b).isLE

theorem sorted_perm (xs : List α) : (sorted xs).Perm xs := List.mergeSort_perm xs _

@[simp] theorem mem_sorted {xs : List α} {a : α} : a ∈ sorted xs ↔ a ∈ xs :=
  (sorted_perm xs).mem_iff

theorem isLE_total [Std.OrientedOrd α] (a b : α) : ((compare a b).isLE || (compare b a).isLE) := by
  have h : compare b a = (compare a b).swap := Std.OrientedCmp.eq_swap
  rw [h]
  cases compare a b <;> rfl

theorem eq_of_isLE_of_isLE [Std.OrientedOrd α] [Std.LawfulEqOrd α] {a b : α}
    (hab : (compare a b).isLE) (hba : (compare b a).isLE) : a = b := by
  have h : compare a b = .eq := Std.OrientedCmp.isLE_antisymm hab hba
  exact Std.LawfulEqCmp.eq_of_compare h

theorem sorted_pairwise [Std.TransOrd α] (xs : List α) :
    (sorted xs).Pairwise fun a b => (compare a b).isLE :=
  List.pairwise_mergeSort (fun _ _ _ => Std.TransCmp.isLE_trans) (fun a b => isLE_total a b) xs

/-- Lists sort alike exactly when they are permutations of each other. -/
theorem sorted_eq_sorted_iff [Std.TransOrd α] [Std.LawfulEqOrd α] {xs ys : List α} :
    sorted xs = sorted ys ↔ xs.Perm ys := by
  constructor
  · intro h
    exact (sorted_perm xs).symm.trans (h ▸ sorted_perm ys)
  · intro h
    have hp : (sorted xs).Perm (sorted ys) :=
      (sorted_perm xs).trans (h.trans (sorted_perm ys).symm)
    exact hp.eq_of_pairwise
      (fun _ _ _ _ hab hba => eq_of_isLE_of_isLE hab hba)
      (sorted_pairwise xs) (sorted_pairwise ys)

end RegistrySync
