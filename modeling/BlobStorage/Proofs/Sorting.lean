import Mathlib.Data.List.Nodup
import Mathlib.Order.Lattice

/-!
Sorting by a key. Items with the same key stay in the order in which they came. Where no key comes twice,
the sorted list is the one arrangement in which the keys ascend, so it does not matter in which order the
items came.
-/
namespace BlobStorage.Sorting
variable {α β : Type} [LinearOrder β] {key : α → β} {le : α → α → Bool}

/-- The comparison is that of the keys. -/
def Compares (key : α → β) (le : α → α → Bool) : Prop := ∀ a b, le a b = true ↔ key a ≤ key b

/-- Only the comparisons of the items matter. -/
theorem mergeSort_congr {le' : α → α → Bool} {l : List α}
    (same : ∀ a ∈ l, ∀ b ∈ l, le a b = le' a b) : l.mergeSort le = l.mergeSort le' := by
  simpa using List.map_mergeSort (f := id) same

section
variable (compares : Compares key le)
include compares

theorem compares_trans (a b c : α) (hab : le a b = true) (hbc : le b c = true) : le a c = true :=
  (compares a c).mpr (le_trans ((compares a b).mp hab) ((compares b c).mp hbc))

theorem compares_total (a b : α) : (le a b || le b a) = true := by
  rw [Bool.or_eq_true, compares, compares]
  exact le_total _ _

theorem pairwise_le (l : List α) : (l.mergeSort le).Pairwise fun a b => key a ≤ key b :=
  (List.pairwise_mergeSort (compares_trans compares) (compares_total compares) l).imp
    fun h => (compares _ _).mp h

/-- Items with the same key stay in order. -/
theorem filter_mergeSort (l : List α) (k : β) :
    (l.mergeSort le).filter (fun a => decide (key a = k)) = l.filter fun a => decide (key a = k) := by
  have alike : (l.filter fun a => decide (key a = k)).Pairwise fun a b => le a b = true := by
    refine List.pairwise_of_forall_mem_list fun a ha b hb => (compares a b).mpr (le_of_eq ?_)
    rw [of_decide_eq_true (List.mem_filter.mp ha).2, of_decide_eq_true (List.mem_filter.mp hb).2]
  have kept := (List.sublist_mergeSort (compares_trans compares) (compares_total compares) alike
    List.filter_sublist).filter fun a => decide (key a = k)
  rw [List.filter_filter] at kept
  simp only [Bool.and_self] at kept
  exact (kept.eq_of_length
    (((List.mergeSort_perm l le).filter fun a => decide (key a = k)).length_eq).symm).symm

theorem pairwise_lt {l : List α} (distinct : (l.map key).Nodup) :
    (l.mergeSort le).Pairwise fun a b => key a < key b := by
  have apart : (l.mergeSort le).Pairwise fun a b => key a ≠ key b := by
    rw [← List.pairwise_map (f := key) (R := (· ≠ ·))]
    exact ((List.mergeSort_perm l le).map key).nodup_iff.mpr distinct
  exact ((pairwise_le compares l).and apart).imp fun h => lt_of_le_of_ne h.1 h.2

theorem mergeSort_eq {l l' : List α} (perm : l'.Perm l)
    (ascending : l'.Pairwise fun a b => key a < key b) : l.mergeSort le = l' := by
  have distinct : (l.map key).Nodup := by
    rw [← (perm.map key).nodup_iff, List.Nodup, List.pairwise_map]
    exact ascending.imp fun h => ne_of_lt h
  refine List.Perm.eq_of_pairwise ?_ (pairwise_lt compares distinct) ascending
    ((List.mergeSort_perm l le).trans perm.symm)
  intro a b _ _ hab hba
  exact absurd hba (lt_asymm hab)

theorem mergeSort_eq_of_perm {l l' : List α} (perm : l.Perm l') (distinct : (l.map key).Nodup) :
    l.mergeSort le = l'.mergeSort le :=
  (mergeSort_eq compares ((List.mergeSort_perm l le).trans perm)
    (pairwise_lt compares distinct)).symm

end
end BlobStorage.Sorting
