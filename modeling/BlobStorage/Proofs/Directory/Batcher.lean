import BlobStorage.Directory.Batcher
import Mathlib.Algebra.Group.Action.Defs
import Mathlib.Algebra.BigOperators.Group.List.Basic

/-!
Batches of a fixed size. However the items come in, what is cut off as soon as it fills a batch is
what would be cut off the whole at the end.
-/
namespace BlobStorage.Directory
variable {α : Type} {size : Nat}

/-- Batches that cover the items in order, all of them full but the last. -/
structure Cut (size : Nat) (items : List α) (batches : List (List α)) : Prop where
  whole : batches.flatten = items
  full : ∀ b ∈ batches.dropLast, b.length = size
  last : ∀ b ∈ batches.getLast?, 0 < b.length ∧ b.length ≤ size
  count : batches.length = (items.length + size - 1) / size

/-- All batches of the items, the last one too. -/
def allBatches (size : Nat) (items : List α) : List (List α) :=
  (cutFull size items).1 ++ lastBatch (cutFull size items).2

theorem cutFull_of_le (positive : 0 < size) {items : List α} (long : size ≤ items.length) :
    cutFull size items =
      (items.take size :: (cutFull size (items.drop size)).1,
        (cutFull size (items.drop size)).2) := by
  rw [cutFull, if_neg (by omega)]

theorem flatten_cutFull (size : Nat) (items : List α) :
    (cutFull size items).1.flatten ++ (cutFull size items).2 = items := by
  fun_induction cutFull size items with
  | case1 items short => rfl
  | case2 items long batches rest cut ih =>
      rw [cut] at ih
      simp [ih]

theorem length_of_mem_cutFull {items b : List α} (hb : b ∈ (cutFull size items).1) :
    b.length = size := by
  fun_induction cutFull size items with
  | case1 items short => cases hb
  | case2 items long batches rest cut ih =>
      cases List.mem_cons.mp hb with
      | inl first => simp [first]; omega
      | inr later => exact ih (cut ▸ later)

theorem allBatches_cases (size : Nat) (items : List α) :
    ((cutFull size items).2 = [] ∧ allBatches size items = (cutFull size items).1) ∨
      (0 < (cutFull size items).2.length ∧
        allBatches size items = (cutFull size items).1 ++ [(cutFull size items).2]) := by
  unfold allBatches lastBatch
  cases (cutFull size items).2 with
  | nil => exact .inl ⟨rfl, List.append_nil _⟩
  | cons item rest => exact .inr ⟨Nat.succ_pos _, rfl⟩

/-- Cutting what comes in first, and then the rest of it with what comes in later. -/
theorem cutFull_append (size : Nat) (first second : List α) :
    cutFull size (first ++ second) =
      ((cutFull size first).1 ++ (cutFull size ((cutFull size first).2 ++ second)).1,
        (cutFull size ((cutFull size first).2 ++ second)).2) := by
  fun_induction cutFull size first with
  | case1 first short => rfl
  | case2 first long batches rest cut ih =>
      have enough : size ≤ first.length := by omega
      rw [cut] at ih
      rw [cutFull_of_le (by omega) (by simp only [List.length_append]; omega),
        List.take_append_of_le_length enough, List.drop_append_of_le_length enough, ih]
      rfl

section Positive
variable (positive : 0 < size)
include positive

theorem length_rest_cutFull (items : List α) : (cutFull size items).2.length < size := by
  fun_induction cutFull size items with
  | case1 items short => simp; omega
  | case2 items long batches rest cut ih => simpa [cut] using ih

theorem length_allBatches (items : List α) :
    (allBatches size items).length = (items.length + size - 1) / size := by
  have whole := congrArg List.length (flatten_cutFull size items)
  have short := length_rest_cutFull positive items
  have filled : (cutFull size items).1.flatten.length = (cutFull size items).1.length * size := by
    rw [List.length_flatten, List.sum_eq_card_nsmul _ size, List.length_map, smul_eq_mul]
    intro n hn
    obtain ⟨b, hb, rfl⟩ := List.mem_map.mp hn
    exact length_of_mem_cutFull hb
  rw [List.length_append, filled] at whole
  symm
  obtain ⟨none, all⟩ | ⟨more, all⟩ := allBatches_cases size items
  · rw [none, List.length_nil, Nat.add_zero] at whole
    rw [all]
    apply Nat.div_eq_of_lt_le
    · omega
    · rw [Nat.succ_mul]
      omega
  · rw [all, List.length_append, List.length_singleton]
    apply Nat.div_eq_of_lt_le
    · rw [Nat.succ_mul]
      omega
    · rw [Nat.succ_mul, Nat.succ_mul]
      omega

theorem cut_allBatches (items : List α) : Cut size items (allBatches size items) := by
  have whole := flatten_cutFull size items
  have short := length_rest_cutFull positive items
  obtain ⟨none, all⟩ | ⟨more, all⟩ := allBatches_cases size items
  · refine ⟨?_, ?_, ?_, length_allBatches positive items⟩
    · rwa [all, ← List.append_nil (cutFull size items).1.flatten, ← none]
    · intro b hb
      rw [all] at hb
      exact length_of_mem_cutFull (List.dropLast_subset _ hb)
    · intro b hb
      rw [all] at hb
      have full := length_of_mem_cutFull (List.mem_of_getLast? hb)
      omega
  · refine ⟨?_, ?_, ?_, length_allBatches positive items⟩
    · rwa [all, List.flatten_append, List.flatten_singleton]
    · intro b hb
      rw [all, List.dropLast_concat] at hb
      exact length_of_mem_cutFull hb
    · intro b hb
      rw [all, List.getLast?_concat] at hb
      cases hb
      exact ⟨more, Nat.le_of_lt short⟩

/-- Batches cut off as the items come in are consecutive pieces of them all. -/
theorem pieces_eq_allBatches (items : List α) : Content.pieces size items = allBatches size items := by
  fun_induction Content.pieces size items with
  | case1 items none =>
      obtain rfl : items = [] := none.resolve_left (Nat.ne_of_gt positive)
      rw [allBatches, cutFull, if_pos (.inr positive)]
      rfl
  | case2 items more ih =>
      rw [ih]
      by_cases short : items.length < size
      · have all : items.drop size = [] := List.drop_eq_nil_of_le (Nat.le_of_lt short)
        have some_item : ¬ items.isEmpty = true := by simpa using fun is => more (.inr is)
        rw [all, List.take_of_length_le (Nat.le_of_lt short), allBatches, allBatches, cutFull,
          if_pos (.inr positive), cutFull, if_pos (.inr short), lastBatch, lastBatch,
          if_neg some_item]
        rfl
      · rw [allBatches, allBatches, cutFull_of_le positive (Nat.le_of_not_lt short)]
        rfl

theorem cut_pieces (items : List α) : Cut size items (Content.pieces size items) := by
  rw [pieces_eq_allBatches positive]
  exact cut_allBatches positive items

end Positive

example : allBatches 2 [1, 2, 3, 4, 5] = [[1, 2], [3, 4], [5]] := by cbv

end BlobStorage.Directory
