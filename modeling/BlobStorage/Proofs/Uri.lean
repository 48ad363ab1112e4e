import BlobStorage.Proofs.Text.Percent
import BlobStorage.Uri
import Mathlib.Data.List.TakeDrop

/-!
Parsing an identifier that was put together from parts without marks in them.
-/
namespace BlobStorage.Uri
open Text.Percent

theorem span_append_cons (p : Char → Bool) (front : List Char) (mark : Char) (rest : List Char)
    (h : ∀ c ∈ front, p c = true) (stop : p mark = false) :
    (front ++ mark :: rest).span p = (front, mark :: rest) := by
  rw [List.span_eq_takeWhile_dropWhile, List.takeWhile_append_of_pos h,
    List.dropWhile_append_of_pos h]
  simp [stop]

theorem cutAt_append (mark : Char) (before after : List Char) (h : mark ∉ before) :
    cutAt mark (before ++ mark :: after) = (before, after) := by
  have other : ∀ c ∈ before, decide (c ≠ mark) = true := by
    intro c hc
    simp only [decide_eq_true_eq]
    exact fun same => h (same ▸ hc)
  rw [cutAt, span_append_cons _ before mark after other (by simp)]
  rfl

theorem cutAt_none (mark : Char) (text : List Char) (h : mark ∉ text) :
    cutAt mark text = (text, []) := by
  have other : ∀ c ∈ text, decide (c ≠ mark) = true := by
    intro c hc
    simp only [decide_eq_true_eq]
    exact fun same => h (same ▸ hc)
  have front : (text ++ []).takeWhile (fun c => decide (c ≠ mark)) = text ++ [] :=
    List.takeWhile_append_of_pos other
  have rest : (text ++ []).dropWhile (fun c => decide (c ≠ mark)) = [] :=
    List.dropWhile_append_of_pos other
  rw [List.append_nil] at front rest
  rw [cutAt, List.span_eq_takeWhile_dropWhile, front, rest]
  simp

theorem cleaned_eq_self (text : List Char) (h : ∀ c ∈ text, 0x20 < c.toNat) :
    cleaned text = text := by
  have front : text.dropWhile (fun c => c.toNat ≤ 0x20) = text := by
    cases text with
    | nil => rfl
    | cons c rest =>
        have := h c List.mem_cons_self
        simp [Nat.not_le.mpr this]
  rw [cleaned, front, List.filter_eq_self]
  intro c hc
  have large := h c hc
  simp only [Bool.and_eq_true, decide_eq_true_eq]
  refine ⟨⟨?_, ?_⟩, ?_⟩ <;>
    · intro same
      subst same
      exact absurd large (by decide)

section Parsing
variable (place path query : List Char) (hplace : ∀ c ∈ place, unreserved c = true)
include hplace

theorem checkBrackets_plain : checkBrackets place = .ok () := by
  have opened : '[' ∉ place := fun found => ne_of_unreserved (hplace _ found) (by decide) rfl
  have closed : ']' ∉ place := fun found => ne_of_unreserved (hplace _ found) (by decide) rfl
  simp only [checkBrackets, List.contains_eq_mem, opened, closed]
  rfl

theorem checkDisguise_plain : checkDisguise place = .ok () := by
  have large : ∀ n ∈ disguised, 0x80 ≤ n := by decide
  have none : ¬ (place.any fun c => disguised.contains c.toNat) = true := by
    rw [List.any_eq_true]
    intro found
    obtain ⟨c, hc, listed⟩ := found
    have small := (visible_of_unreserved (hplace c hc)).2
    have := large c.toNat (List.contains_iff_mem.mp listed)
    omega
  rw [checkDisguise, if_neg none]

/-- An address of a backend falls into the parts it was made of. -/
theorem parse_memory (hpath : ∀ c ∈ path, 0x20 < c.toNat ∧ c ≠ '?' ∧ c ≠ '#')
    (hquery : ∀ c ∈ query, 0x20 < c.toNat ∧ c ≠ '#') :
    parse ("memory://".toList ++ (place ++ '/' :: (path ++ '?' :: query))) =
      .ok ⟨"memory".toList, place, '/' :: path, [], query, []⟩ := by
  have visible : ∀ c ∈ "memory://".toList ++ (place ++ '/' :: (path ++ '?' :: query)),
      0x20 < c.toNat := by
    have front : ∀ c ∈ "memory://".toList, 0x20 < c.toNat := by simp
    simp only [List.forall_mem_append, List.forall_mem_cons]
    exact ⟨front, fun c hc => (visible_of_unreserved (hplace c hc)).1, by decide,
      fun c hc => (hpath c hc).1, by decide, fun c hc => (hquery c hc).1⟩
  have scheme : cutScheme ("memory://".toList ++ (place ++ '/' :: (path ++ '?' :: query))) =
      ("memory".toList, '/' :: '/' :: (place ++ '/' :: (path ++ '?' :: query))) := by
    have cut := span_append_cons (· ≠ ':') "memory".toList ':'
      ('/' :: '/' :: (place ++ '/' :: (path ++ '?' :: query))) (by simp) (by decide)
    rw [cutScheme, show ∀ text, "memory://".toList ++ text =
      "memory".toList ++ ':' :: '/' :: '/' :: text from fun _ => rfl, cut]
    rfl
  have authority : cutAuthority ('/' :: '/' :: (place ++ '/' :: (path ++ '?' :: query))) =
      (place, '/' :: (path ++ '?' :: query)) := by
    apply span_append_cons
    · intro c hc
      simp only [Bool.and_eq_true, decide_eq_true_eq]
      exact ⟨⟨ne_of_unreserved (hplace c hc) (by decide), ne_of_unreserved (hplace c hc) (by decide)⟩,
        ne_of_unreserved (hplace c hc) (by decide)⟩
    · decide
  have fragment : cutAt '#' ('/' :: (path ++ '?' :: query)) = ('/' :: (path ++ '?' :: query), []) := by
    apply cutAt_none
    simp only [List.mem_cons, List.mem_append, not_or]
    exact ⟨by decide, fun found => (hpath _ found).2.2 rfl, by decide,
      fun found => (hquery _ found).2 rfl⟩
  have search : cutAt '?' ('/' :: (path ++ '?' :: query)) = ('/' :: path, query) := by
    rw [← List.cons_append]
    apply cutAt_append
    simp only [List.mem_cons, not_or]
    exact ⟨by decide, fun found => (hpath _ found).2.1 rfl⟩
  have without : parameterSchemes.contains (String.ofList "memory".toList) = false := by decide
  simp only [parse, cleaned_eq_self _ visible, scheme, authority, checkBrackets_plain place hplace,
    fragment, search, checkDisguise_plain place hplace, without, bind, Except.bind, pure,
    Except.pure]
  rfl

end Parsing
end BlobStorage.Uri
