import BlobStorage.Number.Numeral
import Mathlib.Algebra.Group.Nat.Defs
import Mathlib.Data.List.Basic

/-!
Whole numbers are read as they are written. Written numbers have digits of one script, no blanks, and
a sign only if they are negative, so nothing is trimmed and no underscore is met.
-/
namespace BlobStorage.Number.Numeral
open Text

theorem toNat_of_isDigit (c : Char) (h : c.isDigit = true) : 48 ≤ c.toNat ∧ c.toNat ≤ 57 := by
  simp only [Char.isDigit, Bool.and_eq_true, decide_eq_true_eq, ge_iff_le, UInt32.le_iff_toNat_le] at h
  exact h

theorem value?_of_isDigit (c : Char) (h : c.isDigit = true) :
    DecimalDigit.value? c = some (c.toNat - 48) := by
  have range := toNat_of_isDigit c h
  have first : (0x30 ≤ c.toNat && c.toNat < 0x30 + 10) = true := by
    simp only [Bool.and_eq_true, decide_eq_true_eq]
    omega
  simp [DecimalDigit.value?, DecimalDigit.zeros, first]

theorem isSpace_of_visible (c : Char) (h : 0x21 ≤ c.toNat ∧ c.toNat < 0x85) :
    Blank.isSpace c = false := by
  have blank : Blank.isBlank c = false := by
    simp only [Blank.isBlank, Blank.boundaries, Boundary.contains]
    rw [if_neg, if_neg, if_neg, if_neg, if_pos]
    all_goals omega
  simp [Blank.isSpace, blank]

theorem dropWhile_isSpace (text rest : List Char) (h : ∀ c ∈ text, Blank.isSpace c = false)
    (some_text : text ≠ []) : (text ++ rest).dropWhile Blank.isSpace = text ++ rest := by
  cases text with
  | nil => exact absurd rfl some_text
  | cons c more => simp [h c List.mem_cons_self]

/-- At the end nothing is trimmed behind visible characters. -/
theorem trim_append (front text : List Char) (h : ∀ c ∈ text, Blank.isSpace c = false)
    (some_text : text ≠ []) :
    Blank.trim (front ++ text) = (front ++ text).dropWhile Blank.isSpace := by
  have back := dropWhile_isSpace text.reverse (front.dropWhile Blank.isSpace).reverse
    (fun c hc => h c (List.mem_reverse.mp hc)) (by simpa using some_text)
  have cut : (front ++ text).dropWhile Blank.isSpace =
      front.dropWhile Blank.isSpace ++ text := by
    rw [List.dropWhile_append]
    split
    case isTrue none =>
      have := dropWhile_isSpace text [] h some_text
      rw [List.append_nil] at this
      rw [this, List.isEmpty_iff.mp none, List.nil_append]
    case isFalse => rfl
  rw [Blank.trim, cut, List.reverse_append, back, List.reverse_append, List.reverse_reverse,
    List.reverse_reverse]

theorem leadingDigits?_digits (text : List Char) (h : ∀ c ∈ text, c.isDigit = true)
    (after : Bool) (some_text : after = true ∨ text ≠ []) :
    leadingDigits? DecimalDigit.value? after text = some (text.map (·.toNat - 48), []) := by
  induction text generalizing after with
  | nil =>
      cases some_text with
      | inl digit => simp [leadingDigits?, digit]
      | inr none => exact absurd rfl none
  | cons c rest ih =>
      have here := value?_of_isDigit c (h c List.mem_cons_self)
      have there := ih (fun d hd => h d (List.mem_cons_of_mem c hd)) true (.inl rfl)
      simp [leadingDigits?, here, there]

theorem spelled_toDigits (n : Nat) : spelled ((Nat.toDigits 10 n).map (·.toNat - 48)) = n := by
  have same : Nat.ofDigitChars 10 (Nat.toDigits 10 n) 0 =
      spelled ((Nat.toDigits 10 n).map (·.toNat - 48)) := by
    rw [spelled, List.foldl_map]
    rfl
  rw [← same, Nat.ofDigitChars_ten_toDigits]

/-- Different numbers are written differently. -/
theorem toString_inj {m n : Nat} : toString m = toString n ↔ m = n := by
  constructor
  · intro h
    have digits : Nat.toDigits 10 m = Nat.toDigits 10 n := by
      simpa only [Nat.toString_eq_repr, Nat.toList_repr] using congrArg String.toList h
    simpa only [Nat.ofDigitChars_ten_toDigits] using congrArg (Nat.ofDigitChars 10 · 0) digits
  · exact congrArg toString

section Written

theorem toList_toString (n : Int) :
    (toString n).toList = (if n < 0 then ['-'] else []) ++ Nat.toDigits 10 n.natAbs := by
  cases n with
  | ofNat m => simp [Int.toString_eq_repr, Int.repr, Nat.repr_eq_ofList_toDigits]
  | negSucc m =>
      rw [if_pos (Int.negSucc_lt_zero m)]
      simp only [Int.toString_eq_repr, Int.repr, Nat.repr_eq_ofList_toDigits]
      simp

theorem toString_ne_nil (n : Int) : (toString n).toList ≠ [] := by
  rw [toList_toString]
  exact List.append_ne_nil_of_right_ne_nil _ Nat.toDigits_ne_nil

theorem isDigit_toDigits (n : Nat) : ∀ c ∈ Nat.toDigits 10 n, c.isDigit = true := fun _ hc =>
  Nat.isDigit_of_mem_toDigits (by decide) (by decide) hc

theorem isSpace_toString (n : Int) : ∀ c ∈ (toString n).toList, Blank.isSpace c = false := by
  intro c hc
  apply isSpace_of_visible
  rw [toList_toString, List.mem_append] at hc
  cases hc with
  | inr digit =>
      have := toNat_of_isDigit c (isDigit_toDigits _ c digit)
      omega
  | inl mark =>
      split at mark
      · rw [List.mem_singleton.mp mark]
        decide
      · cases mark

theorem sign_toString (n : Int) :
    sign (toString n).toList = (decide (n < 0), Nat.toDigits 10 n.natAbs) := by
  rw [toList_toString]
  by_cases negative : n < 0
  · simp [negative, sign]
  · cases chars : Nat.toDigits 10 n.natAbs with
    | nil => exact absurd chars Nat.toDigits_ne_nil
    | cons c rest =>
        have digit := isDigit_toDigits n.natAbs c (chars ▸ List.mem_cons_self)
        have plus : c ≠ '+' := by
          intro same
          rw [same] at digit
          exact absurd digit (by decide)
        have minus : c ≠ '-' := by
          intro same
          rw [same] at digit
          exact absurd digit (by decide)
        simp [negative, sign, plus, minus]

theorem signed_natAbs (n : Int) : signed (n < 0) n.natAbs = n := by
  by_cases negative : n < 0
  · simp only [signed, negative, decide_true, if_true, Int.ofNat_eq_natCast]
    omega
  · simp only [signed, negative, decide_false, Bool.false_eq_true, if_false, Int.ofNat_eq_natCast]
    omega

theorem trim_toString (n : Int) : Blank.trim (toString n).toList = (toString n).toList := by
  have trimmed := trim_append [] _ (isSpace_toString n) (toString_ne_nil n)
  have kept := dropWhile_isSpace _ [] (isSpace_toString n) (toString_ne_nil n)
  rw [List.append_nil] at kept
  rwa [List.nil_append, kept] at trimmed

/-- A number of not too many digits is read as it is written. -/
theorem int_toString (n : Int) (h : n.natAbs < 10 ^ digitLimit) :
    int (toString n).toList = .ok n := by
  have read := leadingDigits?_digits _ (isDigit_toDigits n.natAbs) false
    (.inr Nat.toDigits_ne_nil)
  have short : ¬ digitLimit < ((Nat.toDigits 10 n.natAbs).map (·.toNat - 48)).length := by
    rw [List.length_map, Nat.not_lt]
    exact (Nat.length_toDigits_le_iff (by decide) (by decide)).mpr h
  simp only [int, trim_toString, sign_toString, read, short, spelled_toDigits, signed_natAbs,
    List.isEmpty_nil, if_true, if_false]

end Written

section Breaks

theorem rest_of_break (front rest left : List Char) (after : Bool) (digits : List Nat)
    (h : leadingDigits? DecimalDigit.value? after (front ++ '\n' :: rest) = some (digits, left)) :
    left ≠ [] := by
  have mark : DecimalDigit.value? '\n' = none := by decide
  induction front generalizing after digits with
  | nil =>
      cases after with
      | false => simp [leadingDigits?, mark] at h
      | true =>
          simp only [List.nil_append, leadingDigits?, mark, Bool.not_true, Bool.false_eq_true,
            if_false, show '\n' ≠ '_' by decide, Option.some.injEq, Prod.mk.injEq] at h
          simp [← h.2]
  | cons c front ih =>
      simp only [List.cons_append, leadingDigits?] at h
      split at h
      · simp only [Option.map_eq_some_iff, Prod.mk.injEq] at h
        obtain ⟨found, read, _, rfl⟩ := h
        exact ih true found.1 read
      · split at h
        · cases h
        · split at h
          · exact ih false digits h
          · simp only [Option.some.injEq, Prod.mk.injEq] at h
            simp [← h.2]

theorem sign_of_break (front rest : List Char) :
    ∃ negative more, sign (front ++ '\n' :: rest) = (negative, more ++ '\n' :: rest) := by
  cases front with
  | nil => exact ⟨false, [], by simp [sign]⟩
  | cons c front =>
      by_cases minus : c = '-'
      · exact ⟨true, front, by simp [sign, minus]⟩
      · by_cases plus : c = '+'
        · exact ⟨false, front, by simp [sign, plus]⟩
        · exact ⟨false, c :: front, by simp [sign, minus, plus]⟩

/-- The last line decides: whatever stands on the lines before is blank, or there is no number. -/
theorem int_lines (front : List Char) (n m : Int) (h : n.natAbs < 10 ^ digitLimit)
    (read : int (front ++ '\n' :: (toString n).toList) = .ok m) : m = n := by
  have trimmed := trim_append (front ++ ['\n']) _ (isSpace_toString n) (toString_ne_nil n)
  rw [List.append_assoc, List.singleton_append] at trimmed
  rw [List.dropWhile_append] at trimmed
  split at trimmed
  case isTrue =>
    -- Only blanks stand before the number.
    have kept := dropWhile_isSpace _ [] (isSpace_toString n) (toString_ne_nil n)
    rw [List.append_nil] at kept
    rw [List.dropWhile_cons_of_pos (by decide), kept] at trimmed
    have same := int_toString n h
    rw [int, trim_toString] at same
    rw [int, trimmed, same] at read
    exact (Except.ok.inj read).symm
  case isFalse =>
    obtain ⟨negative, more, signed⟩ :=
      sign_of_break (front.dropWhile Blank.isSpace) (toString n).toList
    simp only [int, trimmed, signed] at read
    split at read
    · cases read
    case h_2 digits left found =>
      have more_left := rest_of_break _ _ _ _ _ found
      split at read
      · cases read
      · simp [more_left] at read

end Breaks

end BlobStorage.Number.Numeral
