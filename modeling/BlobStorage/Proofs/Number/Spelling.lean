import BlobStorage.Proofs.Number.Numeral
import Mathlib.Data.List.DropRight
import Mathlib.Data.Nat.Digits.Defs

/-!
How a setting spells a whole number: blanks, a sign, plain digits with single underscores between them, a
fraction of zeros, blanks. Reading a setting comes to the same as spelling backwards.
-/
namespace BlobStorage.Number.Numeral
open Text

/-- Plain digits with the values that they have. -/
inductive Digits : List Char → List Nat → Prop
  | one {c : Char} (digit : c.isDigit = true) : Digits [c] [c.toNat - 48]
  | more {c : Char} {text : List Char} {ds : List Nat} (digit : c.isDigit = true) (rest : Digits text ds) :
      Digits (c :: text) ((c.toNat - 48) :: ds)
  | apart {c : Char} {text : List Char} {ds : List Nat} (digit : c.isDigit = true)
      (rest : Digits text ds) : Digits (c :: '_' :: text) ((c.toNat - 48) :: ds)

inductive Mark : List Char → Bool → Prop
  | none : Mark [] false
  | plus : Mark ['+'] false
  | minus : Mark ['-'] true

inductive Zeros : List Char → Prop
  | none : Zeros []
  | some (k : Nat) : Zeros ('.' :: List.replicate (k + 1) '0')

/-- A text spells a whole number, in not too many characters. -/
inductive SpellsWhole : List Char → Int → Prop
  | spelled {front mark digits zeros back : List Char} {negative : Bool} {ds : List Nat}
      (before : ∀ c ∈ front, Blank.isSpace c = true) (signs : Mark mark negative) (counts : Digits digits ds)
      (whole : Zeros zeros) (after : ∀ c ∈ back, Blank.isSpace c = true)
      (short : (mark ++ digits ++ zeros).length ≤ 4300) :
      SpellsWhole (front ++ (mark ++ digits ++ zeros) ++ back)
        (if negative then -((Nat.ofDigits 10 ds.reverse : Nat) : Int) else (Nat.ofDigits 10 ds.reverse : Nat))

section Reading
variable {text rest : List Char} {ds : List Nat} {n : Int}

theorem spelled_eq (ds : List Nat) : spelled ds = Nat.ofDigits 10 ds.reverse := by
  induction ds using List.reverseRecOn with
  | nil => rfl
  | append_singleton ds d ih =>
      rw [spelled, List.foldl_append, List.reverse_append, List.reverse_singleton,
        List.singleton_append, Nat.ofDigits_cons, ← ih, add_comm]
      rfl

theorem signed_eq (negative : Bool) (ds : List Nat) : signed negative (spelled ds) =
    if negative then -((Nat.ofDigits 10 ds.reverse : Nat) : Int) else (Nat.ofDigits 10 ds.reverse : Nat) := by
  rw [spelled_eq, signed, Int.ofNat_eq_natCast]

/-- What the digits at the front of a text are. After a digit there may be none, or an underscore first. -/
theorem digits_of_leading {after : Bool}
    (read : leadingDigits? asciiDigit? after text = some (ds, rest)) :
    (after = true ∧ ds = [] ∧ text = rest) ∨ (∃ digits, Digits digits ds ∧ text = digits ++ rest) ∨
      (after = true ∧ ∃ digits, Digits digits ds ∧ text = '_' :: (digits ++ rest)) := by
  induction text generalizing after ds with
  | nil =>
      cases after with
      | false => cases read
      | true =>
          cases read
          exact .inl ⟨rfl, rfl, rfl⟩
  | cons c text ih =>
      rw [leadingDigits?] at read
      split at read
      · rename_i d value
        obtain ⟨digit, value⟩ := Option.ite_none_right_eq_some.mp value
        cases value
        obtain ⟨⟨more, rest⟩, found, same⟩ := Option.map_eq_some_iff.mp read
        cases same
        refine .inr (.inl ?_)
        rcases ih found with ⟨-, rfl, rfl⟩ | ⟨digits, own, rfl⟩ | ⟨-, digits, own, rfl⟩
        · exact ⟨[c], .one digit, rfl⟩
        · exact ⟨c :: digits, .more digit own, rfl⟩
        · exact ⟨c :: '_' :: digits, .apart digit own, rfl⟩
      · cases after with
        | false => cases read
        | true =>
            rw [if_neg (by decide)] at read
            split at read
            · rename_i under
              subst under
              rcases ih read with ⟨⟨⟩, -⟩ | ⟨digits, own, rfl⟩ | ⟨⟨⟩, -⟩
              exact .inr (.inr ⟨rfl, digits, own, rfl⟩)
            · cases read
              exact .inl ⟨rfl, rfl, rfl⟩

/-- Digits are read to their end, where nothing or a point comes next. -/
theorem leading_of_digits {digits : List Char} (counts : Digits digits ds)
    (ends : rest = [] ∨ ∃ more, rest = '.' :: more) (after : Bool) :
    leadingDigits? asciiDigit? after (digits ++ rest) = some (ds, rest) := by
  have value {c : Char} (digit : c.isDigit = true) : asciiDigit? c = some (c.toNat - 48) := if_pos digit
  have stop : leadingDigits? asciiDigit? true rest = some ([], rest) := by
    rcases ends with rfl | ⟨more, rfl⟩ <;> rfl
  induction counts generalizing after with
  | one digit =>
      rw [List.singleton_append, leadingDigits?, value digit]
      dsimp only
      rw [stop]
      rfl
  | more digit own ih =>
      rw [List.cons_append, leadingDigits?, value digit]
      dsimp only
      rw [ih]
      rfl
  | apart digit own ih =>
      have none : asciiDigit? '_' = none := by decide
      rw [List.cons_append, List.cons_append, leadingDigits?, value digit]
      dsimp only
      rw [leadingDigits?, none]
      dsimp only
      rw [if_neg (by decide), if_pos rfl, ih]
      rfl

theorem Digits.first {digits : List Char} (counts : Digits digits ds) :
    ∃ c more, digits = c :: more ∧ c.isDigit = true := by
  cases counts with
  | one digit | more digit | apart digit => exact ⟨_, _, rfl, digit⟩

theorem Digits.last {digits : List Char} (counts : Digits digits ds) :
    ∃ more c, digits = more ++ [c] ∧ c.isDigit = true := by
  induction counts with
  | one digit => exact ⟨[], _, rfl, digit⟩
  | more _ _ ih =>
      obtain ⟨more, c, rfl, last⟩ := ih
      exact ⟨_ :: more, c, rfl, last⟩
  | apart _ _ ih =>
      obtain ⟨more, c, rfl, last⟩ := ih
      exact ⟨_ :: '_' :: more, c, rfl, last⟩

/-- Only the sign itself is taken off a text that goes on with a digit. -/
theorem sign_append {mark digits zeros : List Char} {negative : Bool} (signs : Mark mark negative)
    (counts : Digits digits ds) : sign (mark ++ digits ++ zeros) = (negative, digits ++ zeros) := by
  cases signs with
  | plus | minus => rfl
  | none =>
      obtain ⟨c, more, rfl, digit⟩ := counts.first
      have plus : c ≠ '+' := by
        rintro rfl
        cases digit
      have minus : c ≠ '-' := by
        rintro rfl
        cases digit
      simp [sign, plus, minus]

theorem exists_mark (text : List Char) :
    ∃ mark, Mark mark (sign text).1 ∧ text = mark ++ (sign text).2 := by
  unfold sign
  split
  · exact ⟨_, .minus, rfl⟩
  · exact ⟨_, .plus, rfl⟩
  · exact ⟨_, .none, rfl⟩

theorem exists_trim (text : List Char) : ∃ front back, text = front ++ Blank.trim text ++ back ∧
    (∀ c ∈ front, Blank.isSpace c = true) ∧ ∀ c ∈ back, Blank.isSpace c = true := by
  refine ⟨text.takeWhile Blank.isSpace, (text.dropWhile Blank.isSpace).rtakeWhile Blank.isSpace, ?_,
    fun _ => List.mem_takeWhile_imp, fun _ => List.mem_rtakeWhile_imp⟩
  rw [List.append_assoc]
  change text = _ ++ (List.rdropWhile Blank.isSpace _ ++ _)
  rw [List.rdropWhile_append_rtakeWhile, List.takeWhile_append_dropWhile]

theorem trim_of_ends {front core back : List Char} (before : ∀ c ∈ front, Blank.isSpace c = true)
    (after : ∀ c ∈ back, Blank.isSpace c = true)
    (first : ∃ c more, core = c :: more ∧ Blank.isSpace c = false)
    (last : ∃ more c, core = more ++ [c] ∧ Blank.isSpace c = false) :
    Blank.trim (front ++ core ++ back) = core := by
  have cut : (front ++ core ++ back).dropWhile Blank.isSpace = core ++ back := by
    obtain ⟨c, more, rfl, seen⟩ := first
    rw [List.append_assoc, List.dropWhile_append_of_pos before, List.cons_append,
      List.dropWhile_cons_of_neg (by rw [seen]; exact Bool.false_ne_true)]
  obtain ⟨more, c, rfl, seen⟩ := last
  rw [Blank.trim, cut, List.reverse_append, List.dropWhile_append_of_pos (by simpa using after),
    List.reverse_append, List.reverse_singleton, List.singleton_append,
    List.dropWhile_cons_of_neg (by rw [seen]; exact Bool.false_ne_true), List.reverse_cons,
    List.reverse_reverse]

theorem zeros_iff {fraction : List Char} : (!fraction.isEmpty && fraction.all (· = '0')) = true ↔
    ∃ k, fraction = List.replicate (k + 1) '0' := by
  rw [Bool.and_eq_true, Bool.not_eq_true', List.isEmpty_eq_false_iff, List.all_eq_true]
  constructor
  · rintro ⟨given, zeros⟩
    refine ⟨fraction.length - 1, List.eq_replicate_iff.mpr ⟨?_, fun c hc => of_decide_eq_true (zeros c hc)⟩⟩
    have := List.length_pos_iff.mpr given
    omega
  · rintro ⟨k, rfl⟩
    exact ⟨by simp [List.replicate_succ], fun c hc => decide_eq_true (List.eq_of_mem_replicate hc)⟩

theorem isSpace_of_isDigit {c : Char} (digit : c.isDigit = true) : Blank.isSpace c = false := by
  have range := toNat_of_isDigit c digit
  exact isSpace_of_visible c (by omega)

theorem trim_spelled {front mark digits zeros back : List Char} {negative : Bool}
    (before : ∀ c ∈ front, Blank.isSpace c = true) (signs : Mark mark negative) (counts : Digits digits ds)
    (whole : Zeros zeros) (after : ∀ c ∈ back, Blank.isSpace c = true) :
    Blank.trim (front ++ (mark ++ digits ++ zeros) ++ back) = mark ++ digits ++ zeros := by
  refine trim_of_ends before after ?_ ?_
  · obtain ⟨c, more, rfl, digit⟩ := counts.first
    cases signs with
    | none => exact ⟨c, _, rfl, isSpace_of_isDigit digit⟩
    | plus | minus => exact ⟨_, _, rfl, by decide⟩
  · cases whole with
    | none =>
        obtain ⟨more, c, rfl, digit⟩ := counts.last
        exact ⟨mark ++ more, c, by simp, isSpace_of_isDigit digit⟩
    | some k =>
        refine ⟨mark ++ digits ++ '.' :: List.replicate k '0', '0', ?_, by decide⟩
        rw [List.replicate_succ']
        simp

theorem spells_of_wholeSetting (read : wholeSetting text = .ok n) : SpellsWhole text n := by
  unfold wholeSetting at read
  dsimp only at read
  split at read
  · cases read
  · rename_i short
    obtain ⟨front, back, all, before, after⟩ := exists_trim text
    obtain ⟨mark, signs, core⟩ := exists_mark (Blank.trim text)
    have spells {digits zeros : List Char} {ds : List Nat} (counts : Digits digits ds) (whole : Zeros zeros)
        (rest : (sign (Blank.trim text)).2 = digits ++ zeros) :
        SpellsWhole text (signed (sign (Blank.trim text)).1 (spelled ds)) := by
      rw [rest, ← List.append_assoc] at core
      generalize (sign (Blank.trim text)).1 = negative at signs
      rw [core] at all short
      rw [all, signed_eq]
      exact .spelled before signs counts whole after (not_lt.mp short)
    split at read
    · rename_i found
      cases read
      obtain ⟨⟨⟩, -⟩ | ⟨digits, counts, rest⟩ | ⟨⟨⟩, -⟩ := digits_of_leading found
      exact spells counts .none rest
    · rename_i found
      split at read
      · rename_i zeros
        cases read
        obtain ⟨⟨⟩, -⟩ | ⟨digits, counts, rest⟩ | ⟨⟨⟩, -⟩ := digits_of_leading found
        obtain ⟨k, rfl⟩ := zeros_iff.mp zeros
        exact spells counts (.some k) rest
      · cases read
    · cases read

theorem wholeSetting_of_spells (spells : SpellsWhole text n) : wholeSetting text = .ok n := by
  obtain ⟨before, signs, counts, whole, after, short⟩ := spells
  unfold wholeSetting
  rw [trim_spelled before signs counts whole after]
  dsimp only
  rw [if_neg (show ¬ digitLimit < _ from not_lt.mpr short), sign_append signs counts]
  dsimp only
  cases whole with
  | none =>
      rw [leading_of_digits counts (.inl rfl)]
      exact congrArg Except.ok (signed_eq _ _)
  | some k =>
      rw [leading_of_digits counts (.inr ⟨_, rfl⟩), List.replicate_succ]
      exact (if_pos (zeros_iff.mpr ⟨k, rfl⟩)).trans (congrArg Except.ok (signed_eq _ _))

/-- Reading a setting comes to the same as finding how it is spelled. -/
theorem wholeSetting_eq_ok_iff : wholeSetting text = .ok n ↔ SpellsWhole text n :=
  ⟨spells_of_wholeSetting, wholeSetting_of_spells⟩

end Reading
end BlobStorage.Number.Numeral
