import BlobStorage.Time.Moment
import Mathlib.Tactic.Ring
import Mathlib.Algebra.Order.Ring.Nat

/-!
Whole seconds. A number of microseconds is divided into seconds, the quotient is rounded to a
floating-point number and that is cut to a whole number. Within the calendar the rounding can reach
the next whole second but does not go past it, and it is coarser for later moments, so the order of
moments is kept, and moments a second apart are told apart.

Cutting goes towards zero: the seconds on both sides of the start of 1970 have the same number.
-/
namespace BlobStorage
open Binary64

/-- The quotient is rounded to an even number of halves in the same way as to the next one. -/
theorem Binary64.roundHalfEven_div_two (num den : Nat) (pos : 0 < den) :
    roundHalfEven num den / 2 = (2 * num + den) / (4 * den) := by
  have whole := Nat.div_add_mod num den
  have small := Nat.mod_lt num pos
  have sum : 2 * num + den = 2 * (num % den) + den + 2 * den * (num / den) := by
    rw [Nat.mul_assoc 2 den]
    omega
  have halves : (2 * num + den) / (2 * den) =
      if 2 * (num % den) < den then num / den else num / den + 1 := by
    rw [sum, Nat.add_mul_div_left _ _ (by omega)]
    split
    · rw [Nat.div_eq_of_lt (by omega), Nat.zero_add]
    · rw [Nat.div_eq_of_lt_le (by omega : 1 * (2 * den) ≤ _) (by omega), Nat.add_comm]
  have quarters : (2 * num + den) / (4 * den) = (2 * num + den) / (2 * den) / 2 := by
    rw [Nat.div_div_eq_div_mul]
    congr 1
    omega
  rw [quarters, halves, roundHalfEven]
  split
  · rfl
  · split
    · rfl
    · omega

namespace Duration

/-- The whole seconds that a number of microseconds is taken for. -/
def secondsIn (micros : Nat) : Nat := (nearest false micros 1000000).cut

theorem nearest_or (negative : Bool) (num den : Nat) :
    (∃ m e, nearest false num den = .finite false m e ∧
      nearest negative num den = .finite negative m e) ∨
    (nearest false num den = .infinite false ∧ nearest negative num den = .infinite negative) := by
  simp only [nearest]
  split
  · exact .inl ⟨_, _, rfl, rfl⟩
  · split <;> split
    · exact .inr ⟨rfl, rfl⟩
    · exact .inl ⟨_, _, rfl, rfl⟩
    · exact .inr ⟨rfl, rfl⟩
    · exact .inl ⟨_, _, rfl, rfl⟩

theorem wholeSeconds_eq (d : Duration) :
    d.wholeSeconds = if d.micros < 0 then -(secondsIn d.micros.natAbs : Int)
      else secondsIn d.micros.natAbs := by
  rw [wholeSeconds, seconds, secondsIn]
  cases nearest_or (d.micros < 0) d.micros.natAbs 1000000 with
  | inl found =>
      obtain ⟨m, e, negated, plain⟩ := found
      simp [negated, plain, Binary64.cut]
  | inr far => simp [far.1, far.2, Binary64.cut]

/-- The power of two by which a number of microseconds is scaled before it is rounded. -/
structure Scaled (micros power : Nat) : Prop where
  lower : 2 ^ 52 * 1000000 ≤ micros * 2 ^ power
  upper : micros * 2 ^ power < 2 ^ 53 * 1000000

theorem Scaled.antitone {micros later power laterPower : Nat} (h : Scaled micros power)
    (hl : Scaled later laterPower) (le : micros ≤ later) : laterPower ≤ power := by
  by_contra less
  have step : 2 ^ (power + 1) ≤ 2 ^ laterPower := Nat.pow_le_pow_right (by decide) (by omega)
  have scaled : micros * 2 ^ (power + 1) ≤ later * 2 ^ laterPower := Nat.mul_le_mul le step
  have low := h.lower
  have high := hl.upper
  rw [Nat.pow_succ, ← Nat.mul_assoc] at scaled
  omega

/-- Numbers of microseconds that are not too large have a scale, which is the exponent they are
rounded with. -/
theorem exponentOf_micros (micros : Nat) (pos : 0 < micros) (small : micros < 2 ^ 58) :
    ∃ power, exponentOf micros 1000000 = -((power + 2 : Nat) : Int) ∧
      Scaled micros (power + 2) := by
  have some_micros : micros ≠ 0 := by omega
  have bound : micros.log2 < 58 := (Nat.log2_lt some_micros).mpr small
  have low : 2 ^ 71 ≤ micros * 2 ^ (71 - micros.log2) := by
    calc 2 ^ 71 = 2 ^ micros.log2 * 2 ^ (71 - micros.log2) := by
          rw [← Nat.pow_add]
          congr 1
          omega
      _ ≤ micros * 2 ^ (71 - micros.log2) :=
          Nat.mul_le_mul_right _ (Nat.log2_self_le some_micros)
  have high : micros * 2 ^ (71 - micros.log2) < 2 ^ 72 := by
    calc micros * 2 ^ (71 - micros.log2) < 2 ^ (micros.log2 + 1) * 2 ^ (71 - micros.log2) :=
          Nat.mul_lt_mul_of_pos_right Nat.lt_log2_self (Nat.two_pow_pos _)
      _ = 2 ^ 72 := by
          rw [← Nat.pow_add]
          congr 1
          omega
  have guess : (Int.ofNat micros.log2 - Int.ofNat (Nat.log2 1000000) - 52) =
      -Int.ofNat (71 - micros.log2) := by
    rw [show Nat.log2 1000000 = 19 by decide +kernel]
    simp only [Int.ofNat_eq_natCast]
    omega
  by_cases less : micros * 2 ^ (71 - micros.log2) < 2 ^ 52 * 1000000
  · have doubled : micros * 2 ^ (70 - micros.log2 + 2) =
        2 * (micros * 2 ^ (71 - micros.log2)) := by
      rw [show 70 - micros.log2 + 2 = 71 - micros.log2 + 1 by omega, Nat.pow_succ]
      ring
    refine ⟨70 - micros.log2, ?_, by omega, by omega⟩
    simp only [exponentOf, guess, Int.neg_neg, scale, Nat.pow_eq, less, if_true]
    simp only [Int.ofNat_eq_natCast]
    omega
  · have same : micros * 2 ^ (69 - micros.log2 + 2) = micros * 2 ^ (71 - micros.log2) := by
      rw [show 69 - micros.log2 + 2 = 71 - micros.log2 by omega]
    refine ⟨69 - micros.log2, ?_, by omega, by omega⟩
    simp only [exponentOf, guess, Int.neg_neg, scale, Nat.pow_eq, less, if_false]
    simp only [Int.ofNat_eq_natCast]
    omega

/-- Rounding to a floating-point number and cutting it adds half a unit of the scale. -/
theorem cut_nearest (micros : Nat) (pos : 0 < micros) (small : micros < 2 ^ 58) :
    ∃ power, Scaled micros (power + 2) ∧ secondsIn micros =
      (micros * 2 ^ (power + 3) + 1000000) / (1000000 * 2 ^ (power + 3)) := by
  obtain ⟨power, exponent, scaled⟩ := exponentOf_micros micros pos small
  refine ⟨power, scaled, ?_⟩
  have some_micros : micros ≠ 0 := by omega
  have cut : secondsIn micros =
      roundHalfEven (micros * 2 ^ (power + 2)) 1000000 / 2 / 2 ^ (power + 1) := by
    have down : (-((power + 2 : Nat) : Int)) = .negSucc (power + 1) := rfl
    have up : -(Int.negSucc (power + 1)) = .ofNat (power + 2) := rfl
    have carried : Int.negSucc (power + 1) + 1 = .negSucc power := by omega
    simp only [secondsIn, nearest, some_micros, if_false, exponent, down, up, scale, Nat.pow_eq]
    by_cases carry : roundHalfEven (micros * 2 ^ (power + 2)) 1000000 = 2 ^ 53
    · have fits : ¬ (971 : Int) < Int.negSucc power := by omega
      simp only [carry, if_true, carried, fits, if_false, Binary64.cut, magnitude, scale,
        Nat.pow_eq, Nat.one_mul]
      rfl
    · have fits : ¬ (971 : Int) < Int.negSucc (power + 1) := by omega
      simp only [carry, if_false, fits, Binary64.cut, magnitude, scale, Nat.pow_eq, Nat.one_mul]
      rw [Nat.div_div_eq_div_mul, Nat.pow_succ' (n := power + 1)]
  rw [cut, roundHalfEven_div_two _ _ (by decide), Nat.div_div_eq_div_mul]
  congr 1
  · rw [Nat.pow_succ 2 (power + 2)]
    ring
  · rw [show power + 3 = power + 1 + 2 by omega, Nat.pow_add 2 (power + 1) 2]
    ring

section Order

theorem secondsIn_zero : secondsIn 0 = 0 := by
  have none (e : Int) : (scale 0 1 e).1 / (scale 0 1 e).2 = 0 := by
    cases e <;> simp [scale]
  simp only [secondsIn, nearest, if_true, Binary64.cut, magnitude, none]

/-- Within the calendar so many seconds are reached as soon as the rounding reaches them. -/
theorem le_secondsIn (micros : Nat) (pos : 0 < micros) (small : micros < 2 ^ 58) :
    ∃ power, Scaled micros (power + 2) ∧ ∀ n, n ≤ secondsIn micros ↔
      n * 1000000 * 2 ^ (power + 3) ≤ micros * 2 ^ (power + 3) + 1000000 := by
  obtain ⟨power, scaled, cut⟩ := cut_nearest micros pos small
  refine ⟨power, scaled, fun n => ?_⟩
  have pos_scale : 0 < 1000000 * 2 ^ (power + 3) :=
    Nat.mul_pos (by decide) (Nat.two_pow_pos _)
  rw [cut, Nat.le_div_iff_mul_le pos_scale, Nat.mul_assoc]

/-- Coarser rounding reaches whatever finer rounding reaches. -/
theorem reached_of_coarser (n micros fine coarse : Nat) (le : coarse ≤ fine)
    (h : n * 1000000 * 2 ^ fine ≤ micros * 2 ^ fine + 1000000) :
    n * 1000000 * 2 ^ coarse ≤ micros * 2 ^ coarse + 1000000 := by
  cases Nat.le_total (n * 1000000) micros with
  | inl under => exact Nat.le_add_right_of_le (Nat.mul_le_mul_right _ under)
  | inr beyond =>
      have split := Nat.sub_add_cancel beyond
      have rest : (n * 1000000 - micros) * 2 ^ coarse ≤ (n * 1000000 - micros) * 2 ^ fine :=
        Nat.mul_le_mul_left _ (Nat.pow_le_pow_right (by decide) le)
      rw [← split, Nat.add_mul] at h ⊢
      omega

/-- So many seconds later, so many whole seconds more have passed at least. -/
theorem secondsIn_add_le (micros later gap : Nat) (le : micros + 1000000 * gap ≤ later)
    (small : later < 2 ^ 58) : secondsIn micros + gap ≤ secondsIn later := by
  cases Nat.eq_zero_or_pos later with
  | inl none =>
      have : micros = 0 ∧ gap = 0 := by omega
      simp [this, none]
  | inr pos_later =>
    obtain ⟨coarse, rough, reaches⟩ := le_secondsIn later pos_later small
    have moved := Nat.mul_le_mul_right (2 ^ (coarse + 3)) le
    rw [Nat.add_mul, Nat.mul_comm 1000000 gap] at moved
    rw [reaches, Nat.add_mul (secondsIn micros), Nat.add_mul]
    cases Nat.eq_zero_or_pos micros with
    | inl none =>
        simp only [none, secondsIn_zero, Nat.zero_mul] at moved ⊢
        omega
    | inr pos =>
      obtain ⟨fine, scaled, reaches⟩ := le_secondsIn micros pos (by omega)
      have order := scaled.antitone rough (by omega)
      have reached := reached_of_coarser _ _ _ (coarse + 3) (by omega)
        ((reaches (secondsIn micros)).mp (Nat.le_refl _))
      omega

theorem secondsIn_eq_zero_iff (micros : Nat) (small : micros < 2 ^ 58) :
    secondsIn micros = 0 ↔ micros < 1000000 := by
  constructor
  · intro none
    by_contra more
    have := secondsIn_add_le 0 micros 1 (by omega) small
    omega
  · intro less
    cases Nat.eq_zero_or_pos micros with
    | inl none => rw [none, secondsIn_zero]
    | inr pos =>
      obtain ⟨power, scaled, reaches⟩ := le_secondsIn micros pos small
      by_contra more
      have reached := (reaches 1).mp (by omega)
      have low := scaled.lower
      have under : micros * 2 ^ (power + 2) ≤ 999999 * 2 ^ (power + 2) :=
        Nat.mul_le_mul_right _ (by omega)
      rw [Nat.pow_succ 2 (power + 2), ← Nat.mul_assoc, ← Nat.mul_assoc] at reached
      omega

theorem wholeSeconds_mono (early late : Int) (le : early ≤ late)
    (h : early.natAbs < 2 ^ 58) (hl : late.natAbs < 2 ^ 58) :
    wholeSeconds ⟨early⟩ ≤ wholeSeconds ⟨late⟩ := by
  have grow (a b : Nat) (le : a ≤ b) (small : b < 2 ^ 58) : secondsIn a ≤ secondsIn b := by
    simpa using secondsIn_add_le a b 0 (by simpa using le) small
  rw [wholeSeconds_eq, wholeSeconds_eq]
  dsimp only
  split <;> split
  · have := grow late.natAbs early.natAbs (by omega) h
    omega
  · omega
  · omega
  · have := grow early.natAbs late.natAbs (by omega) hl
    omega

/-- A moment whose whole seconds have not gone on is less than a second later, except that the last
second before 1970 counts as the first one. -/
theorem lt_of_wholeSeconds_le (deadline now : Int) (h : now.natAbs < 2 ^ 58)
    (hd : deadline.natAbs < 2 ^ 58) (le : wholeSeconds ⟨now⟩ ≤ wholeSeconds ⟨deadline⟩) :
    now < deadline + 1000000 ∨ (-1000000 < deadline ∧ deadline < 0 ∧ now < 1000000) := by
  rw [wholeSeconds_eq, wholeSeconds_eq] at le
  dsimp only at le
  split at le <;> split at le
  · left
    by_contra late
    have := secondsIn_add_le now.natAbs deadline.natAbs 1 (by omega) hd
    omega
  · omega
  · right
    have first := (secondsIn_eq_zero_iff now.natAbs h).mp (by omega)
    have last := (secondsIn_eq_zero_iff deadline.natAbs hd).mp (by omega)
    omega
  · left
    by_contra late
    have := secondsIn_add_le deadline.natAbs now.natAbs 1 (by omega) h
    omega

theorem secondsIn_le_self (micros : Nat) (small : micros < 2 ^ 58) : secondsIn micros ≤ micros := by
  cases Nat.eq_zero_or_pos micros with
  | inl none => rw [none, secondsIn_zero]
  | inr pos =>
    obtain ⟨power, _, reaches⟩ := le_secondsIn micros pos small
    by_contra more
    have reached := (reaches (micros + 1)).mp (by omega)
    have wide : 1 < 2 ^ (power + 3) := Nat.one_lt_two_pow (by omega)
    have scaled : micros * 2 ^ (power + 3) ≤ micros * 1000000 * 2 ^ (power + 3) :=
      Nat.mul_le_mul_right _ (by omega)
    rw [Nat.add_mul, Nat.add_mul] at reached
    omega

theorem natAbs_wholeSeconds_le (micros : Int) (small : micros.natAbs < 2 ^ 58) :
    (wholeSeconds ⟨micros⟩).natAbs ≤ micros.natAbs := by
  have := secondsIn_le_self micros.natAbs small
  rw [wholeSeconds_eq]
  dsimp only
  split <;> omega

end Order

end Duration

namespace Moment

/-- A reading of the calendar on a clock whose offset is known. -/
structure Aware (m : Moment) : Prop where
  offset : ∃ seconds, m.offset = some seconds ∧ seconds.natAbs < 86400
  inRange : m.inRange = true

theorem Aware.small {m : Moment} (h : m.Aware) : m.universal.natAbs < 2 ^ 58 := by
  obtain ⟨seconds, known, _⟩ := h.offset
  have range := h.inRange
  simp only [Moment.inRange, Bool.and_eq_true, decide_eq_true_eq] at range
  simp only [universal, known, Option.getD_some]
  omega

theorem Aware.timestamp?_eq {m : Moment} (h : m.Aware) :
    m.timestamp? = some (Duration.wholeSeconds ⟨m.universal⟩) := by
  obtain ⟨seconds, known, _⟩ := h.offset
  simp [timestamp?, known]

theorem Aware.add? {m later : Moment} {d : Duration} (h : m.Aware) (sum : m.add? d = some later) :
    later.Aware ∧ later.universal = m.universal + d.micros := by
  simp only [Moment.add?, Option.ite_none_right_eq_some, Option.some.injEq] at sum
  rw [← sum.2]
  refine ⟨⟨h.offset, sum.1⟩, ?_⟩
  simp only [universal]
  omega

end Moment
end BlobStorage
