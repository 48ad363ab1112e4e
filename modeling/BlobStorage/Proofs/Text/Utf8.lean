import BlobStorage.Text.Utf8
import Mathlib.Tactic.IntervalCases

/-!
Reading UTF-8 undoes writing it: the bytes of a text read as that text, so that no two texts have the
same bytes.
-/
namespace BlobStorage.Text.Utf8

/-- A byte that does not stand for itself, and the bytes that follow it, are read as one character. -/
theorem decode_lead (n code : Nat) (l : Lead) (tail rest : List UInt8) (h : 0x80 ≤ n ∧ n < 0x100)
    (lead : lead? (UInt8.ofNat n) = some l)
    (read : continuation l.follow l.bits l.low l.high (tail ++ rest) = (some code, tail.length)) :
    decode (UInt8.ofNat n :: (tail ++ rest)) = Char.ofNat code :: decode rest := by
  have large : ¬ (UInt8.ofNat n).toNat < 0x80 := by simp; omega
  rw [decode, if_neg large, lead]
  simp [read]

theorem continuation_cons (follow bits low high n : Nat) (rest : List UInt8)
    (h : low ≤ n ∧ n ≤ high) (byte : n < 0x100) :
    continuation (follow + 1) bits low high (UInt8.ofNat n :: rest) =
      ((continuation follow (64 * bits + n % 64) 0x80 0xBF rest).1,
        (continuation follow (64 * bits + n % 64) 0x80 0xBF rest).2 + 1) := by
  have same : n % 256 = n := Nat.mod_eq_of_lt byte
  simp [continuation, same, h]

theorem lead?_two (n : Nat) (h : 0xC2 ≤ n ∧ n ≤ 0xDF) :
    lead? (UInt8.ofNat n) = some ⟨1, n % 32, 0x80, 0xBF⟩ := by
  obtain ⟨low, high⟩ := h
  interval_cases n <;> rfl

theorem lead?_three (n : Nat) (h : 0xE0 ≤ n ∧ n ≤ 0xEF) :
    lead? (UInt8.ofNat n) = some
      ⟨2, n % 16, if n = 0xE0 then 0xA0 else 0x80, if n = 0xED then 0x9F else 0xBF⟩ := by
  obtain ⟨low, high⟩ := h
  interval_cases n <;> rfl

theorem lead?_four (n : Nat) (h : 0xF0 ≤ n ∧ n ≤ 0xF4) :
    lead? (UInt8.ofNat n) = some
      ⟨3, n % 8, if n = 0xF0 then 0x90 else 0x80, if n = 0xF4 then 0x8F else 0xBF⟩ := by
  obtain ⟨low, high⟩ := h
  interval_cases n <;> rfl

theorem decode_encodeChar (c : Char) (rest : List UInt8) :
    decode (String.utf8EncodeChar c ++ rest) = c :: decode rest := by
  have back : Char.ofNat c.val.toNat = c := Char.ofNat_toNat c
  have valid : c.val.toNat < 0xD800 ∨ 0xDFFF < c.val.toNat ∧ c.val.toNat < 0x110000 := c.valid
  generalize hv : c.val.toNat = v at back valid
  simp only [String.utf8EncodeChar, hv]
  rw [← back]
  split
  case isTrue h =>
    have small : (UInt8.ofNat v).toNat < 0x80 := by simp; omega
    have same : v % 256 = v := by omega
    rw [List.singleton_append, decode, if_pos small]
    simp [same]
  split
  case isTrue h =>
    apply decode_lead _ _ _ [_] _ (by omega) (lead?_two _ (by omega))
    have second : 0x80 ≤ v % 64 + 128 ∧ v % 64 + 128 ≤ 0xBF := by omega
    rw [List.singleton_append, continuation_cons _ _ _ _ _ _ second (by omega)]
    have code : 64 * ((v / 64 % 32 + 192) % 32) + (v % 64 + 128) % 64 = v := by omega
    simp only [continuation, code, List.length_cons, List.length_nil]
  split
  case isTrue h =>
    apply decode_lead _ _ _ [_, _] _ (by omega) (lead?_three _ (by omega))
    have second : (if v / 4096 % 16 + 224 = 0xE0 then 0xA0 else 0x80) ≤ v / 64 % 64 + 128 ∧
        v / 64 % 64 + 128 ≤ (if v / 4096 % 16 + 224 = 0xED then 0x9F else 0xBF) := by
      split <;> split <;> omega
    simp only [List.cons_append, List.nil_append]
    rw [continuation_cons _ _ _ _ _ _ second (by omega),
      continuation_cons _ _ _ _ _ _ (by omega) (by omega)]
    have code : 64 * (64 * ((v / 4096 % 16 + 224) % 16) + (v / 64 % 64 + 128) % 64) +
        (v % 64 + 128) % 64 = v := by omega
    simp only [continuation, code, List.length_cons, List.length_nil]
  case isFalse =>
    apply decode_lead _ _ _ [_, _, _] _ (by omega) (lead?_four _ (by omega))
    have second : (if v / 262144 % 8 + 240 = 0xF0 then 0x90 else 0x80) ≤ v / 4096 % 64 + 128 ∧
        v / 4096 % 64 + 128 ≤ (if v / 262144 % 8 + 240 = 0xF4 then 0x8F else 0xBF) := by
      split <;> split <;> omega
    simp only [List.cons_append, List.nil_append]
    rw [continuation_cons _ _ _ _ _ _ second (by omega),
      continuation_cons _ _ _ _ _ _ (by omega) (by omega),
      continuation_cons _ _ _ _ _ _ (by omega) (by omega)]
    have code : 64 * (64 * (64 * ((v / 262144 % 8 + 240) % 8) + (v / 4096 % 64 + 128) % 64) +
        (v / 64 % 64 + 128) % 64) + (v % 64 + 128) % 64 = v := by omega
    simp only [continuation, code, List.length_cons, List.length_nil]

theorem decode_encode (text : List Char) : decode (text.flatMap String.utf8EncodeChar) = text := by
  induction text with
  | nil => simp [decode]
  | cons c text ih => rw [List.flatMap_cons, decode_encodeChar, ih]

end BlobStorage.Text.Utf8

/-- No two texts have the same bytes. -/
theorem BlobStorage.Content.ofText_inj {text other : String} :
    ofText text = ofText other ↔ text = other := by
  constructor
  · intro h
    have read := congrArg Text.Utf8.decode h
    simp only [ofText, Text.Utf8.decode_encode] at read
    exact String.toList_inj.mp read
  · exact congrArg ofText
