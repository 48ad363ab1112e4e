import BlobStorage.Proofs.Text.Utf8
import BlobStorage.Text.Percent

/-!
Percent-encoding can be undone: what is written for a path or for a form reads as the text it was
written for, and holds none of the characters that have a meaning in an address.
-/
namespace BlobStorage.Text

theorem Hex.value?_digitChar (n : Nat) (h : n < 16) :
    value? (Nat.digitChar n) = some n ∧ value? (Nat.digitChar n).toUpper = some n := by
  interval_cases n <;> decide

theorem Hex.digitChar_alphanum (n : Nat) (h : n < 16) :
    (Nat.digitChar n).isAlphanum = true ∧ (Nat.digitChar n).toUpper.isAlphanum = true := by
  interval_cases n <;> decide

theorem Hex.alphanum_of_mem_encode {bytes : List UInt8} {c : Char} (h : c ∈ Hex.encode bytes) :
    c.isAlphanum = true := by
  obtain ⟨b, _, digit⟩ := List.mem_flatMap.mp h
  have small := b.toNat_lt
  simp only [Hex.encodeByte, List.mem_cons, List.not_mem_nil, or_false] at digit
  cases digit with
  | inl high => exact high ▸ (Hex.digitChar_alphanum _ (by omega)).1
  | inr low => exact low ▸ (Hex.digitChar_alphanum _ (by omega)).1

namespace Percent

theorem visible_of_unreserved {c : Char} (h : unreserved c = true) :
    0x20 < c.toNat ∧ c.toNat < 0x80 := by
  simp only [unreserved, Bool.or_eq_true, decide_eq_true_eq] at h
  obtain (((h | rfl) | rfl) | rfl) | rfl := h
  · have ranges : c.isAlphanum = (decide (c.val ≥ 65 ∧ c.val ≤ 90) ||
        (c.val ≥ 97 && c.val ≤ 122) || (c.val ≥ 48 && c.val ≤ 57)) := rfl
    simp only [ranges, Bool.or_eq_true, Bool.and_eq_true, decide_eq_true_eq, ge_iff_le,
      UInt32.le_iff_toNat_le] at h
    simp at h
    omega
  all_goals decide

theorem escapeByte_eq (b : UInt8) :
    escapeByte b =
      ['%', (Nat.digitChar (b.toNat / 16)).toUpper, (Nat.digitChar (b.toNat % 16)).toUpper] := rfl

theorem bytes_escapeByte (b : UInt8) (rest : List Char) :
    bytes (escapeByte b ++ rest) = b :: bytes rest := by
  have small := b.toNat_lt
  have whole : 16 * (b.toNat / 16) + b.toNat % 16 = b.toNat := by omega
  simp only [escapeByte_eq, List.cons_append, List.nil_append, bytes,
    (Hex.value?_digitChar (b.toNat / 16) (by omega)).2,
    (Hex.value?_digitChar (b.toNat % 16) (by omega)).2, whole, UInt8.ofNat_toNat]

theorem bytes_escape (c : Char) (rest : List Char) :
    bytes (escape c ++ rest) = String.utf8EncodeChar c ++ bytes rest := by
  unfold escape
  generalize String.utf8EncodeChar c = bs
  induction bs with
  | nil => rfl
  | cons b bs ih => simp only [List.flatMap_cons, List.append_assoc, bytes_escapeByte, ih, List.cons_append]

theorem bytes_plain {c : Char} (h : c ≠ '%') (rest : List Char) :
    bytes (c :: rest) = String.utf8EncodeChar c ++ bytes rest := by
  rw [bytes]
  simp [h]

theorem ne_of_unreserved {c mark : Char} (h : unreserved c = true)
    (special : unreserved mark = false) : c ≠ mark := by
  intro same
  rw [same, special] at h
  cases h

theorem bytes_encodePath (text : List Char) :
    bytes (encodePath text) = text.flatMap String.utf8EncodeChar := by
  induction text with
  | nil => rfl
  | cons c text ih =>
      simp only [encodePath, List.flatMap_cons] at ih ⊢
      split
      case isTrue plain =>
        simp only [Bool.or_eq_true, decide_eq_true_eq] at plain
        have kept : c ≠ '%' := by
          cases plain with
          | inl h => exact ne_of_unreserved h (by decide)
          | inr h => exact h ▸ by decide
        rw [List.singleton_append, bytes_plain kept, ih]
      case isFalse => rw [bytes_escape, ih]

theorem decode_encodePath (text : List Char) : decode (encodePath text) = text := by
  rw [decode, bytes_encodePath, Utf8.decode_encode]

theorem mem_escape {c d : Char} (h : d ∈ escape c) : unreserved d = true ∨ d = '%' := by
  obtain ⟨b, _, part⟩ := List.mem_flatMap.mp h
  have small := b.toNat_lt
  simp only [escapeByte_eq, List.mem_cons, List.not_mem_nil, or_false] at part
  obtain rfl | rfl | rfl := part
  · exact .inr rfl
  · simp [unreserved, (Hex.digitChar_alphanum (b.toNat / 16) (by omega)).2]
  · simp [unreserved, (Hex.digitChar_alphanum (b.toNat % 16) (by omega)).2]

theorem mem_encodePath {text : List Char} {d : Char} (h : d ∈ encodePath text) :
    unreserved d = true ∨ d = '/' ∨ d = '%' := by
  obtain ⟨c, _, part⟩ := List.mem_flatMap.mp h
  split at part
  case isTrue plain =>
    rw [List.mem_singleton.mp part]
    simp only [Bool.or_eq_true, decide_eq_true_eq] at plain
    exact plain.imp_right .inl
  case isFalse => exact (mem_escape part).imp_right .inr

theorem mem_encodeForm {text : List Char} {d : Char} (h : d ∈ encodeForm text) :
    unreserved d = true ∨ d = '+' ∨ d = '%' := by
  obtain ⟨c, _, part⟩ := List.mem_flatMap.mp h
  split at part
  case isTrue plain => exact .inl (List.mem_singleton.mp part ▸ plain)
  split at part
  case isTrue => exact .inr (.inl (List.mem_singleton.mp part))
  case isFalse => exact (mem_escape part).imp_right .inr

/-- The bytes of a form, where a plus sign is a blank. -/
theorem bytes_encodeForm (text : List Char) :
    bytes ((encodeForm text).map fun c => if c = '+' then ' ' else c) =
      text.flatMap String.utf8EncodeChar := by
  have kept {c : Char} (h : unreserved c = true ∨ c = '%') :
      (if c = '+' then ' ' else c) = c := by
    rw [if_neg]
    intro e
    subst e
    exact absurd h (by decide)
  induction text with
  | nil => rfl
  | cons c text ih =>
      simp only [encodeForm, List.flatMap_cons, List.map_append] at ih ⊢
      split
      case isTrue plain =>
        rw [List.map_singleton, kept (.inl plain), List.singleton_append,
          bytes_plain (ne_of_unreserved plain (by decide)), ih]
      split
      case isTrue blank =>
        rw [blank, List.map_singleton, if_pos rfl, List.singleton_append,
          bytes_plain (by decide), ih]
      case isFalse =>
        have same : (escape c).map (fun c => if c = '+' then ' ' else c) = escape c :=
          (List.map_congr_left fun d hd => kept (mem_escape hd)).trans (List.map_id _)
        rw [same, bytes_escape, ih]

theorem decodeForm_encodeForm (text : List Char) : decodeForm (encodeForm text) = text := by
  rw [decodeForm, decode, bytes_encodeForm, Utf8.decode_encode]

theorem encodeForm_eq_nil_iff (text : List Char) : encodeForm text = [] ↔ text = [] := by
  constructor
  · intro none
    have read := decodeForm_encodeForm text
    rw [none] at read
    exact read.symm.trans (decodeForm_encodeForm [])
  · intro none
    rw [none]
    rfl

/-- A pair as it is written. -/
theorem mem_encodePair (pair : String × String) (d : Char)
    (h : d ∈ encodeForm pair.1.toList ++ '=' :: encodeForm pair.2.toList) :
    unreserved d = true ∨ d = '+' ∨ d = '%' ∨ d = '=' := by
  simp only [List.mem_append, List.mem_cons] at h
  cases h with
  | inl name => exact (mem_encodeForm name).imp_right fun h => h.imp_right .inl
  | inr rest =>
      cases rest with
      | inl mark => exact .inr (.inr (.inr mark))
      | inr value => exact (mem_encodeForm value).imp_right fun h => h.imp_right .inl

theorem mem_encodePairs (pairs : List (String × String)) (d : Char) (h : d ∈ encodePairs pairs) :
    unreserved d = true ∨ d = '+' ∨ d = '%' ∨ d = '=' ∨ d = '&' := by
  induction pairs with
  | nil => cases h
  | cons pair rest ih =>
      have own (here : d ∈ encodeForm pair.1.toList ++ '=' :: encodeForm pair.2.toList) :
          unreserved d = true ∨ d = '+' ∨ d = '%' ∨ d = '=' ∨ d = '&' :=
        (mem_encodePair pair d here).imp_right fun h => h.imp_right fun h => h.imp_right .inl
      cases rest with
      | nil => exact own (by simpa [encodePairs] using h)
      | cons next rest =>
          rw [encodePairs, List.map_cons, List.map_cons, List.intercalate_cons_cons, List.mem_append,
            List.mem_append, List.mem_singleton] at h
          cases h with
          | inl front =>
              cases front with
              | inl here => exact own here
              | inr mark => exact .inr (.inr (.inr (.inr mark)))
          | inr later => exact ih later

theorem escape_eq_cons (c : Char) : ∃ rest, escape c = '%' :: rest := by
  unfold escape String.utf8EncodeChar
  dsimp only
  split
  · exact ⟨_, rfl⟩
  split
  · exact ⟨_, rfl⟩
  split <;> exact ⟨_, rfl⟩

/-- Leading slashes are written as they are, and nothing else is written with a slash in front. -/
theorem dropWhile_encodePath (text : List Char) :
    (encodePath text).dropWhile (· = '/') = encodePath (text.dropWhile (· = '/')) := by
  induction text with
  | nil => rfl
  | cons c text ih =>
      by_cases slash : c = '/'
      · subst slash
        simp only [List.dropWhile_cons, decide_true, if_true, ← ih]
        rfl
      · rw [List.dropWhile_cons, if_neg (by simpa using slash)]
        simp only [encodePath, List.flatMap_cons]
        split
        case isTrue plain => simp [slash]
        case isFalse =>
          obtain ⟨rest, first⟩ := escape_eq_cons c
          simp [first]

end Percent
end BlobStorage.Text
