import BlobStorage.Proofs.Number.Numeral
import BlobStorage.Proofs.Range
import BlobStorage.S3.Service

/-!
The header of a range, written and read. Bounds that a download accepts are sent as numbers in plain
digits, so the service is asked for the very bytes that the download is about.
-/
namespace BlobStorage

namespace S3.ByteRange
open Number

theorem plainDigits?_digits (text : List Char) (h : ∀ c ∈ text, c.isDigit = true) :
    Numeral.plainDigits? text = some (text.map (·.toNat - 48)) := by
  induction text with
  | nil => rfl
  | cons c rest ih =>
      have here := h c List.mem_cons_self
      have there := ih fun d hd => h d (List.mem_cons_of_mem c hd)
      unfold Numeral.plainDigits? at there ⊢
      rw [List.mapM_cons, there, Numeral.asciiDigit?, if_pos here]
      rfl

theorem bound?_toString {n : Int} (h : 0 ≤ n) : bound? (toString n).toList = some (some n.toNat) := by
  have digits : (toString n).toList = Nat.toDigits 10 n.natAbs := by
    rw [Numeral.toList_toString, if_neg (by omega), List.nil_append]
  have some_digit : (Nat.toDigits 10 n.natAbs).isEmpty = false :=
    List.isEmpty_eq_false_iff.mpr Nat.toDigits_ne_nil
  rw [bound?, digits, some_digit,
    plainDigits?_digits _ (Numeral.isDigit_toDigits n.natAbs), Option.map_some,
    Numeral.spelled_toDigits, show n.natAbs = n.toNat by omega]
  rfl

theorem digits_unmarked {n : Int} (h : 0 ≤ n) : ∀ c ∈ (toString n).toList, decide (c ≠ '-') = true := by
  intro c hc
  rw [Numeral.toList_toString, if_neg (by omega), List.nil_append] at hc
  have digit := Numeral.isDigit_toDigits _ c hc
  refine decide_eq_true fun same => ?_
  rw [same] at digit
  exact absurd digit (by decide)

theorem bound?_open : bound? [] = some none := rfl

theorem bounds?_marked {first : List Char} (unmarked : ∀ c ∈ first, decide (c ≠ '-') = true)
    (last : List Char) :
    bounds? ("bytes=".toList ++ (first ++ '-' :: last)) =
      (bound? first).bind fun a => (bound? last).map fun b => (a, b) := by
  have lead : "bytes=".toList.isPrefixOf ("bytes=".toList ++ (first ++ '-' :: last)) = true :=
    List.isPrefixOf_iff_prefix.mpr (List.prefix_append ..)
  have before : (first ++ '-' :: last).takeWhile (· ≠ '-') = first := by
    rw [List.takeWhile_append_of_pos unmarked, List.takeWhile_cons_of_neg (by decide),
      List.append_nil]
  have after : ((first ++ '-' :: last).dropWhile (· ≠ '-')).drop 1 = last := by
    rw [List.dropWhile_append_of_pos unmarked, List.dropWhile_cons_of_neg (by decide)]
    rfl
  rw [bounds?, if_pos lead, show ("bytes=".toList ++ (first ++ '-' :: last)).drop "bytes=".length =
    first ++ '-' :: last from rfl, pair?, before, after]
  cases bound? first <;> cases bound? last <;> rfl

variable {r : DownloadRequest}

theorem bounds?_rangeHeader (checked : Check.range r = .ok ()) {header : String}
    (sent : r.rangeHeader = some header) :
    bounds? header.toList = some (r.start.map (·.toNat), r.stop.map (·.toNat)) := by
  obtain ⟨starts, stops, -⟩ := Check.range_eq_ok_iff.mp checked
  obtain ⟨key, version, start, stop⟩ := r
  cases start with
  | none =>
      cases stop with
      | none => cases sent
      | some stop =>
          cases sent
          have read := bounds?_marked (List.forall_mem_nil _) (toString stop).toList
          rw [bound?_open, bound?_toString (stops stop rfl)] at read
          simpa using read
  | some start =>
      have unmarked := digits_unmarked (starts start rfl)
      cases stop with
      | none =>
          cases sent
          have read := bounds?_marked unmarked []
          rw [bound?_open, bound?_toString (starts start rfl)] at read
          simpa using read
      | some stop =>
          cases sent
          have read := bounds?_marked unmarked (toString stop).toList
          rw [bound?_toString (starts start rfl), bound?_toString (stops stop rfl)] at read
          simpa using read

/-- What the service is asked for is what the download is about. -/
theorem cut_of_cut? (checked : Check.range r = .ok ()) {content part : Content}
    (found : cut? r.rangeHeader content = some part) : part = r.cut content := by
  have forward := (Check.range_eq_ok_iff.mp checked).2.2
  have read : r.rangeHeader.bind (fun text => bounds? text.toList) =
      r.rangeHeader.map fun _ => (r.start.map (·.toNat), r.stop.map (·.toNat)) := by
    cases sent : r.rangeHeader with
    | none => rfl
    | some header => exact bounds?_rangeHeader checked sent
  obtain ⟨key, version, start, stop⟩ := r
  rw [cut?, read] at found
  cases start with
  | none =>
      cases stop with
      | none => exact (Option.some.inj found).symm
      | some count =>
          by_cases zero : count.toNat = 0
          · simp [DownloadRequest.rangeHeader, zero] at found
          · simpa [DownloadRequest.rangeHeader, DownloadRequest.cut, zero, eq_comm] using found
  | some start =>
      by_cases beyond : content.length ≤ start.toNat
      · cases stop <;> simp [DownloadRequest.rangeHeader, beyond] at found
      · cases stop with
        | none => simpa [DownloadRequest.rangeHeader, DownloadRequest.cut, beyond, eq_comm] using found
        | some stop =>
            have ordered : ¬ stop.toNat < start.toNat := by
              have := forward start rfl stop rfl
              omega
            simpa [DownloadRequest.rangeHeader, DownloadRequest.cut, beyond, ordered, eq_comm]
              using found

end S3.ByteRange
end BlobStorage
