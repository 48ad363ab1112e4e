import BlobStorage.Proofs.Store

/-!
The bytes that a range asks for: those at the positions that it names, counted from the start or from
the end, as far as there are any. They are consecutive, and ranges that follow one another ask for pieces
that make up the whole.
-/
namespace BlobStorage

namespace Content
variable {content : Content}

/-- The bytes at the positions from one up to another, where the first byte is at the offset. -/
theorem filter_zipIdx (content : Content) (offset low high : Nat) :
    ((content.zipIdx offset).filter fun p => decide (low ≤ p.2 ∧ p.2 < high)).map (·.1) =
      (content.take (high - offset)).drop (low - offset) := by
  induction content generalizing offset with
  | nil => simp
  | cons byte rest ih =>
      have later := ih (offset + 1)
      rw [List.zipIdx_cons, List.filter_cons]
      by_cases past : high ≤ offset
      · have outside : ¬ decide (low ≤ offset ∧ offset < high) = true := by simp; omega
        rw [if_neg outside, later, Nat.sub_eq_zero_of_le past,
          Nat.sub_eq_zero_of_le (Nat.le_succ_of_le past), List.take_zero, List.take_zero,
          List.drop_nil, List.drop_nil]
      · have more : high - offset = high - (offset + 1) + 1 := by omega
        rw [more, List.take_succ_cons]
        by_cases before : offset < low
        · have outside : ¬ decide (low ≤ offset ∧ offset < high) = true := by simp; omega
          have skip : low - offset = low - (offset + 1) + 1 := by omega
          rw [if_neg outside, later, skip, List.drop_succ_cons]
        · have inside : decide (low ≤ offset ∧ offset < high) = true := by simp; omega
          have start : low - offset = 0 ∧ low - (offset + 1) = 0 := by omega
          rw [if_pos inside, List.map_cons, later, start.1, start.2, List.drop_zero, List.drop_zero]

/-- The pieces of a content are cut out of it at the multiples of their size. -/
theorem getElem?_pieces {size : Nat} (positive : 0 < size) (content : Content) (n : Nat) :
    (pieces size content)[n]? =
      if n * size < content.length then some ((content.drop (n * size)).take size) else none := by
  fun_induction pieces size content generalizing n with
  | case1 content none =>
      have empty : content = [] := none.resolve_left (by omega)
      simp [empty]
  | case2 content more ih =>
      have some_byte : 0 < content.length := by
        refine List.length_pos_iff.mpr fun empty => more (.inr empty)
      cases n with
      | zero => simp [some_byte]
      | succ n =>
          have shifted : (n + 1) * size = size + n * size := by rw [Nat.succ_mul, Nat.add_comm]
          rw [List.getElem?_cons_succ, ih, shifted, List.drop_drop, List.length_drop]
          congr 1
          exact propext (by omega)

/-- There are no more pieces than it takes to get past the last byte. -/
theorem length_le_pieces {size : Nat} (positive : 0 < size) (content : Content) :
    content.length ≤ (pieces size content).length * size := by
  have past := getElem?_pieces positive content (pieces size content).length
  rw [List.getElem?_eq_none (Nat.le_refl _)] at past
  split at past
  · cases past
  · omega

end Content

namespace DownloadRequest

def Covers (r : DownloadRequest) (size position : Nat) : Prop :=
  match r.start, r.stop with
  | some start, some stop => start ≤ position ∧ position ≤ stop
  | some start, none => start ≤ position
  | none, some count => size - count ≤ (position : Int)
  | none, none => True

instance (r : DownloadRequest) (size position : Nat) : Decidable (r.Covers size position) :=
  match r with
  | ⟨_, _, some start, some stop⟩ =>
      inferInstanceAs (Decidable (start ≤ (position : Int) ∧ (position : Int) ≤ stop))
  | ⟨_, _, some start, none⟩ => inferInstanceAs (Decidable (start ≤ (position : Int)))
  | ⟨_, _, none, some count⟩ => inferInstanceAs (Decidable ((size : Int) - count ≤ position))
  | ⟨_, _, none, none⟩ => .isTrue trivial

/-- The bytes at the positions that are asked for. -/
def chosen (r : DownloadRequest) (content : Content) : Content :=
  (content.zipIdx.filter fun p => decide (r.Covers content.length p.2)).map (·.1)

/-- The part of an object's bytes that a download is about. -/
def cut (r : DownloadRequest) (content : Content) : Content :=
  match r.start, r.stop with
  | some start, some stop => (content.take (stop.toNat + 1)).drop start.toNat
  | some start, none => content.drop start.toNat
  | none, some count => content.suffix count.toNat
  | none, none => content

/-- The piece of a key that follows so many others of the same size. -/
def piece (key : String) (version : Option String) (size n : Nat) : DownloadRequest where
  key := key
  version := version
  start := some (n * size : Nat)
  stop := some (((n + 1) * size : Nat) - 1 : Int)

variable {r : DownloadRequest} {content : Content}

/-- Bytes at consecutive positions are cut out. -/
theorem chosen_eq (low high : Nat)
    (covered : ∀ i < content.length, r.Covers content.length i ↔ low ≤ i ∧ i < high) :
    r.chosen content = (content.take high).drop low := by
  have same : content.zipIdx.filter (fun p => decide (r.Covers content.length p.2)) =
      content.zipIdx.filter (fun p => decide (low ≤ p.2 ∧ p.2 < high)) := by
    refine List.filter_congr fun p listed => decide_eq_decide.mpr (covered p.2 ?_)
    exact List.snd_lt_of_mem_zipIdx listed
  rw [chosen, same, Content.filter_zipIdx, Nat.sub_zero, Nat.sub_zero]

/-- What an accepted range asks for is cut out of the bytes. -/
theorem chosen_eq_cut (checked : Check.range r = .ok ()) (content : Content) :
    r.chosen content = r.cut content := by
  obtain ⟨low, -, forward⟩ := Check.range_eq_ok_iff.mp checked
  obtain ⟨key, version, start, stop⟩ := r
  cases start with
  | none =>
      cases stop with
      | none =>
          refine (chosen_eq 0 content.length fun i inside => ?_).trans ?_
          · exact iff_of_true trivial ⟨Nat.zero_le i, inside⟩
          · rw [List.take_length, List.drop_zero, cut]
      | some count =>
          refine (chosen_eq (content.length - count.toNat) content.length fun i inside => ?_).trans ?_
          · change content.length - count ≤ (i : Int) ↔ _
            omega
          · rw [List.take_length]
            rfl
  | some start =>
      have positive := low start rfl
      cases stop with
      | none =>
          refine (chosen_eq start.toNat content.length fun i inside => ?_).trans ?_
          · change start ≤ i ↔ _
            omega
          · rw [List.take_length, cut]
      | some stop =>
          have ordered := forward start rfl stop rfl
          refine chosen_eq start.toNat (stop.toNat + 1) fun i inside => ?_
          change start ≤ i ∧ i ≤ stop ↔ _
          omega

example : chosen { key := "k", stop := some 5 } [1, 2, 3] = [1, 2, 3] := by decide
example : chosen { key := "k", stop := some 0 } [1, 2, 3] = [] := by decide

/-- Between two positions inside there are as many bytes as positions. -/
theorem length_chosen_between (checked : Check.range r = .ok ()) {start stop : Int}
    (starts : r.start = some start) (stops : r.stop = some stop) (inside : stop < content.length) :
    ((r.chosen content).length : Int) = stop - start + 1 := by
  obtain ⟨low, -, forward⟩ := Check.range_eq_ok_iff.mp checked
  have positive := low start starts
  have ordered := forward start starts stop stops
  rw [chosen_eq_cut checked, cut, starts, stops]
  dsimp only
  rw [List.length_drop, List.length_take]
  omega

theorem range_piece {size : Nat} (positive : 0 < size) (key : String) (version : Option String)
    (n : Nat) : Check.range (piece key version size n) = .ok () := by
  have grows : (n + 1) * size = n * size + size := Nat.succ_mul n size
  refine Check.range_eq_ok_iff.mpr ⟨?_, ?_, ?_⟩
  · rintro _ ⟨⟩
    omega
  · rintro _ ⟨⟩
    omega
  · rintro _ ⟨⟩ _ ⟨⟩
    omega

theorem chosen_piece {size : Nat} (positive : 0 < size) (key : String) (version : Option String)
    (n : Nat) (content : Content) :
    (piece key version size n).chosen content = (content.drop (n * size)).take size := by
  have last : ((((n + 1) * size : Nat) : Int) - 1).toNat + 1 = n * size + size := by
    rw [Nat.succ_mul]
    omega
  rw [chosen_eq_cut (range_piece positive key version n), cut, piece]
  dsimp only
  rw [last, Int.toNat_natCast, List.drop_take, Nat.add_sub_cancel_left]

end DownloadRequest
end BlobStorage
