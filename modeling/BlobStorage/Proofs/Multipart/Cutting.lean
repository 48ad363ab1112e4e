import BlobStorage.Proofs.Multipart

/-!
Cutting one source into parts. Bytes at hand are sliced at every multiple of a part's size; a stream is
read until a read gives nothing. Both come to the same parts, also where the last read before the empty
one was full, and where there is nothing to read at all.
-/
namespace BlobStorage

/-- The bytes of a part, where they can be read. -/
def Part.held (p : Part) : Content := p.data.toOption.getD []

/-- A stream with a state of its own: what a read of so many bytes gives, and what it leaves. -/
structure Reader (σ : Type) where
  read : Nat → σ → Content × σ

namespace Reader
variable {σ : Type} {r : Reader σ} {holds : σ → Content} {size : Nat} {s : σ}
  {pieces pieces' : List Content}

/-- A read gives the bytes that it is asked for, or those that are left, and leaves the rest. -/
structure Honest (r : Reader σ) (holds : σ → Content) : Prop where
  gives : ∀ n s, (r.read n s).1 = (holds s).take n
  leaves : ∀ n s, holds (r.read n s).2 = (holds s).drop n

/-- Reading until a read gives nothing. -/
inductive Drains (r : Reader σ) (size : Nat) : σ → List Content → Prop
  | ends {s : σ} : (r.read size s).1 = [] → Drains r size s []
  | goes {s : σ} {rest : List Content} : (r.read size s).1 ≠ [] →
      Drains r size (r.read size s).2 rest → Drains r size s ((r.read size s).1 :: rest)

theorem Drains.unique (drains : r.Drains size s pieces) (drains' : r.Drains size s pieces') :
    pieces = pieces' := by
  induction drains generalizing pieces' with
  | ends none =>
      cases drains' with
      | ends _ => rfl
      | goes more _ => exact absurd none more
  | goes more _ ih =>
      cases drains' with
      | ends none => exact absurd none more
      | goes _ rest => rw [ih rest]

/-- Reading ends: every read that gives something leaves less to read. -/
theorem drains_pieces (honest : r.Honest holds) (positive : 0 < size) (s : σ) :
    r.Drains size s (Content.pieces size (holds s)) := by
  generalize content : holds s = c
  fun_induction Content.pieces size c generalizing s with
  | case1 c none =>
      obtain rfl : c = [] := none.resolve_left (Nat.ne_of_gt positive)
      refine .ends ?_
      rw [honest.gives, content, List.take_nil]
  | case2 c more ih =>
      have some_left : c ≠ [] := fun is => more (.inr is)
      have given : (r.read size s).1 = c.take size := by rw [honest.gives, content]
      have left := ih (r.read size s).2 (by rw [honest.leaves, content])
      rw [← given]
      refine .goes ?_ left
      rw [given]
      exact fun is => some_left ((List.take_eq_nil_iff.mp is).resolve_left (Nat.ne_of_gt positive))

end Reader

namespace Multipart
variable {content : Content} {size : Nat}

/-- Slices at every multiple of a size. -/
def slices (size : Nat) (content : Content) : List Content :=
  (List.range ((content.length + size - 1) / size)).map fun i =>
    (content.drop (i * size)).take size

theorem pieces_eq_slices (positive : 0 < size) (content : Content) :
    Content.pieces size content = slices size content := by
  fun_induction Content.pieces size content with
  | case1 content none =>
      obtain rfl : content = [] := none.resolve_left (Nat.ne_of_gt positive)
      have nothing : (0 + size - 1) / size = 0 := Nat.div_eq_of_lt (by omega)
      rw [slices, List.length_nil, nothing]
      rfl
  | case2 content more ih =>
      have count := (Directory.cut_pieces positive content).count
      rw [Content.pieces, if_neg more, List.length_cons,
        (Directory.cut_pieces positive (content.drop size)).count] at count
      rw [ih, slices, slices, ← count, List.range_succ_eq_map, List.map_cons, List.map_map]
      refine congr (congrArg _ ?_) (List.map_congr_left fun i _ => ?_)
      · rw [Nat.zero_mul, List.drop_zero]
      · rw [Function.comp_apply, List.drop_drop, Nat.succ_mul, Nat.add_comm]

/-- Where there is nothing to cut, one empty piece stands in. -/
def orEmpty (pieces : List Content) : List Content :=
  match pieces with
  | [] => [[]]
  | pieces => pieces

theorem parts_of_chunks {source : Source} {size : Int} {pieces : List Content} (positive : 1 ≤ size)
    (cut : chunks source size.toNat = .ok pieces) :
    parts source size = .ok (number 1 (orEmpty pieces)) := by
  unfold parts
  rw [if_neg (by omega), cut]
  cases pieces <;> rfl

theorem parts_bytes {size : Int} (positive : 1 ≤ size) (content : Content) :
    parts (.bytes content) size = .ok (number 1 (orEmpty (slices size.toNat content))) := by
  refine parts_of_chunks positive ?_
  rw [chunks, pieces_eq_slices (by omega)]

theorem parts_stream {size : Int} (positive : 1 ≤ size) (reads : Reads (.stream content) size) :
    parts (.stream content) size = .ok (number 1 (orEmpty (slices size.toNat content))) := by
  refine parts_of_chunks positive ?_
  have first : content.read (Int.ofNat size.toNat) = .ok (content.take size.toNat) := by
    rw [show Int.ofNat size.toNat = size from Int.toNat_of_nonneg (by omega)]
    exact reads (by omega)
  rw [chunks, first, ← pieces_eq_slices (by omega), ← drain_eq_pieces]
  rfl

theorem reads_of_word {size : Int} (fits : size < Int.pow 2 63) (content : Content) :
    Reads (.stream content) size := by
  intro natural
  rw [Content.read, if_neg (by simp at fits; omega), if_neg (by omega)]

/-- The parts that some bytes are cut into. -/
structure Cutting (content : Content) (size : Int) (ps : List Part) : Prop where
  numbered : ps.map (·.number) =
    (List.range (partCount content.length size)).map fun i : Nat => 1 + Int.ofNat i
  /-- Each part holds its own slice of the bytes. -/
  sliced : ∀ (i : Nat) (p : Part), ps[i]? = some p →
    p.data = .ok ((content.drop (i * size.toNat)).take size.toNat)
  declared : ∀ p ∈ ps, p.contentLength = some (Int.ofNat p.held.length)
  full : ∀ p ∈ ps.dropLast, Int.ofNat p.held.length = size
  /-- The last part is empty just if there is nothing to cut. -/
  last : ∃ p, ps.getLast? = some p ∧ Int.ofNat p.held.length ≤ size ∧ (p.held = [] ↔ content = [])
  whole : ps.flatMap Part.held = content

section Numbered

theorem held_number (n : Int) (cs : List Content) : (number n cs).map Part.held = cs := by
  induction cs generalizing n with
  | nil => rfl
  | cons c rest ih => exact congrArg (c :: ·) (ih (n + 1))

theorem declared_number {n : Int} {cs : List Content} {p : Part} (hp : p ∈ number n cs) :
    p.data = .ok p.held ∧ p.contentLength = some (Int.ofNat p.held.length) := by
  induction cs generalizing n with
  | nil => cases hp
  | cons c rest ih =>
      rcases List.mem_cons.mp hp with rfl | later
      · exact ⟨rfl, rfl⟩
      · exact ih later

end Numbered

section Pieces
variable (positive : 0 < size)
include positive

theorem cut_slices (content : Content) : Directory.Cut size content (slices size content) := by
  rw [← pieces_eq_slices positive]
  exact Directory.cut_pieces positive content

theorem orEmpty_slices (content : Content) :
    content = [] ∧ orEmpty (slices size content) = [[]] ∨
      content ≠ [] ∧ orEmpty (slices size content) = slices size content ∧
        slices size content ≠ [] := by
  have whole := (cut_slices positive content).whole
  cases cut : slices size content with
  | nil =>
      rw [cut] at whole
      exact .inl ⟨whole.symm, rfl⟩
  | cons first rest =>
      refine .inr ⟨?_, rfl, List.cons_ne_nil _ _⟩
      rintro rfl
      have none : (0 + size - 1) / size = 0 := Nat.div_eq_of_lt (by omega)
      rw [slices, List.length_nil, none] at cut
      cases cut

theorem getElem?_orEmpty_slices {i : Nat} {c : Content}
    (found : (orEmpty (slices size content))[i]? = some c) :
    c = (content.drop (i * size)).take size := by
  obtain ⟨rfl, stood⟩ | ⟨-, same, -⟩ := orEmpty_slices positive content
  · rw [stood, List.getElem?_singleton] at found
    split at found <;> cases found
    rw [List.drop_nil, List.take_nil]
  · rw [same, slices, List.getElem?_map] at found
    obtain ⟨j, place, rfl⟩ := Option.map_eq_some_iff.mp found
    obtain ⟨-, rfl⟩ := List.getElem?_eq_some_iff.mp place
    rw [List.getElem_range]

theorem length_of_mem_dropLast {c : Content} (hc : c ∈ (orEmpty (slices size content)).dropLast) :
    c.length = size := by
  obtain ⟨-, stood⟩ | ⟨-, same, -⟩ := orEmpty_slices positive content
  · rw [stood] at hc
    cases hc
  · rw [same] at hc
    exact (cut_slices positive content).full c hc

theorem getLast?_orEmpty_slices (content : Content) :
    ∃ c, (orEmpty (slices size content)).getLast? = some c ∧ c.length ≤ size ∧
      (c = [] ↔ content = []) := by
  obtain ⟨rfl, stood⟩ | ⟨more, same, some_piece⟩ := orEmpty_slices positive content
  · exact ⟨[], congrArg List.getLast? stood, Nat.zero_le _, iff_of_true rfl rfl⟩
  · have last := List.getLast?_eq_some_getLast some_piece
    obtain ⟨filled, fits⟩ := (cut_slices positive content).last _ last
    refine ⟨_, (congrArg List.getLast? same).trans last, fits, ?_⟩
    exact iff_of_false (List.ne_nil_of_length_pos filled) more

theorem flatten_orEmpty_slices (content : Content) :
    (orEmpty (slices size content)).flatten = content := by
  obtain ⟨rfl, stood⟩ | ⟨-, same, -⟩ := orEmpty_slices positive content
  · rw [stood]
    rfl
  · rw [same, (cut_slices positive content).whole]

end Pieces

theorem length_orEmpty (pieces : List Content) : (orEmpty pieces).length = max 1 pieces.length := by
  cases pieces with
  | nil => rfl
  | cons first rest => exact (Nat.max_eq_right (Nat.succ_pos _)).symm

/-- What the slices of some bytes make, as parts. -/
theorem cutting_slices {size : Int} (positive : 1 ≤ size) (content : Content) :
    Cutting content size (number 1 (orEmpty (slices size.toNat content))) := by
  have natural : 0 < size.toNat := by omega
  have held := held_number 1 (orEmpty (slices size.toNat content))
  refine ⟨?_, fun i p found => ?_, fun p hp => (declared_number hp).2, fun p hp => ?_, ?_, ?_⟩
  · rw [numbers_number, length_orEmpty, slices, List.length_map, List.length_range, partCount]
  · have place : (orEmpty (slices size.toNat content))[i]? = some p.held := by
      rw [← held, List.getElem?_map, found]
      rfl
    rw [(declared_number (List.mem_of_getElem? found)).1, getElem?_orEmpty_slices natural place]
  · have place : p.held ∈ (orEmpty (slices size.toNat content)).dropLast := by
      rw [← held, ← List.map_dropLast]
      exact List.mem_map_of_mem hp
    rw [length_of_mem_dropLast natural place]
    exact Int.toNat_of_nonneg (by omega)
  · obtain ⟨c, last, fits, empty⟩ := getLast?_orEmpty_slices natural content
    rw [← held, List.getLast?_map] at last
    obtain ⟨p, found, rfl⟩ := Option.map_eq_some_iff.mp last
    exact ⟨p, found, by simp only [Int.ofNat_eq_natCast]; omega, empty⟩
  · rw [List.flatMap_def, held, flatten_orEmpty_slices natural]

/-- How one source is cut, as bytes or as a stream of any kind. -/
structure CuttingLaws (content : Content) (size : Int) : Prop where
  cut : 1 ≤ size → ∃ ps, parts (.bytes content) size = .ok ps ∧ Cutting content size ps
  /-- A stream that reads as it should comes to the same parts. -/
  alike : 1 ≤ size → Reads (.stream content) size →
    parts (.stream content) size = parts (.bytes content) size
  reads : size < Int.pow 2 63 → Reads (.stream content) size
  /-- So does reading any such stream until a read gives nothing, and that comes to an end. -/
  drained : 1 ≤ size → ∀ {σ : Type} {r : Reader σ} {holds : σ → Content} {s : σ},
    r.Honest holds → holds s = content →
    ∃ pieces, r.Drains size.toNat s pieces ∧ (∀ pieces', r.Drains size.toNat s pieces' →
      pieces' = pieces) ∧ parts (.bytes content) size = .ok (number 1 (orEmpty pieces))

theorem parts_of_source (content : Content) (size : Int) : CuttingLaws content size where
  cut positive := ⟨_, parts_bytes positive content, cutting_slices positive content⟩
  alike positive reads := (parts_stream positive reads).trans (parts_bytes positive content).symm
  reads fits := reads_of_word fits content
  drained positive _ r holds s honest held := by
    have natural : 0 < size.toNat := by omega
    have drains := Reader.drains_pieces honest natural s
    rw [held, pieces_eq_slices natural] at drains
    exact ⟨_, drains, fun _ drains' => drains'.unique drains, parts_bytes positive content⟩

example : (parts (.stream [1, 2, 3, 4]) 2).map (·.map Part.held) = .ok [[1, 2], [3, 4]] := by
  cbv

end Multipart
end BlobStorage
