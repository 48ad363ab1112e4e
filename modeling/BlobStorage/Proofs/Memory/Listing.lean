import BlobStorage.Memory.Listing
import BlobStorage.Proofs.Memory.View
import BlobStorage.Proofs.Sorting
import Mathlib.Data.String.Basic

/-!
What a listing without a delimiter shows: every key under the stem with its newest version, by key. A
page shows the first of those that follow its place, and names the last of them as the next place.
-/
namespace BlobStorage.Memory.Listing

/-- The key comes after the place, if there is one. -/
def Follows (place : Option String) (key : String) : Prop := ∀ t ∈ place, t < key

/-- These are the newest versions of the keys under a stem after a place, by key. -/
structure Heads (s : Backend) (bucket stem : String) (place : Option String)
    (heads : List (String × Version)) : Prop where
  ascending : heads.Pairwise fun a b => a.1 < b.1
  mem : ∀ key v, (key, v) ∈ heads ↔
    stem.toList.isPrefixOf key.toList = true ∧ Follows place key ∧
      (s.versionsAt bucket key).getLast? = some v

section Heads
variable {s t : Backend} {bucket stem : String} {place : Option String}
  {heads heads' : List (String × Version)}

theorem Heads.distinct (h : Heads s bucket stem place heads) : (heads.map (·.1)).Nodup := by
  rw [List.Nodup, List.pairwise_map]
  exact h.ascending.imp fun lt => ne_of_lt lt

theorem Heads.unique (h : Heads s bucket stem place heads)
    (k : Heads s bucket stem place heads') : heads = heads' := by
  have perm : heads.Perm heads' := by
    refine (List.perm_ext_iff_of_nodup h.distinct.of_map k.distinct.of_map).mpr ?_
    intro ⟨key, v⟩
    rw [h.mem, k.mem]
  refine List.Perm.eq_of_pairwise ?_ h.ascending k.ascending perm
  intro a b _ _ ab ba
  exact absurd ba (lt_asymm ab)

/-- The heads after a place depend on nothing but the versions of the keys that come after it. -/
theorem Heads.congr (h : Heads s bucket stem place heads)
    (same : ∀ key, Follows place key → t.versionsAt bucket key = s.versionsAt bucket key) :
    Heads t bucket stem place heads := by
  refine ⟨h.ascending, fun key v => ?_⟩
  rw [h.mem]
  refine and_congr_right fun _ => and_congr_right fun after => ?_
  rw [same key after]

theorem Heads.eq_nil_iff (h : Heads s bucket stem none heads) :
    heads = [] ↔ ∀ key, stem.toList.isPrefixOf key.toList = true → s.versionsAt bucket key = [] := by
  constructor
  · rintro rfl key under
    rw [← List.getLast?_eq_none_iff]
    cases newest : (s.versionsAt bucket key).getLast? with
    | none => rfl
    | some v => cases (h.mem key v).mpr ⟨under, (fun _ is => nomatch is), newest⟩
  · intro empty
    refine List.eq_nil_iff_forall_not_mem.mpr fun head listed => ?_
    obtain ⟨under, _, newest⟩ := (h.mem head.1 head.2).mp listed
    rw [empty head.1 under] at newest
    cases newest

theorem not_lt_last {here : List (String × Version)} {last h : String × Version}
    (ascending : here.Pairwise fun a b => a.1 < b.1) (ends : here.getLast? = some last)
    (hm : h ∈ here) : ¬ last.1 < h.1 := by
  obtain ⟨before, rfl⟩ := List.getLast?_eq_some_iff.mp ends
  cases List.mem_append.mp hm with
  | inl before_last =>
      exact lt_asymm ((List.pairwise_append.mp ascending).2.2 h before_last last (by simp))
  | inr same =>
      rw [List.mem_singleton.mp same]
      exact lt_irrefl _

theorem Heads.rest {done rest : List (String × Version)} {last : String × Version}
    (h : Heads s bucket stem place (done ++ rest)) (ends : done.getLast? = some last) :
    Heads s bucket stem (some last.1) rest := by
  obtain ⟨ascending, later, split⟩ := List.pairwise_append.mp h.ascending
  have listed := List.mem_of_getLast? ends
  have follows : Follows place last.1 := ((h.mem last.1 last.2).mp (by simp [listed])).2.1
  refine ⟨later, fun key v => ?_⟩
  constructor
  · intro hm
    obtain ⟨under, _, newest⟩ := (h.mem key v).mp (by simp [hm])
    refine ⟨under, ?_, newest⟩
    intro t ht
    obtain rfl := Option.some.inj ht
    exact split last listed (key, v) hm
  · intro ⟨under, after, newest⟩
    have lt : last.1 < key := after last.1 rfl
    have hm := (h.mem key v).mpr ⟨under, fun t ht => (follows t ht).trans lt, newest⟩
    cases List.mem_append.mp hm with
    | inl early => exact absurd lt (not_lt_last ascending ends early)
    | inr later => exact later

end Heads

section Entries
variable {b : Bucket}

def headsOf (b : Bucket) (stem : String) : List (String × Version) :=
  ((newest b).mergeSort fun a b => decide (a.1 ≤ b.1)).filter fun h =>
    stem.toList.isPrefixOf h.1.toList

theorem compares_key : Sorting.Compares (fun h : String × Version => h.1)
    (fun a b => decide (a.1 ≤ b.1)) := fun _ _ => decide_eq_true_iff

theorem mem_newest (tidy : b.Tidy) (key : String) (v : Version) :
    (key, v) ∈ newest b ↔ (b.versions key).getLast? = some v := by
  unfold newest
  simp only [List.mem_filterMap, Option.map_eq_some_iff, Prod.mk.injEq, Prod.exists]
  constructor
  · rintro ⟨k, vs, listed, _, last, rfl, rfl⟩
    rw [((tidy.mem_objects_iff k vs).mp listed).2]
    exact last
  · intro last
    refine ⟨key, b.versions key, (tidy.mem_objects_iff _ _).mpr ⟨?_, rfl⟩, v, last, rfl, rfl⟩
    intro none
    rw [none] at last
    cases last

theorem distinct_newest (tidy : b.Tidy) : ((newest b).map (·.1)).Nodup := by
  have sub : ((newest b).map (·.1)).Sublist (b.objects.map (·.1)) := by
    unfold newest
    generalize b.objects = objects
    induction objects with
    | nil => exact .slnil
    | cons entry rest ih =>
        obtain ⟨key, vs⟩ := entry
        cases last : vs.getLast? with
        | none =>
            rw [List.filterMap_cons_none (by simp [last])]
            exact .cons _ ih
        | some v =>
            rw [List.filterMap_cons_some (b := (key, v)) (by simp [last])]
            exact .cons_cons _ ih
  exact sub.nodup tidy.objects

theorem ascending_headsOf (tidy : b.Tidy) (stem : String) :
    (headsOf b stem).Pairwise fun a b => a.1 < b.1 :=
  (Sorting.pairwise_lt compares_key (distinct_newest tidy)).filter _

theorem heads_headsOf {s : Backend} {bucket : String} (found : s.buckets.get? bucket = some b)
    (tidy : b.Tidy) (stem : String) : Heads s bucket stem none (headsOf b stem) := by
  refine ⟨ascending_headsOf tidy stem, fun key v => ?_⟩
  rw [Backend.versionsAt_of_get? found, ← mem_newest tidy]
  simp [headsOf, Follows, and_comm]

theorem withoutRepeats_eq {es : List Entry} (distinct : es.Nodup) : withoutRepeats es = es := by
  induction es with
  | nil => rfl
  | cons e rest ih =>
      obtain ⟨absent, later⟩ := List.nodup_cons.mp distinct
      cases rest with
      | nil => rfl
      | cons f rest =>
          have differ : e ≠ f := fun same => absent (same ▸ List.mem_cons_self ..)
          rw [withoutRepeats, if_neg differ, ih later]

theorem entryOf_whole (stem key : String) (v : Version) :
    entryOf stem.toList "".toList key v =
      if stem.toList.isPrefixOf key.toList then some (.blob key v) else none := by
  simp only [entryOf, commonPrefix?, String.toList_empty, List.isEmpty_nil, if_true]

/-- Without a delimiter nothing is rolled up. -/
theorem entries_whole (tidy : b.Tidy) (stem : String) :
    entries b stem "" = (headsOf b stem).map fun h => .blob h.1 h.2 := by
  have found : ((newest b).mergeSort fun a b => decide (a.1 ≤ b.1)).filterMap
      (fun h => entryOf stem.toList "".toList h.1 h.2) =
        (headsOf b stem).map fun h => .blob h.1 h.2 := by
    unfold headsOf
    generalize (newest b).mergeSort _ = heads
    induction heads with
    | nil => rfl
    | cons h rest ih =>
        cases under : stem.toList.isPrefixOf h.1.toList with
        | false =>
            rw [List.filterMap_cons_none (by rw [entryOf_whole, under]; rfl),
              List.filter_cons_of_neg (by simp [under]), ih]
        | true =>
            rw [List.filterMap_cons_some (by rw [entryOf_whole, under]; rfl),
              List.filter_cons_of_pos (by simpa using under), ih, List.map_cons]
  have ascending : ((headsOf b stem).map fun h => Entry.blob h.1 h.2).Pairwise
      fun e f => e.name < f.name := by
    rw [List.pairwise_map]
    exact ascending_headsOf tidy stem
  have compares : Sorting.Compares Entry.name fun e f => decide (e.name ≤ f.name) :=
    fun _ _ => decide_eq_true_iff
  have distinct : ((headsOf b stem).map fun h => Entry.blob h.1 h.2).Nodup := by
    refine ascending.imp ?_
    rintro e f lt rfl
    exact lt_irrefl _ lt
  unfold entries
  dsimp only
  rw [found, withoutRepeats_eq distinct]
  exact Sorting.mergeSort_eq compares (.refl _) ascending

end Entries

def aim (h : String × Version) : Target := ⟨.known h.1, some h.2.id⟩

section Page
variable {s : Backend} {bucket : String} {b : Bucket} {heads : List (String × Version)}

/-- The entries after a place are the heads after it. -/
theorem afterToken_whole (found : s.buckets.get? bucket = some b) (tidy : b.Tidy) {stem : String}
    {place : Option String} (h : Heads s bucket stem place heads) :
    afterToken (place.map .known) (entries b stem "") = heads.map fun h => .blob h.1 h.2 := by
  have all := heads_headsOf found tidy stem
  rw [entries_whole tidy]
  cases place with
  | none =>
      rw [h.unique all]
      rfl
  | some t =>
      have later : Heads s bucket stem (some t)
          ((headsOf b stem).filter fun h => decide (t < h.1)) := by
        refine ⟨all.ascending.filter _, fun key v => ?_⟩
        rw [List.mem_filter, all.mem, decide_eq_true_iff]
        constructor
        · intro ⟨⟨under, _, newest⟩, lt⟩
          exact ⟨under, fun _ is => Option.some.inj is ▸ lt, newest⟩
        · intro ⟨under, after, newest⟩
          exact ⟨⟨under, (fun _ is => nomatch is), newest⟩, after t rfl⟩
      rw [h.unique later]
      change (List.map _ _).filter _ = _
      rw [List.filter_map]
      rfl

/-- The page that shows these of the entries that remain. -/
def pageOf (here : List Entry) (more : Bool) : Page :=
  { blobs := blobs here
    commonPrefixes := commonPrefixes here
    isTruncated := more
    nextToken := if more then here.getLast?.map (.known ·.name) else none }

theorem page_unlimited (b : Bucket) (stem place : Option String) :
    page b { stem, token := place.map .known } none =
      pageOf (afterToken (place.map .known) (entries b (stem.getD "") ""))
        (!(afterToken (place.map .known) (entries b (stem.getD "") "")).isEmpty) := rfl

theorem page_limited (b : Bucket) (stem place : Option String) (limit : Nat) :
    page b { stem, token := place.map .known } (some limit) =
      pageOf ((afterToken (place.map .known) (entries b (stem.getD "") "")).take limit)
        (decide (limit < (afterToken (place.map .known) (entries b (stem.getD "") "")).length)) :=
  rfl

theorem blobs_pageOf (here : List (String × Version)) (more : Bool) :
    (pageOf (here.map fun h => .blob h.1 h.2) more).blobs = here.map fun h => infoOf h.1 h.2 := by
  change blobs _ = _
  induction here with
  | nil => rfl
  | cons h rest ih => exact congrArg (infoOf h.1 h.2 :: ·) ih

/-- Where more follows, the next place is the last entry shown. -/
theorem follow?_pageOf {here : List Entry} {last : Entry} (ends : here.getLast? = some last)
    (named : last.name ≠ "") : (pageOf here true).follow? = some (.known last.name) := by
  simp [pageOf, ends, Page.follow?, Option.filter, Reported.isGiven, Reported.value, Sayable.value,
    Value.isGiven, named]

theorem getLast?_whole {here : List (String × Version)} {last : String × Version}
    (ends : here.getLast? = some last) :
    (here.map fun h => Entry.blob h.1 h.2).getLast? = some (.blob last.1 last.2) := by
  simp [List.getLast?_map, ends]

/-- A page shows the first heads that follow its place. If there may be more, the next place is the
last head shown. -/
theorem page_spec {pageSize : Option Nat} (positive : pageSize ≠ some 0)
    (found : s.buckets.get? bucket = some b) (tidy : b.Tidy) {stem place : Option String}
    (heads_at : Heads s bucket (stem.getD "") place heads) (keyed : ∀ h ∈ heads, h.1 ≠ "") :
    ∃ here rest, heads = here ++ rest ∧
      (page b { stem, token := place.map .known } pageSize).blobs =
        here.map (fun h => infoOf h.1 h.2) ∧
      ((page b { stem, token := place.map .known } pageSize).follow? = none ∧ rest = [] ∨
        ∃ last, here.getLast? = some last ∧
          (page b { stem, token := place.map .known } pageSize).follow? = some (.known last.1)) := by
  have remaining := afterToken_whole found tidy heads_at
  cases pageSize with
  | none =>
      rw [page_unlimited, remaining]
      refine ⟨heads, [], (List.append_nil _).symm, blobs_pageOf .., ?_⟩
      cases heads with
      | nil => exact .inl ⟨rfl, rfl⟩
      | cons h rest =>
          right
          have ends : (h :: rest).getLast? = some _ := List.getLast?_cons ..
          exact ⟨_, ends, follow?_pageOf (getLast?_whole ends) (keyed _ (List.mem_of_getLast? ends))⟩
  | some limit =>
      rw [page_limited, remaining, ← List.map_take, List.length_map]
      refine ⟨heads.take limit, heads.drop limit, (List.take_append_drop ..).symm,
        blobs_pageOf .., ?_⟩
      by_cases more : limit < heads.length
      · right
        have some_here : heads.take limit ≠ [] := by
          intro none
          have short := congrArg List.length none
          simp only [List.length_take, List.length_nil] at short
          have nonzero : limit ≠ 0 := fun zero => positive (congrArg some zero)
          omega
        have ends := List.getLast?_eq_some_getLast some_here
        rw [decide_eq_true more]
        exact ⟨_, ends, follow?_pageOf (getLast?_whole ends)
          (keyed _ (List.mem_of_mem_take (List.mem_of_getLast? ends)))⟩
      · left
        rw [decide_eq_false more]
        exact ⟨rfl, List.drop_eq_nil_of_le (by omega)⟩

end Page

end BlobStorage.Memory.Listing
