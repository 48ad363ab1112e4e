import BlobStorage.Proofs.Memory.History
import BlobStorage.Proofs.Memory.Listing
import BlobStorage.Proofs.Memory.Removal

/-!
A listing that goes on from page to page while what it has listed is being removed. No removal reaches a
key that comes after the place where the listing goes on, so the pages are those of the listing as it
was at the start.
-/
namespace BlobStorage.Memory.Listing
open Directory (targets)

/-- Pages fetched one after the other. At any time between two fetches, versions that earlier pages
have listed may be removed. -/
inductive Paged (s : Store) (stem : Option String) (b : Backend) :
    List Page → Option String → Backend → Prop
  | start : Paged s stem b [] none b
  | meanwhile {pages : List Page} {place : Option String} {t u : Backend}
      {gone : List (String × String)} : Paged s stem b pages place t →
      Removed s.bucket gone t u → (∀ i ∈ gone, named i ∈ pages.flatMap targets) →
      Paged s stem b pages place u
  | next {pages : List Page} {place : Option String} {t : Backend} {bucket : Bucket}
      {later : String} : Paged s stem b pages place t → t.buckets.get? s.bucket = some bucket →
      (page bucket { stem, token := place.map .known } s.pageSize).follow? = some (.known later) →
      Paged s stem b (pages ++ [page bucket { stem, token := place.map .known } s.pageSize])
        (some later) t

/-- How far a listing has come: the heads that were listed, and those that remain. -/
structure Progress (s : Store) (stem : Option String) (b : Backend) (pages : List Page)
    (place : Option String) (t : Backend) (listed rest : List (String × Version)) : Prop where
  shown : pages.flatMap targets = listed.map aim
  remaining : Heads t s.bucket (stem.getD "") place rest
  passed : ∀ h ∈ listed, ¬ Follows place h.1
  tidy : t.Tidy
  there : t.hasBucket s.bucket = b.hasBucket s.bucket

theorem named_aim (h : String × Version) : aim h = named (h.1, h.2.id) := rfl

theorem exists_named {heads : List (String × Version)} {t : Target} (ht : t ∈ heads.map aim) :
    ∃ i, t = named i := by
  obtain ⟨head, _, rfl⟩ := List.mem_map.mp ht
  exact ⟨_, named_aim head⟩

theorem targets_of_blobs {p : Page} {here : List (String × Version)}
    (shown : p.blobs = here.map fun h => infoOf h.1 h.2) : targets p = here.map aim := by
  unfold targets
  rw [shown, List.map_map]
  rfl

section Paged
variable {s : Store} {stem : Option String} {b t : Backend} {pages : List Page}
  {place : Option String} {heads : List (String × Version)}

theorem Progress.meanwhile {u : Backend} {gone : List (String × String)}
    {listed rest : List (String × Version)} (h : Progress s stem b pages place t listed rest)
    (removed : Removed s.bucket gone t u) (only : ∀ i ∈ gone, named i ∈ pages.flatMap targets) :
    Progress s stem b pages place u listed rest := by
  refine ⟨h.shown, ?_, h.passed, removed.tidy, removed.there.trans h.there⟩
  refine h.remaining.congr fun key after => removed.untouched ?_
  rintro i hi rfl
  have shown := only i hi
  rw [h.shown] at shown
  obtain ⟨head, hm, same⟩ := List.mem_map.mp shown
  rw [named_aim, named, named, Target.mk.injEq, Reported.known.injEq] at same
  exact h.passed head hm (same.1 ▸ after)

section Page
variable {bucket : Bucket} {listed rest : List (String × Version)}
  (h : Progress s stem b pages place t listed rest) (found : t.buckets.get? s.bucket = some bucket)
  (positive : s.pageSize ≠ some 0) (keyed : ∀ r ∈ rest, r.1 ≠ "")
include h found positive keyed

/-- One page more: it is the last one and shows all that remains, or there is less left. -/
theorem Progress.page :
    ∃ here more, rest = here ++ more ∧
      targets (page bucket { stem, token := place.map .known } s.pageSize) = here.map aim ∧
      ((page bucket { stem, token := place.map .known } s.pageSize).follow? = none ∧ more = [] ∨
        ∃ later,
          (page bucket { stem, token := place.map .known } s.pageSize).follow? =
            some (.known later) ∧
          Progress s stem b (pages ++ [Listing.page bucket { stem, token := place.map .known }
            s.pageSize]) (some later) t (listed ++ here) more ∧ more.length < rest.length) := by
  have tidy := h.tidy.bucket s.bucket bucket found
  obtain ⟨here, more, rfl, shown, last | next⟩ :=
    page_spec positive found tidy h.remaining keyed
  · exact ⟨here, more, rfl, targets_of_blobs shown, .inl last⟩
  · obtain ⟨last, ends, follows⟩ := next
    have ascending := (List.pairwise_append.mp h.remaining.ascending).1
    have listed_last := List.mem_of_getLast? ends
    have beyond : Follows place last.1 :=
      ((h.remaining.mem last.1 last.2).mp (by simp [listed_last])).2.1
    have nonempty := List.length_pos_of_mem listed_last
    refine ⟨here, more, rfl, targets_of_blobs shown, .inr ⟨last.1, follows, ?_, ?_⟩⟩
    · refine ⟨?_, h.remaining.rest ends, ?_, h.tidy, h.there⟩
      · simp [List.flatMap_append, h.shown, targets_of_blobs shown]
      · intro head hm after
        have lt : last.1 < head.1 := after last.1 rfl
        cases List.mem_append.mp hm with
        | inl early => exact h.passed head early fun t ht => (beyond t ht).trans lt
        | inr recent => exact not_lt_last ascending ends recent lt
    · simp only [List.length_append]
      omega

end Page

section Whole
variable (tidy : b.Tidy) (heads_at : Heads b s.bucket (stem.getD "") none heads)
  (keyed : ∀ h ∈ heads, h.1 ≠ "") (positive : s.pageSize ≠ some 0)
include tidy heads_at keyed positive

theorem Paged.progress (h : Paged s stem b pages place t) :
    ∃ listed rest, heads = listed ++ rest ∧ Progress s stem b pages place t listed rest := by
  induction h with
  | start =>
      refine ⟨[], heads, rfl, rfl, heads_at, ?_, tidy, rfl⟩
      intro h hm
      cases hm
  | meanwhile _ removed only ih =>
      obtain ⟨listed, rest, split, progress⟩ := ih
      exact ⟨listed, rest, split, progress.meanwhile removed only⟩
  | next _ found follows ih =>
      obtain ⟨listed, rest, rfl, progress⟩ := ih
      obtain ⟨here, more, rfl, _, last | next⟩ := progress.page found positive
        fun r hr => keyed r (List.mem_append_right _ hr)
      · cases last.1.symm.trans follows
      · obtain ⟨later, same, onward, _⟩ := next
        cases same.symm.trans follows
        exact ⟨listed ++ here, more, (List.append_assoc ..).symm, onward⟩

/-- The pages of a listing that has come to its end show every head once, in order. -/
theorem Paged.whole (h : Paged s stem b pages place t) {bucket : Bucket}
    (found : t.buckets.get? s.bucket = some bucket)
    (ends : (page bucket { stem, token := place.map .known } s.pageSize).follow? = none) :
    pages.flatMap targets ++ targets (page bucket { stem, token := place.map .known } s.pageSize) =
      heads.map aim := by
  obtain ⟨listed, rest, rfl, progress⟩ := h.progress tidy heads_at keyed positive
  obtain ⟨here, more, rfl, shown, last | next⟩ := progress.page found positive
    fun r hr => keyed r (List.mem_append_right _ hr)
  · rw [progress.shown, shown, last.2]
    simp
  · obtain ⟨later, follows, _⟩ := next
    cases ends.symm.trans follows

end Whole
end Paged
end BlobStorage.Memory.Listing
