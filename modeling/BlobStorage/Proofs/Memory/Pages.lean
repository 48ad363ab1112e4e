import BlobStorage.Proofs.Memory.Entries
import BlobStorage.Proofs.Memory.Looking

/-!
Pages with a limit. A page shows the first entries that come after its place, as many as the limit
allows, and there is a next page exactly if more are left, which come after the last entry shown.
-/
namespace BlobStorage.Memory.Listing

/-- A page has at most so many entries: the request says so, or else the store. -/
structure Limited (s : Store) (request : ListRequest) (limit : Nat) : Prop where
  positive : 0 < limit
  given : request.maxResults = some (Int.ofNat limit) ∨
    request.maxResults = none ∧ s.pageSize = some limit

/-- The entries of a bucket that a listing shows after a place. -/
def remaining (b : Bucket) (request : ListRequest) (place : Option String) : List Entry :=
  afterToken (place.map .known) (entries b (request.stem.getD "") (request.delimiter.getD ""))

structure Shows (p : Page) (here : List Entry) : Prop where
  blobs : p.blobs = blobs here
  commonPrefixes : p.commonPrefixes = commonPrefixes here

section Remaining
variable {b : Bucket} {request : ListRequest} {place : Option String}

theorem remaining_eq_filter (b : Bucket) (request : ListRequest) (t : String) :
    remaining b request (some t) =
      (remaining b request none).filter fun e => decide (t < e.name) := rfl

theorem mem_remaining (e : Entry) :
    e ∈ remaining b request place ↔ e ∈ remaining b request none ∧ Follows place e.name := by
  cases place with
  | none => simp [Follows]
  | some t => simp [remaining_eq_filter, Follows]

theorem ascending_remaining (tidy : b.Tidy) (request : ListRequest) (place : Option String) :
    (remaining b request place).Pairwise fun e f => e.name < f.name := by
  have all := ascending_entries tidy (request.stem.getD "") (request.delimiter.getD "")
  cases place with
  | none => exact all
  | some t => exact all.filter _

/-- What remains after the last of some entries is what comes after them. -/
theorem remaining_after (tidy : b.Tidy) {here rest : List Entry} {last : Entry}
    (split : remaining b request place = here ++ rest) (ends : here.getLast? = some last) :
    remaining b request (some last.name) = rest := by
  have ascending := ascending_remaining tidy request place
  have listed : last ∈ remaining b request place := by
    rw [split]
    exact List.mem_append_left _ (List.mem_of_getLast? ends)
  have follows := ((mem_remaining last).mp listed).2
  have narrowed : remaining b request (some last.name) =
      (remaining b request place).filter fun e => decide (last.name < e.name) := by
    cases place with
    | none => rfl
    | some t =>
        rw [remaining_eq_filter, remaining_eq_filter, List.filter_filter]
        refine List.filter_congr fun e _ => ?_
        have onward : t < last.name := follows t rfl
        by_cases lt : last.name < e.name
        · simp [-String.lt_iff_ltb, lt, onward.trans lt]
        · simp [-String.lt_iff_ltb, lt]
  obtain ⟨before, rfl⟩ := List.getLast?_eq_some_iff.mp ends
  rw [split] at ascending narrowed
  obtain ⟨early, _, apart⟩ := List.pairwise_append.mp ascending
  have past (e : Entry) (he : e ∈ before ++ [last]) : ¬ last.name < e.name := by
    cases List.mem_append.mp he with
    | inl old => exact lt_asymm ((List.pairwise_append.mp early).2.2 e old last (by simp))
    | inr same =>
        rw [List.mem_singleton.mp same]
        exact lt_irrefl _
  rw [narrowed, List.filter_append, List.filter_eq_nil_iff.mpr, List.nil_append,
    List.filter_eq_self]
  · exact fun e he => decide_eq_true (apart last (by simp) e he)
  · exact fun e he => by simpa [-String.lt_iff_ltb] using past e he

theorem length_entries_le (b : Bucket) (stem delimiter : String) :
    (entries b stem delimiter).length ≤ b.objects.length := by
  have fewer (es : List Entry) : (withoutRepeats es).length ≤ es.length := by
    fun_induction withoutRepeats es with
    | case1 | case2 => exact Nat.le_refl _
    | case3 e rest ih => exact Nat.le_succ_of_le ih
    | case4 e f rest differ ih => exact Nat.succ_le_succ ih
  unfold entries
  rw [List.length_mergeSort]
  refine (fewer _).trans ((List.length_filterMap_le _ _).trans ?_)
  rw [List.length_mergeSort]
  exact List.length_filterMap_le _ _

theorem named_remaining (tidy : b.Tidy) (keyed : ∀ key, b.versions key ≠ [] → key ≠ "")
    {e : Entry} (he : e ∈ remaining b request place) : e.name ≠ "" := by
  obtain ⟨key, v, newest, shown⟩ := (mem_entries tidy _ _ e).mp ((mem_remaining e).mp he).1
  obtain ⟨under, ⟨_, rfl⟩ | ⟨q, rolled, rfl⟩⟩ := entryOf_eq_some_iff.mp shown
  · exact keyed key (List.ne_nil_of_mem (List.mem_of_getLast? newest))
  · intro empty
    exact (commonPrefix?_within under rolled).2.2 (by simpa [Entry.name] using empty)

end Remaining

section Page
variable {s : Store} {request : ListRequest} {limit : Nat} {b : Bucket} {place : Option String}

theorem Limited.accepted (h : Limited s request limit) : ∀ n ∈ request.maxResults, 0 < n := by
  intro n hn
  have positive := h.positive
  rcases h.given with asked | ⟨silent, _⟩
  · cases asked.symm.trans hn
    exact Int.ofNat_lt.mpr positive
  · cases silent.symm.trans hn

theorem page_of_limited (h : Limited s request limit) :
    page b { request with token := place.map .known } s.pageSize =
      pageOf ((remaining b request place).take limit)
        (decide (limit < (remaining b request place).length)) := by
  have positive := Nat.pos_iff_ne_zero.mp h.positive
  have chosen : ((request.maxResults.map Int.toNat).filter (· ≠ 0) <|> s.pageSize) = some limit := by
    rcases h.given with asked | ⟨silent, sized⟩
    · simp [asked, positive, Option.filter]
    · simp [silent, sized]
  unfold page
  dsimp only
  rw [chosen]
  rfl

/-- A page shows the first of what remains. It is the last one if that is all; otherwise it is full,
and the next place is the last entry shown. -/
theorem page_cases (limited : Limited s request limit) (place : Option String) (tidy : b.Tidy)
    (keyed : ∀ key, b.versions key ≠ [] → key ≠ "") :
    ∃ here rest, remaining b request place = here ++ rest ∧ here.length ≤ limit ∧
      Shows (page b { request with token := place.map .known } s.pageSize) here ∧
      ((page b { request with token := place.map .known } s.pageSize).follow? = none ∧ rest = [] ∨
        ∃ last, here.getLast? = some last ∧ here.length = limit ∧ rest ≠ [] ∧
          (page b { request with token := place.map .known } s.pageSize).follow? =
            some (.known last.name) ∧
          remaining b request (some last.name) = rest) := by
  have positive := limited.positive
  rw [page_of_limited limited]
  refine ⟨_, _, (List.take_append_drop limit _).symm, List.length_take_le .., ⟨rfl, rfl⟩, ?_⟩
  by_cases more : limit < (remaining b request place).length
  · right
    have full : ((remaining b request place).take limit).length = limit :=
      List.length_take_of_le (Nat.le_of_lt more)
    have some_here : (remaining b request place).take limit ≠ [] :=
      List.length_pos_iff.mp (by omega)
    have ends := List.getLast?_eq_some_getLast some_here
    refine ⟨_, ends, full, ?_, ?_, remaining_after tidy (List.take_append_drop limit _).symm ends⟩
    · exact List.length_pos_iff.mp (by rw [List.length_drop]; omega)
    · rw [decide_eq_true more]
      exact follow?_pageOf ends
        (named_remaining tidy keyed (List.mem_of_mem_take (List.mem_of_getLast? ends)))
  · left
    rw [decide_eq_false more]
    exact ⟨rfl, List.drop_eq_nil_of_le (by omega)⟩

end Page

section Shown

/-- How often a page shows a key, as a blob or under a common prefix. -/
def timesShown (key : String) (p : Batch) : Nat :=
  p.blobs.countP (fun info => decide (info.key.known? = some key)) +
    p.commonPrefixes.countP fun r => r.known?.any fun name => name.toList.isPrefixOf key.toList

theorem timesShown_of_shows {p : Page} {here : List Entry} (h : Shows p here) (key : String) :
    timesShown key p.toBatch = here.countP (Entry.shows key) := by
  unfold timesShown
  rw [h.blobs, h.commonPrefixes]
  clear h
  induction here with
  | nil => rfl
  | cons e rest ih =>
      rw [List.countP_cons, ← ih]
      cases e with
      | blob k v =>
          change List.countP _ (infoOf k v :: blobs rest) + List.countP _ (commonPrefixes rest) = _
          rw [List.countP_cons]
          by_cases same : k = key
          · simp [Entry.shows, infoOf, Reported.known?, same]
            omega
          · simp [Entry.shows, infoOf, Reported.known?, same]
      | rolled name =>
          change List.countP _ (blobs rest) + List.countP _ (.known name :: commonPrefixes rest) = _
          rw [List.countP_cons]
          simp [Entry.shows, Reported.known?]
          omega

theorem length_of_shows {p : Page} {here : List Entry} (h : Shows p here) :
    p.blobs.length + p.commonPrefixes.length = here.length := by
  rw [h.blobs, h.commonPrefixes]
  clear h
  induction here with
  | nil => rfl
  | cons e rest ih =>
      cases e <;> simp [blobs, commonPrefixes] at ih ⊢ <;> omega

end Shown
end BlobStorage.Memory.Listing
