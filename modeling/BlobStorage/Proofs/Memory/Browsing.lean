import BlobStorage.Proofs.Memory.Pages
import Mathlib.Algebra.GroupWithZero.Nat

/-!
Listings that go on from page to page while others change the backend. A page goes on after the last name
of the page before it, whatever was done to the backend between the two, so no name comes twice, and a key
that is there at every fetch is shown once: itself, or under the common prefix it is rolled up into.
-/
namespace BlobStorage.Memory
open Memory.Listing

/-- A page, and the backend it was fetched from. -/
structure Fetched where
  backend : Backend
  page : Page

/-- Pages fetched one after the other to the last, each with the token of the page before it. Between
two fetches anyone may change the backend. -/
inductive Browses (c : Caller) (request : ListRequest) :
    World Backend → Option PageToken → List Fetched → Prop
  | last {w w₁ : World Backend} {token : Option PageToken} {page : Page} :
      (Listing.fetch c.adapter request token).runFrom w = (.ok (.ok page), w₁) →
      page.follow? = none → Browses c request w token [⟨w.remote, page⟩]
  | next {w w₁ w₂ : World Backend} {token : Option PageToken} {page : Page} {later : PageToken}
      {fetched : List Fetched} :
      (Listing.fetch c.adapter request token).runFrom w = (.ok (.ok page), w₁) →
      page.follow? = some later → Backend.Evolves Change.Checked w₁.remote w₂.remote →
      Browses c request w₂ later fetched → Browses c request w token (⟨w.remote, page⟩ :: fetched)

/-- A listing of the backend shows the entry. -/
def Backend.Lists (s : Backend) (bucket : String) (request : ListRequest) (e : Entry) : Prop :=
  ∃ key v, (s.versionsAt bucket key).getLast? = some v ∧
    entryOf (request.stem.getD "").toList (request.delimiter.getD "").toList key v = some e

/-- What pages display, each with the entries that it shows. -/
structure Displayed (bucket : String) (request : ListRequest) (limit : Nat) (place : Option String)
    (shown : List (Fetched × List Entry)) : Prop where
  shows : ∀ t ∈ shown, Shows t.1.page t.2
  sized : ∀ t ∈ shown, t.2.length ≤ limit
  there : ∀ t ∈ shown, ∀ e ∈ t.2, t.1.backend.Lists bucket request e
  ascending : (shown.flatMap (·.2)).Pairwise fun e f => e.name < f.name
  follows : ∀ e ∈ shown.flatMap (·.2), Follows place e.name
  whole : ∀ name, Follows place name →
    (∀ t ∈ shown, ∃ e, t.1.backend.Lists bucket request e ∧ e.name = name) →
    ∃ e ∈ shown.flatMap (·.2), e.name = name

section Fetch
variable {c : Caller} {request : ListRequest} {limit : Nat} {w w₁ : World Backend}
  {place : Option String} {p : Page} (limited : Limited c.store request limit)

theorem lists_iff {s : Backend} (tidy : s.Tidy) {bucket : String} {b : Bucket}
    (found : s.buckets.get? bucket = some b) (e : Entry) :
    s.Lists bucket request e ↔ e ∈ remaining b request none := by
  unfold Backend.Lists
  simp only [Backend.versionsAt_of_get? found]
  exact (mem_entries (tidy.bucket bucket b found) _ _ e).symm

theorem keyed_of_sound {s : Backend} (sound : s.Sound) {bucket : String} {b : Bucket}
    (found : s.buckets.get? bucket = some b) (key : String) (some_there : b.versions key ≠ []) :
    key ≠ "" := by
  obtain ⟨v, hv⟩ := List.exists_mem_of_ne_nil _ some_there
  exact sound.versions.keyed bucket key v (by rwa [Backend.versionsAt_of_get? found])

include limited

/-- A page that was fetched shows the first of what remains, and is the last one if that is all. -/
theorem shows_of_fetch (sound : w.remote.Sound)
    (ran : (Listing.fetch c.adapter request (place.map .known)).runFrom w = (.ok (.ok p), w₁)) :
    w₁.remote = w.remote ∧
    ∃ b here rest, w.remote.buckets.get? c.store.bucket = some b ∧
      remaining b request place = here ++ rest ∧ here.length ≤ limit ∧ Shows p here ∧
      (p.follow? = none ∧ rest = [] ∨
        ∃ last, here.getLast? = some last ∧ p.follow? = some (.known last.name) ∧
          remaining b request (some last.name) = rest) := by
  obtain ⟨f, failed, _⟩ | ⟨b, found, fetched⟩ :=
    runFrom_fetch c.store request place (harmless_guardOf c.plans) (w := w) rfl limited.accepted
  · cases ran.symm.trans failed
  · cases ran.symm.trans fetched
    refine ⟨remote_guardOf c.plans .listPage none w, b, ?_⟩
    obtain ⟨here, rest, split, few, shows, ending⟩ := page_cases limited place
      (sound.tidy.bucket _ b found) (keyed_of_sound sound found)
    refine ⟨here, rest, found, split, few, shows, ?_⟩
    obtain last | ⟨last, ends, _, _, follows, onward⟩ := ending
    · exact .inl last
    · exact .inr ⟨last, ends, follows, onward⟩

end Fetch

section Display
variable {c : Caller} {request : ListRequest} {limit : Nat} {bucket : String}
  {place : Option String} {shown : List (Fetched × List Entry)}

theorem displayed_last {f : Fetched} {here : List Entry} (shows : Shows f.page here)
    (few : here.length ≤ limit) (tidy : f.backend.Tidy) {b : Bucket}
    (found : f.backend.buckets.get? bucket = some b) (split : remaining b request place = here) :
    Displayed bucket request limit place [(f, here)] := by
  subst split
  refine ⟨by simpa using shows, by simpa using few, ?_, ?_, ?_, ?_⟩
  · simpa using fun e he => (lists_iff tidy found e).mpr ((mem_remaining e).mp he).1
  · simpa [-String.lt_iff_ltb] using ascending_remaining (tidy.bucket bucket b found) request place
  · simpa using fun e he => ((mem_remaining e).mp he).2
  · intro name follows always
    obtain ⟨e, listed, rfl⟩ := always _ (List.mem_singleton_self _)
    refine ⟨e, ?_, rfl⟩
    simpa using (mem_remaining e).mpr ⟨(lists_iff tidy found e).mp listed, follows⟩

theorem Displayed.next {f : Fetched} {here rest : List Entry} {last : Entry}
    (shows : Shows f.page here) (few : here.length ≤ limit) (tidy : f.backend.Tidy) {b : Bucket}
    (found : f.backend.buckets.get? bucket = some b)
    (split : remaining b request place = here ++ rest) (ends : here.getLast? = some last)
    (later : Displayed bucket request limit (some last.name) shown) :
    Displayed bucket request limit place ((f, here) :: shown) := by
  have ascending := ascending_remaining (tidy.bucket bucket b found) request place
  rw [split] at ascending
  obtain ⟨early, _, apart⟩ := List.pairwise_append.mp ascending
  have listed (e : Entry) (he : e ∈ here) :
      e ∈ remaining b request none ∧ Follows place e.name :=
    (mem_remaining e).mp (by rw [split]; exact List.mem_append_left _ he)
  have up_to_last (e : Entry) (he : e ∈ here) : e.name ≤ last.name := by
    obtain ⟨before, rfl⟩ := List.getLast?_eq_some_iff.mp ends
    cases List.mem_append.mp he with
    | inl old => exact le_of_lt ((List.pairwise_append.mp early).2.2 e old last (by simp))
    | inr same => exact le_of_eq (congrArg Entry.name (List.mem_singleton.mp same))
  have beyond (e : Entry) (he : e ∈ shown.flatMap (·.2)) : last.name < e.name :=
    later.follows e he _ rfl
  refine ⟨?_, ?_, ?_, ?_, ?_, ?_⟩
  · exact List.forall_mem_cons.mpr ⟨shows, later.shows⟩
  · exact List.forall_mem_cons.mpr ⟨few, later.sized⟩
  · exact List.forall_mem_cons.mpr
      ⟨fun e he => (lists_iff tidy found e).mpr (listed e he).1, later.there⟩
  · rw [List.flatMap_cons, List.pairwise_append]
    exact ⟨early, later.ascending, fun e he g hg => (up_to_last e he).trans_lt (beyond g hg)⟩
  · intro e he
    rw [List.flatMap_cons] at he
    cases List.mem_append.mp he with
    | inl now => exact (listed e now).2
    | inr after =>
        intro t ht
        exact ((listed last (List.mem_of_getLast? ends)).2 t ht).trans (beyond e after)
  · intro name follows always
    obtain ⟨now, later_too⟩ := List.forall_mem_cons.mp always
    rw [List.flatMap_cons]
    by_cases passed : last.name < name
    · obtain ⟨e, he, named⟩ := later.whole name (fun t ht => Option.some.inj ht ▸ passed)
        later_too
      exact ⟨e, List.mem_append_right _ he, named⟩
    · obtain ⟨e, there, rfl⟩ := now
      refine ⟨e, List.mem_append_left _ ?_, rfl⟩
      have remains : e ∈ here ++ rest := by
        rw [← split]
        exact (mem_remaining e).mpr ⟨(lists_iff tidy found e).mp there, follows⟩
      cases List.mem_append.mp remains with
      | inl here => exact here
      | inr left => exact absurd (apart last (List.mem_of_getLast? ends) e left) passed

theorem Browses.displayed (limited : Limited c.store request limit) {w : World Backend}
    {token : Option PageToken} {fetched : List Fetched} (h : Browses c request w token fetched)
    (sound : w.remote.Sound) (place : Option String) (started : token = place.map .known) :
    ∃ shown, shown.map (·.1) = fetched ∧
      Displayed c.store.bucket request limit place shown := by
  induction h generalizing place with
  | last ran ends =>
      subst started
      obtain ⟨_, b, here, rest, found, split, few, shows, ⟨_, rfl⟩ | ⟨_, _, follows, _⟩⟩ :=
        shows_of_fetch limited sound ran
      · rw [List.append_nil] at split
        exact ⟨[(_, here)], rfl, displayed_last shows few sound.tidy found split⟩
      · cases ends.symm.trans follows
  | next ran goes meanwhile _ ih =>
      subst started
      obtain ⟨same, b, here, rest, found, split, few, shows, ⟨ends, _⟩ | ⟨last, ends, follows, _⟩⟩ :=
        shows_of_fetch limited sound ran
      · cases ends.symm.trans goes
      · cases follows.symm.trans goes
        rw [same] at meanwhile
        obtain ⟨shown, rfl, later⟩ := ih (sound.evolves meanwhile) (some last.name) rfl
        exact ⟨(_, here) :: shown, rfl, later.next shows few sound.tidy found split ends⟩

end Display

def namesOf (p : Page) : List String :=
  (p.blobs.map (·.key) ++ p.commonPrefixes).filterMap (·.known?)

/-- What a listing tells that has come to its end, whatever was done to the backend meanwhile. -/
structure Browsed (c : Caller) (request : ListRequest) (limit : Nat) (fetched : List Fetched) :
    Prop where
  sized : ∀ f ∈ fetched, f.page.blobs.length + f.page.commonPrefixes.length ≤ limit
  blobs : ∃ keys : List String, (fetched.flatMap (·.page.blobs)).map (·.key) = keys.map .known ∧
    keys.Pairwise (· < ·)
  commonPrefixes : ∃ names : List String,
    fetched.flatMap (·.page.commonPrefixes) = names.map .known ∧ names.Pairwise (· < ·)
  /-- All names of a page come before those of the pages after it. -/
  onward : fetched.Pairwise fun f g => ∀ x ∈ namesOf f.page, ∀ y ∈ namesOf g.page, x < y
  /-- A key that is there at every fetch is shown once, as a blob or under one common prefix. -/
  once : ∀ key, (request.stem.getD "").toList <+: key.toList →
    (∀ f ∈ fetched, f.backend.versionsAt c.store.bucket key ≠ []) →
    (fetched.map fun f => timesShown key f.page.toBatch).sum = 1
  atMostOnce : ∀ key, (request.stem.getD "").toList <+: key.toList →
    (fetched.map fun f => timesShown key f.page.toBatch).sum ≤ 1
  /-- A blob was there when its page was fetched, and is shown as it was. -/
  blobThere : ∀ f ∈ fetched, ∀ info ∈ f.page.blobs, ∃ key v,
    (f.backend.versionsAt c.store.bucket key).getLast? = some v ∧
    (request.stem.getD "").toList <+: key.toList ∧ info = infoOf key v
  /-- A common prefix was that of a key that was there when its page was fetched. -/
  prefixThere : ∀ f ∈ fetched, ∀ r ∈ f.page.commonPrefixes, ∃ key name,
    f.backend.versionsAt c.store.bucket key ≠ [] ∧
    (request.stem.getD "").toList <+: key.toList ∧ r = .known (String.ofList name) ∧
    commonPrefix? (request.stem.getD "").toList (request.delimiter.getD "").toList key.toList =
      some name

section Counting
variable {c : Caller} {request : ListRequest} {limit : Nat} {bucket key : String}
  {shown : List (Fetched × List Entry)}

theorem sum_timesShown (shows : ∀ t ∈ shown, Shows t.1.page t.2) (key : String) :
    ((shown.map (·.1)).map fun f => timesShown key f.page.toBatch).sum =
      (shown.flatMap (·.2)).countP (Entry.shows key) := by
  rw [List.countP_flatMap, List.map_map]
  refine congrArg List.sum (List.map_congr_left fun t ht => ?_)
  exact timesShown_of_shows (shows t ht) key

theorem flatMap_of_shows {α : Type} (told : Page → List α) (of : List Entry → List α)
    (append : ∀ es fs, of (es ++ fs) = of es ++ of fs) (nil : of [] = [])
    (shows : ∀ t ∈ shown, told t.1.page = of t.2) :
    (shown.map (·.1)).flatMap (fun f => told f.page) = of (shown.flatMap (·.2)) := by
  induction shown with
  | nil => exact nil.symm
  | cons t rest ih =>
      obtain ⟨first, others⟩ := List.forall_mem_cons.mp shows
      rw [List.map_cons, List.flatMap_cons, List.flatMap_cons, append, first, ih others]

/-- Of entries with different names one at most shows a key: that of its name. -/
theorem countP_shows (ascending : (shown.flatMap (·.2)).Pairwise fun e f => e.name < f.name)
    (there : ∀ t ∈ shown, ∀ e ∈ t.2, t.1.backend.Lists bucket request e)
    (under : (request.stem.getD "").toList <+: key.toList) :
    (shown.flatMap (·.2)).countP (Entry.shows key) =
      ((shown.flatMap (·.2)).map Entry.name).count
        (nameOf (request.stem.getD "") (request.delimiter.getD "") key) ∧
    ((shown.flatMap (·.2)).map Entry.name).Nodup := by
  constructor
  · rw [List.count, List.countP_map]
    refine List.countP_congr fun e he => ?_
    obtain ⟨t, ht, he⟩ := List.mem_flatMap.mp he
    obtain ⟨_, _, _, entry⟩ := there t ht e he
    rw [shows_iff entry under]
    simp
  · rw [List.Nodup, List.pairwise_map]
    exact ascending.imp fun lt => ne_of_lt lt

theorem mem_namesOf {p : Page} {here : List Entry} (h : Shows p here) {x : String}
    (hx : x ∈ namesOf p) : ∃ e ∈ here, e.name = x := by
  unfold namesOf at hx
  rw [h.blobs, h.commonPrefixes] at hx
  obtain ⟨r, hr, known⟩ := List.mem_filterMap.mp hx
  cases List.mem_append.mp hr with
  | inl blob =>
      obtain ⟨info, listed, rfl⟩ := List.mem_map.mp blob
      obtain ⟨e, he, shown⟩ := List.mem_filterMap.mp listed
      cases e with
      | blob k v =>
          cases shown
          exact ⟨_, he, Option.some.inj known⟩
      | rolled name => cases shown
  | inr rolled =>
      obtain ⟨e, he, shown⟩ := List.mem_filterMap.mp rolled
      cases e with
      | blob k v => cases shown
      | rolled name =>
          cases shown
          exact ⟨_, he, Option.some.inj known⟩

def ownKey? : Entry → Option String
  | .blob key _ => some key
  | .rolled _ => none

def rolledName? : Entry → Option String
  | .blob _ _ => none
  | .rolled name => some name

theorem ascending_filterMap {es : List Entry} (ascending : es.Pairwise fun e f => e.name < f.name)
    {pick : Entry → Option String} (named : ∀ e x, pick e = some x → x = e.name) :
    (es.filterMap pick).Pairwise (· < ·) := by
  refine ascending.filterMap _ fun e f lt x hx y hy => ?_
  rwa [named e x hx, named f y hy]

theorem keys_blobs {es : List Entry} (ascending : es.Pairwise fun e f => e.name < f.name) :
    ∃ keys : List String, (blobs es).map (·.key) = keys.map .known ∧ keys.Pairwise (· < ·) := by
  refine ⟨es.filterMap ownKey?, ?_, ?_⟩
  · unfold blobs
    rw [List.map_filterMap, List.map_filterMap]
    refine List.filterMap_congr fun e _ => ?_
    cases e <;> rfl
  · refine ascending_filterMap ascending fun e x hx => ?_
    cases e <;> cases hx
    rfl

theorem names_commonPrefixes {es : List Entry} (ascending : es.Pairwise fun e f => e.name < f.name) :
    ∃ names : List String, commonPrefixes es = names.map .known ∧ names.Pairwise (· < ·) := by
  refine ⟨es.filterMap rolledName?, ?_, ?_⟩
  · unfold commonPrefixes
    rw [List.map_filterMap]
    refine List.filterMap_congr fun e _ => ?_
    cases e <;> rfl
  · refine ascending_filterMap ascending fun e x hx => ?_
    cases e <;> cases hx
    rfl

theorem Displayed.browsed (h : Displayed c.store.bucket request limit none shown) :
    Browsed c request limit (shown.map (·.1)) := by
  have toldBlobs := flatMap_of_shows (fun p => p.blobs) blobs (fun _ _ => List.filterMap_append)
    rfl fun t ht => (h.shows t ht).blobs
  have toldPrefixes := flatMap_of_shows (fun p => p.commonPrefixes)
    commonPrefixes (fun _ _ => List.filterMap_append) rfl fun t ht => (h.shows t ht).commonPrefixes
  refine ⟨?_, ?_, ?_, ?_, ?_, ?_, ?_, ?_⟩
  · simp only [List.forall_mem_map]
    intro t ht
    rw [length_of_shows (h.shows t ht)]
    exact h.sized t ht
  · rw [toldBlobs]
    exact keys_blobs h.ascending
  · rw [toldPrefixes]
    exact names_commonPrefixes h.ascending
  · rw [List.pairwise_map]
    refine (List.pairwise_flatMap.mp h.ascending).2.imp_of_mem ?_
    intro t u ht hu apart x hx y hy
    obtain ⟨e, he, rfl⟩ := mem_namesOf (h.shows t ht) hx
    obtain ⟨f, hf, rfl⟩ := mem_namesOf (h.shows u hu) hy
    exact apart e he f hf
  · intro key under always
    obtain ⟨counted, nodup⟩ := countP_shows h.ascending h.there under
    have present (t : Fetched × List Entry) (ht : t ∈ shown) :
        ∃ e, t.1.backend.Lists c.store.bucket request e ∧
          e.name = nameOf (request.stem.getD "") (request.delimiter.getD "") key := by
      have newest := List.getLast?_eq_some_getLast (always t.1 (List.mem_map_of_mem ht))
      obtain ⟨e, entry⟩ := exists_entryOf (request.delimiter.getD "") _ under
      exact ⟨e, ⟨key, _, newest, entry⟩, name_of_entryOf entry⟩
    obtain ⟨e, he, named⟩ := h.whole _ (fun _ none => nomatch none) present
    rw [sum_timesShown h.shows, counted]
    exact List.count_eq_one_of_mem nodup (named ▸ List.mem_map_of_mem he)
  · intro key under
    obtain ⟨counted, nodup⟩ := countP_shows h.ascending h.there under
    rw [sum_timesShown h.shows, counted]
    exact List.nodup_iff_count_le_one.mp nodup _
  · simp only [List.forall_mem_map]
    intro t ht info listed
    rw [(h.shows t ht).blobs] at listed
    obtain ⟨e, he, told⟩ := List.mem_filterMap.mp listed
    obtain ⟨key, v, newest, shown⟩ := h.there t ht e he
    obtain ⟨under, ⟨_, rfl⟩ | ⟨q, _, rfl⟩⟩ := entryOf_eq_some_iff.mp shown
    · cases told
      exact ⟨key, v, newest, under, rfl⟩
    · cases told
  · simp only [List.forall_mem_map]
    intro t ht r listed
    rw [(h.shows t ht).commonPrefixes] at listed
    obtain ⟨e, he, told⟩ := List.mem_filterMap.mp listed
    obtain ⟨key, v, newest, shown⟩ := h.there t ht e he
    obtain ⟨under, ⟨_, rfl⟩ | ⟨q, rolled, rfl⟩⟩ := entryOf_eq_some_iff.mp shown
    · cases told
    · cases told
      exact ⟨key, q, List.ne_nil_of_mem (List.mem_of_getLast? newest), under, rfl, rolled⟩

end Counting

end BlobStorage.Memory
