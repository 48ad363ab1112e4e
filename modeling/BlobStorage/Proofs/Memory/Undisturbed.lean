import BlobStorage.Proofs.Memory.Browsing

/-!
Listings that nobody disturbs. The pages of a whole listing are as few as the limit allows, and joined
they are the one page that a listing without a limit has. With what holds of a listing that others
disturb, this is all that a caller can rely on.
-/
namespace BlobStorage

/-- Pulling blob after blob gives those of the pages that are fetched one after the other. -/
theorem Listing.runFrom_pull_of_walk {ρ : Type} {a : Adapter ρ} {request : ListRequest}
    {bound number : Nat} {token : Option PageToken} {w w' : World ρ} {r : Run Page}
    (walked : (walk a request (fun _ _ => none) bound number token).runFrom w = (.ok r, w')) :
    (pull a request bound token none).runFrom w =
      (.ok ⟨r.delivered.flatMap (·.blobs), r.ending⟩, w') := by
  induction bound generalizing number token w r with
  | zero =>
      cases walked
      rfl
  | succ bound ih =>
      obtain ⟨answer, w₁, fetched, went⟩ := Action.ok_of_bind_ok walked
      cases answer with
      | error f =>
          cases went
          exact Action.runFrom_bind_ok fetched _
      | ok page =>
          dsimp only at went
          cases follows : page.follow? with
          | none =>
              rw [follows] at went
              cases went
              simpa using Directory.runFrom_pull_last fetched follows
          | some next =>
              rw [follows] at went
              obtain ⟨rest, w₂, on, same⟩ := Action.ok_of_bind_ok went
              cases same
              exact Directory.runFrom_pull_next fetched follows (ih on)

namespace Memory
open Memory.Listing

/-- The page that shows all, as a listing without a limit has it. -/
def wholePage (b : Bucket) (request : ListRequest) : Page :=
  page b { request with maxResults := none } none

theorem shows_wholePage (b : Bucket) (request : ListRequest) :
    Shows (wholePage b request) (remaining b request none) := ⟨rfl, rfl⟩

section Walk
variable {c : Caller} {request : ListRequest} {limit : Nat} {w : World Backend} {b : Bucket}
  (limited : Limited c.store request limit) (sound : w.remote.Sound)
  (spared : c.Spared .listPage w) (found : w.remote.buckets.get? c.store.bucket = some b)
include limited sound spared found

theorem runFrom_walk (place : Option String) {bound : Nat} (number : Nat)
    (enough : (remaining b request place).length < bound) :
    ∃ pages : List Page, (BlobStorage.Listing.walk c.adapter request (fun _ _ => none) bound number
        (place.map .known)).runFrom w = (.ok ⟨pages, .complete⟩, w) ∧
      Browses c request w (place.map .known) (pages.map (Fetched.mk w.remote)) ∧
      pages.flatMap (·.blobs) = blobs (remaining b request place) ∧
      pages.flatMap (·.commonPrefixes) = commonPrefixes (remaining b request place) ∧
      pages.length = max 1 (((remaining b request place).length + limit - 1) / limit) := by
  have positive := limited.positive
  induction bound generalizing number place with
  | zero => exact absurd enough (Nat.not_lt_zero _)
  | succ bound ih =>
      have fetched := runFrom_fetch_of_passed request place (harmless_guardOf c.plans)
        (runFrom_guardOf spared none) limited.accepted found
      obtain ⟨here, rest, split, few, shows, ⟨ends, rfl⟩ | ⟨last, ends, full, more, follows, onward⟩⟩ :=
        page_cases limited place (sound.tidy.bucket _ b found)
          (keyed_of_sound sound found)
      · rw [List.append_nil] at split
        rw [split]
        refine ⟨[_], ?_, .last fetched ends, ?_, ?_, ?_⟩
        · refine (Action.runFrom_bind_ok fetched _).trans ?_
          dsimp only
          rw [ends]
          rfl
        · simpa using shows.blobs
        · simpa using shows.commonPrefixes
        · have one : (here.length + limit - 1) / limit ≤ 1 :=
            Nat.le_of_lt_succ (Nat.div_lt_of_lt_mul (by omega))
          rw [List.length_singleton, max_eq_left one]
      · rw [split, List.length_append] at enough
        have some_left := List.length_pos_iff.mpr more
        rw [← onward] at enough some_left
        obtain ⟨pages, walked, browsed, laterBlobs, laterPrefixes, count⟩ :=
          ih (some last.name) (number + 1) (by omega)
        refine ⟨_ :: pages, ?_, .next fetched follows Relation.ReflTransGen.refl browsed, ?_, ?_, ?_⟩
        · refine (Action.runFrom_bind_ok fetched _).trans ?_
          dsimp only
          rw [follows]
          exact Action.runFrom_bind_ok walked _
        · rw [split, List.flatMap_cons, laterBlobs, onward, shows.blobs]
          exact List.filterMap_append.symm
        · rw [split, List.flatMap_cons, laterPrefixes, onward, shows.commonPrefixes]
          exact List.filterMap_append.symm
        · rw [split, List.length_append, ← onward, List.length_cons, count, full]
          have step : limit + (remaining b request (some last.name)).length + limit - 1 =
              (remaining b request (some last.name)).length + limit - 1 + limit := by omega
          have some_page : 1 ≤ ((remaining b request (some last.name)).length + limit - 1) / limit :=
            (Nat.one_le_div_iff positive).mpr (by omega)
          rw [step, Nat.add_div_right _ positive, max_eq_right some_page, max_eq_right (by omega)]

theorem walk_whole :
    ∃ pages : List Page,
      (BlobStorage.Listing.pages c.adapter request).runFrom w = (.ok ⟨pages, .complete⟩, w) ∧
      (BlobStorage.Listing.blobs c.adapter request).runFrom w =
        (.ok ⟨pages.flatMap (·.blobs), .complete⟩, w) ∧
      Browses c request w none (pages.map (Fetched.mk w.remote)) ∧
      pages.flatMap (·.blobs) = blobs (remaining b request none) ∧
      pages.flatMap (·.commonPrefixes) = commonPrefixes (remaining b request none) ∧
      pages.length = max 1 (((remaining b request none).length + limit - 1) / limit) := by
  have enough : (remaining b request none).length < c.adapter.pageBound w := by
    change _ < c.store.pageBound w
    have few := length_entries_le b (request.stem.getD "") (request.delimiter.getD "")
    unfold Store.pageBound Backend.bucket
    rw [found]
    dsimp only
    exact Nat.lt_of_le_of_lt few (by omega)
  obtain ⟨pages, walked, told⟩ := runFrom_walk limited sound spared found none 1 enough
  refine ⟨pages, ?_, ?_, told⟩
  · exact (Action.runFrom_bind_ok (Action.runFrom_get w) _).trans walked
  · exact (Action.runFrom_bind_ok (Action.runFrom_get w) _).trans
      (BlobStorage.Listing.runFrom_pull_of_walk walked)

end Walk

/-- What a listing is that nobody disturbs. -/
structure Undisturbed (c : Caller) (request : ListRequest) (limit : Nat) (w : World Backend)
    (b : Bucket) : Prop where
  /-- The pages are those of a run with nothing in between, and joined they are the whole. -/
  pages : ∃ pages : List Page, (c.client.list request fun _ _ => none).runFrom w =
      (.ok ⟨pages.map (·.toBatch), .complete⟩, w) ∧
    Browses c request w none (pages.map (Fetched.mk w.remote)) ∧
    pages.flatMap (·.blobs) = (wholePage b request).blobs ∧
    pages.flatMap (·.commonPrefixes) = (wholePage b request).commonPrefixes ∧
    pages.length = max 1 (((wholePage b request).blobs.length +
      (wholePage b request).commonPrefixes.length + limit - 1) / limit)
  blobs : (c.client.blobs request none).runFrom w =
    (.ok ⟨(wholePage b request).blobs, .complete⟩, w)

/-- What holds of every listing that is begun in one state. -/
structure ListingLaws (w : World Backend) : Prop where
  disturbed : ∀ (c : Caller) request limit fetched, Limited c.store request limit →
    Browses c request w none fetched → Browsed c request limit fetched
  undisturbed : ∀ (c : Caller) request limit b, Limited c.store request limit →
    c.Spared .listPage w → w.remote.buckets.get? c.store.bucket = some b →
    Undisturbed c request limit w b

theorem undisturbed_of_sound {c : Caller} {request : ListRequest} {limit : Nat}
    {w : World Backend} {b : Bucket} (limited : Limited c.store request limit)
    (sound : w.remote.Sound) (spared : c.Spared .listPage w)
    (found : w.remote.buckets.get? c.store.bucket = some b) : Undisturbed c request limit w b := by
  obtain ⟨pages, walked, pulled, browsed, toldBlobs, toldPrefixes, count⟩ :=
    walk_whole limited sound spared found
  have shows := shows_wholePage b request
  refine ⟨⟨pages, ?_, browsed, ?_, ?_, ?_⟩, ?_⟩
  · have settled : (c.client.settle (⟨pages, .complete⟩ : Run Page)).runFrom w =
        (.ok ⟨pages, .complete⟩, w) := rfl
    unfold BucketClient.list
    rw [BlobStorage.Listing.pages_listingIn, bind_map_left]
    exact (Action.runFrom_bind_ok walked _).trans (Action.runFrom_bind_ok settled _)
  · rw [toldBlobs, shows.blobs]
  · rw [toldPrefixes, shows.commonPrefixes]
  · rw [count, length_of_shows shows]
  · unfold BucketClient.blobs
    rw [shows.blobs, ← toldBlobs, BlobStorage.Listing.blobs_listingIn, bind_map_left]
    exact (Action.runFrom_bind_ok pulled _).trans rfl

theorem listings_of_run (signingKey : Content) (now : Moment) (files : FileTree)
    (interceptions : List Interception) (calls : List Call) :
    ListingLaws (after { remote := Backend.fresh signingKey now, files, interceptions } calls) := by
  have sound := sound_after (Backend.sound_fresh signingKey now) calls
    (w := { remote := Backend.fresh signingKey now, files, interceptions })
  refine ⟨?_, ?_⟩
  · intro c request limit fetched limited browses
    obtain ⟨shown, rfl, displayed⟩ := browses.displayed limited sound none rfl
    exact displayed.browsed
  · intro c request limit b limited spared found
    exact undisturbed_of_sound limited sound spared found

end Memory
end BlobStorage
