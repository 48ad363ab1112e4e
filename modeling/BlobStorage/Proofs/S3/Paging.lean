import BlobStorage.Proofs.Memory.Undisturbed
import BlobStorage.Proofs.S3.Exchange
import BlobStorage.Proofs.S3.Pages
import BlobStorage.Proofs.Sorting

/-!
Requests that go on from page to page, for the blobs of a bucket and for the parts of an upload. Each page
is asked for once, the first without a token and every other with the token of the page before it, until a
page has none or cannot be had.
-/
namespace BlobStorage.S3

section Courses
variable {π τ : Type}

/-- A line of replies, page by page: up to a page after which nothing goes on, or up to a request that
fails. The tokens are those of the pages that are followed. -/
inductive Paged (tells : Value → π → Option τ → Prop) :
    List (Except Failure Reply) → List π → List τ → Option Failure → Prop
  | last {reply : Reply} {page more} (told : tells reply.value page none) :
      Paged tells (.ok reply :: more) [page] [] none
  | next {reply : Reply} {page token more pages tokens failure}
      (told : tells reply.value page (some token)) (rest : Paged tells more pages tokens failure) :
      Paged tells (.ok reply :: more) (page :: pages) (token :: tokens) failure
  | failed {f more} : Paged tells (.error f :: more) [] [] (some f)

/-- One request for each page, and one more for a page that failed. -/
theorem Paged.length_tokens {tells : Value → π → Option τ → Prop} {line pages tokens failure}
    (paged : Paged tells line pages tokens failure) :
    tokens.length + 1 = pages.length + if failure.isSome then 1 else 0 := by
  induction paged with
  | last | failed => rfl
  | next _ _ ih =>
      rw [List.length_cons, List.length_cons, ih]
      omega

end Courses

namespace Store
variable {ρ : Type}

/-- A parameter for a text that is set and not empty. -/
def setText (name : String) (text : Option String) : Parameters :=
  (text.filter (· ≠ "")).toList.map fun s => (name, .text s)

def pageCall (s : Store ρ) (request : ListRequest) (token : Option PageToken) : Call where
  method := .listObjects
  named := ("Bucket", .text s.bucket) :: setText "Prefix" request.stem ++
    setText "Delimiter" request.delimiter ++
    token.toList.map (fun t => ("ContinuationToken", t.value)) ++
    request.maxResults.toList.map fun n => ("MaxKeys", .whole n)

def partsCall (token : UploadToken) (marker : Option Value) : Call where
  method := .listParts
  named := [("Bucket", .text token.bucket), ("Key", .text token.key), ("UploadId", token.id.value)] ++
    marker.toList.map fun v => ("PartNumberMarker", v)

/-- The requests for page after page, each but the first with the token of the page before it. -/
def requests {τ : Type} (call : Option τ → Call) (first : Option τ) (tokens : List τ) : List Call :=
  call first :: tokens.map fun t => call (some t)

theorem givenText_eq (name : String) (text : Option String) :
    Parameters.givenText name text = setText name text := by
  cases text with
  | none => rfl
  | some s =>
      by_cases empty : s = "" <;>
        simp [Parameters.givenText, setText, Parameters.text, Option.filter_some, empty]

theorem givenWhole_eq (name : String) {n : Option Int} (positive : ∀ m ∈ n, 0 < m) :
    Parameters.givenWhole name n = n.toList.map fun m => (name, .whole m) := by
  cases n with
  | none => rfl
  | some m => exact if_neg (positive m rfl).ne'

open Exchange

section Listing
variable (s : Store Exchange) (closable : Bool) {request : ListRequest}
  (accepted : ∀ n ∈ request.maxResults, 0 < n)
include accepted

theorem runFrom_listPage {token : Option PageToken} (given : ∀ t ∈ token, t.isGiven = true)
    (w : World Exchange) :
    (((s.scripted closable).adapter World.unguarded).listPage { request with token }).runFrom w =
      (nth (w.remote.answers .listObjects) 0 >>= fun reply =>
          (pageOf reply.value).mapError .ambient,
        played w [s.pageCall request token]) := by
  have sent : Parameters.given "ContinuationToken" (Reported.value? token) =
      token.toList.map fun t => ("ContinuationToken", t.value) := by
    cases token with
    | none => rfl
    | some t =>
        have own : t.value.isGiven = true := given t rfl
        rw [Reported.value?, Parameters.given, if_pos own]
        rfl
  refine (World.runFrom_unguarded _ _ _ w).trans ?_
  have asked := runFrom_request closable .listObjects (s.pageCall request token).named w
  dsimp only [pageCall] at asked
  rw [← sent, ← givenWhole_eq "MaxKeys" accepted, ← givenText_eq, ← givenText_eq] at asked
  rw [pageCall, ← sent, ← givenWhole_eq "MaxKeys" accepted, ← givenText_eq, ← givenText_eq]
  rcases answered : nth (w.remote.answers .listObjects) 0 with f | reply
  · rw [answered] at asked
    exact Action.runFrom_bind_error asked _
  · rw [answered] at asked
    exact Action.runFrom_bind_ok asked _

/-- A failure as it comes out of a run of pages. -/
def outOfRun (style : CallStyle) (f : Failure) : Failure := (style.hand f).within .generator

def endOf (style : CallStyle) : Option Failure → Ending
  | none => .complete
  | some f => .failed (outOfRun style f)

variable (style : CallStyle)

theorem runFrom_fetch {token : Option PageToken} (given : ∀ t ∈ token, t.isGiven = true)
    (w : World Exchange) :
    (Listing.fetch (((s.scripted closable).adapter World.unguarded).listingIn style) request
        token).runFrom w =
      (.ok ((nth (w.remote.answers .listObjects) 0 >>= fun reply =>
          (pageOf reply.value).mapError .ambient).mapError (outOfRun style)),
        played w [s.pageCall request token]) := by
  have listed : (BlobStorage.Store.listPage
      (((s.scripted closable).adapter World.unguarded).listingIn style)
      { request with token }).runFrom w = _ :=
    (BlobStorage.Store.runFrom_listPage accepted w).trans (CallStyle.runFrom_reach style _ w)
  rw [s.runFrom_listPage closable accepted given w] at listed
  unfold Listing.fetch
  rw [Action.runFrom_bind, Action.runFrom_outcome, listed]
  generalize nth (w.remote.answers .listObjects) 0 >>= (fun reply =>
    (pageOf reply.value).mapError .ambient) = answer
  rcases answer with f | page <;> rfl

/-- The page that a reply tells is fetched. -/
theorem runFrom_fetch_page {token next : Option PageToken} (given : ∀ t ∈ token, t.isGiven = true)
    {w : World Exchange} {reply : Reply} {page : Page} {more : List (Except Failure Reply)}
    (line : w.remote.answers .listObjects = .ok reply :: more)
    (told : TellsPage reply.value page next) :
    (Listing.fetch (((s.scripted closable).adapter World.unguarded).listingIn style) request
        token).runFrom w = (.ok (.ok page), played w [s.pageCall request token]) := by
  rw [s.runFrom_fetch closable accepted style given w, line, nth_zero]
  change (Except.ok (((pageOf reply.value).mapError Failure.ambient).mapError _), _) = _
  rw [pageOf_of_shows told.shows]
  rfl

/-- Pages are fetched one after the other for as long as each has a token, and given to a visitor that
takes them all. -/
theorem runFrom_walk (visit : Listing.Visitor) {line : List (Except Failure Reply)}
    {pages : List Page} {tokens : List PageToken} {failure : Option Failure} {bound : Nat}
    (number : Nat) (token : Option PageToken) {w : World Exchange}
    (own : w.remote.answers .listObjects = line) (paged : Paged TellsPage line pages tokens failure)
    (enough : line.length < bound) (given : ∀ t ∈ token, t.isGiven = true)
    (taken : ∀ n page, pages[n]? = some page → visit (number + n) page = none) :
    (Listing.walk (((s.scripted closable).adapter World.unguarded).listingIn style) request visit
        bound number token).runFrom w =
      (.ok ⟨pages, endOf style failure⟩,
        played w (requests (s.pageCall request) token tokens)) := by
  induction paged generalizing bound number token w with
  | @last reply page more told =>
      cases bound with
      | zero => cases enough
      | succ bound =>
          have fetched := s.runFrom_fetch_page closable accepted style given own told
          refine (Action.runFrom_bind_ok fetched _).trans ?_
          dsimp only
          rw [show visit number page = none from taken 0 page rfl,
            follow?_of_goes_on told.goes_on]
          rfl
  | @next reply page next more pages tokens failure told rest ih =>
      cases bound with
      | zero => cases enough
      | succ bound =>
          have fetched := s.runFrom_fetch_page closable accepted style given own told
          have sent_given : ∀ t ∈ some next, t.isGiven = true := by
            rintro _ ⟨⟩
            cases told.goes_on
            assumption
          have taken_later : ∀ n page, pages[n]? = some page → visit (number + 1 + n) page = none := by
            intro n page found
            rw [Nat.add_right_comm]
            exact taken (n + 1) page found
          have later := ih (number + 1) (some next)
            (answers_played_one (s.pageCall request token) rfl own)
            (Nat.lt_of_succ_lt_succ enough) sent_given taken_later
          refine (Action.runFrom_bind_ok fetched _).trans ?_
          dsimp only
          rw [show visit number page = none from taken 0 page rfl,
            follow?_of_goes_on told.goes_on]
          exact (Action.runFrom_bind_ok later _).trans rfl
  | @failed f more =>
      cases bound with
      | zero => cases enough
      | succ bound =>
          have fetched := s.runFrom_fetch closable accepted style given w
          rw [own, nth_zero] at fetched
          exact Action.runFrom_bind_ok fetched _

omit accepted in
theorem enough_pages (w : World Exchange) : (w.remote.answers .listObjects).length <
    (((s.scripted closable).adapter World.unguarded).listingIn style).pageBound w := by
  change _ < w.remote.pending .listObjects + 1
  rw [pending_eq]
  exact Nat.lt_succ_self _

/-- How a run of pages ends for those who hold the store. -/
def toldEnd (style : CallStyle) (categorizes : Bool) : Option Failure → Ending
  | none => .complete
  | some f => .failed (raised .blocking categorizes none (outOfRun style f))

omit accepted in
theorem runFrom_settle {α : Type} {categorizes : Bool} (delivered : List α)
    (failure : Option Failure) (w : World Exchange) :
    (((s.scripted closable).held style categorizes).settle
        ⟨delivered, endOf style failure⟩).runFrom w =
      (.ok ⟨delivered, toldEnd style categorizes failure⟩, w) := by
  cases failure with
  | none => rfl
  | some f => cases categorizes <;> rfl

section Whole
variable {pages : List Page} {tokens : List PageToken} {failure : Option Failure}
  {w : World Exchange} {categorizes : Bool}
  (paged : Paged TellsPage (w.remote.answers .listObjects) pages tokens failure)
include paged

theorem perform_list {visit : Listing.Visitor}
    (taken : ∀ n page, pages[n]? = some page → visit (n + 1) page = none) :
    (((s.scripted closable).held style categorizes).list request visit).runFrom w =
      (.ok ⟨pages.map (·.toBatch), toldEnd style categorizes failure⟩,
        played w (requests (s.pageCall request) none tokens)) := by
  have walked := s.runFrom_walk closable accepted style visit 1 none rfl paged
    (s.enough_pages closable style w) nofun fun n page found => by
      rw [Nat.add_comm]
      exact taken n page found
  have whole : (BlobStorage.Listing.pages (((s.scripted closable).adapter World.unguarded).listingIn
      style) request visit).runFrom w = _ :=
    (Action.runFrom_bind_ok (Action.runFrom_get w) _).trans walked
  refine (Action.runFrom_bind_ok whole _).trans ?_
  exact Action.runFrom_bind_ok (s.runFrom_settle closable style pages failure _) _

theorem perform_blobs :
    (((s.scripted closable).held style categorizes).blobs request none).runFrom w =
      (.ok ⟨pages.flatMap (·.blobs), toldEnd style categorizes failure⟩,
        played w (requests (s.pageCall request) none tokens)) := by
  have walked := s.runFrom_walk closable accepted style (fun _ _ => none) 1 none rfl paged
    (s.enough_pages closable style w) nofun fun _ _ _ => rfl
  have whole : (BlobStorage.Listing.blobs (((s.scripted closable).adapter World.unguarded).listingIn
      style) request none).runFrom w = _ :=
    (Action.runFrom_bind_ok (Action.runFrom_get w) _).trans
      (BlobStorage.Listing.runFrom_pull_of_walk walked)
  exact (Action.runFrom_bind_ok whole _).trans (s.runFrom_settle closable style _ failure _)

end Whole
end Listing

section Parts
variable (s : Store Exchange) (closable : Bool) {token : UploadToken}

/-- The token is one of an upload to the store's bucket. -/
structure Owns (s : Store Exchange) (token : UploadToken) : Prop where
  named : token.id.isGiven = true
  bucket : token.bucket = s.bucket
  keyed : token.key ≠ ""

variable {s} in
theorem Owns.checked (owns : s.Owns token) : Check.uploadToken token s.bucket = .ok () :=
  (Check.uploadToken_eq_ok_iff token s.bucket).mpr ⟨owns.named, owns.bucket, owns.keyed⟩

/-- What comes of parts that were collected up to a failure, or up to the last page. -/
def collected (parts : List ListedPart) : Option Failure → Except Failure (List ListedPart)
  | none => .ok parts
  | some f => .error f

section Steps
variable {w : World Exchange} {reply : Reply} {more : List (Except Failure Reply)}
  {parts : List ListedPart} (bound : Nat) (marker : Option Value)

theorem runFrom_askParts (token : UploadToken) (w : World Exchange) :
    ((s.scripted closable).client.request .listParts (Parameters.multipart token ++
        (marker.map fun v => ("PartNumberMarker", v)).toList)).runFrom w =
      (nth (w.remote.answers .listParts) 0, played w [partsCall token marker]) := by
  have sent : partsCall token marker = { method := .listParts, named := Parameters.multipart token ++
      (marker.map fun v => ("PartNumberMarker", v)).toList } := by
    cases marker <;> rfl
  rw [sent]
  exact runFrom_request closable .listParts _ w

theorem runFrom_collectParts_last (line : w.remote.answers .listParts = .ok reply :: more)
    (told : TellsParts reply.value parts none) :
    ((s.scripted closable).collectParts token (bound + 1)
        (marker.map fun v => ("PartNumberMarker", v)).toList).runFrom w =
      (.ok parts, played w [partsCall token marker]) := by
  have asked := s.runFrom_askParts closable marker token w
  rw [line, nth_zero] at asked
  refine (Action.runFrom_bind_ok asked _).trans ?_
  rw [Action.runFrom_ambient_bind_ok (each_of_listed told.shows fun _ _ => partOf_of_shows)]
  obtain ⟨whole⟩ := told.goes_on
  rw [Action.runFrom_ambient_bind_ok (isGiven_of_marked whole)]
  rfl

theorem runFrom_collectParts_next {next : Value}
    (line : w.remote.answers .listParts = .ok reply :: more)
    (told : TellsParts reply.value parts (some next)) :
    ((s.scripted closable).collectParts token (bound + 1)
        (marker.map fun v => ("PartNumberMarker", v)).toList).runFrom w =
      Action.runFrom (do
        let rest ← (s.scripted closable).collectParts token bound
          ((some next).map fun v => ("PartNumberMarker", v)).toList
        return parts ++ rest) (played w [partsCall token marker]) := by
  have asked := s.runFrom_askParts closable marker token w
  rw [line, nth_zero] at asked
  refine (Action.runFrom_bind_ok asked _).trans ?_
  rw [Action.runFrom_ambient_bind_ok (each_of_listed told.shows fun _ _ => partOf_of_shows)]
  obtain _ | ⟨truncated, has⟩ := told.goes_on
  rw [Action.runFrom_ambient_bind_ok (isGiven_of_marked truncated), if_pos rfl,
    Action.runFrom_ambient_bind_ok (part_of_has has)]
  rfl

end Steps

/-- Pages of parts are asked for one after the other for as long as there are more. -/
theorem runFrom_collectParts {line : List (Except Failure Reply)} {pages : List (List ListedPart)}
    {markers : List Value} {failure : Option Failure} {bound : Nat} (marker : Option Value)
    {w : World Exchange} (own : w.remote.answers .listParts = line)
    (paged : Paged TellsParts line pages markers failure) (enough : line.length < bound) :
    ((s.scripted closable).collectParts token bound
        (marker.map fun v => ("PartNumberMarker", v)).toList).runFrom w =
      (collected pages.flatten failure, played w (requests (partsCall token) marker markers)) := by
  induction paged generalizing bound marker w with
  | @last reply parts more told =>
      cases bound with
      | zero => cases enough
      | succ bound =>
          rw [s.runFrom_collectParts_last closable bound marker own told, List.flatten_singleton]
          rfl
  | @next reply parts next more pages markers failure told rest ih =>
      cases bound with
      | zero => cases enough
      | succ bound =>
          have later := ih (some next)
            (answers_played_one (partsCall token marker) rfl own)
            (Nat.lt_of_succ_lt_succ enough)
          rw [s.runFrom_collectParts_next closable bound marker own told]
          cases failure with
          | none => exact Action.runFrom_bind_ok later _
          | some f => exact Action.runFrom_bind_error later _
  | @failed f more =>
      cases bound with
      | zero => cases enough
      | succ bound =>
          have asked := s.runFrom_askParts closable marker token w
          rw [own, nth_zero] at asked
          exact Action.runFrom_bind_error asked _

theorem runFrom_listParts {pages : List (List ListedPart)} {markers : List Value}
    {failure : Option Failure} {w : World Exchange}
    (checked : Check.uploadToken token s.bucket = .ok ())
    (paged : Paged TellsParts (w.remote.answers .listParts) pages markers failure) :
    (BlobStorage.Store.listParts ((s.scripted closable).adapter World.unguarded) token).runFrom w =
      (collected pages.flatten failure >>= fun parts =>
          (BlobStorage.Store.listedInOrder parts).mapError .ambient,
        played w (requests (partsCall token) none markers)) := by
  have enough : (w.remote.answers .listParts).length <
      (s.scripted closable).client.bound w .listParts := by
    change _ < w.remote.pending .listParts + 1
    rw [pending_eq]
    exact Nat.lt_succ_self _
  have adapted : (((s.scripted closable).adapter World.unguarded).listParts token).runFrom w = _ :=
    (World.runFrom_unguarded _ _ _ w).trans ((Action.runFrom_bind_ok (Action.runFrom_get w) _).trans
      (s.runFrom_collectParts closable none rfl paged enough))
  refine (BlobStorage.Store.runFrom_check_bind_ok checked _ w).trans ?_
  cases failure with
  | some f => exact Action.runFrom_bind_error adapted _
  | none => exact Action.runFrom_bind_ok adapted _

end Parts

section Order
variable {β : Type} [LinearOrder β] {rank : ListedPart → β} {parts : List ListedPart}

/-- Parts whose numbers have an order, which is that of a rank. -/
def Ranked (rank : ListedPart → β) (parts : List ListedPart) : Prop :=
  ∀ p ∈ parts, ∀ q ∈ parts,
    Value.precedes? p.number.value q.number.value = some (decide (rank p < rank q))

/-- The parts by rank, and those of one rank in the order in which they came. -/
structure InOrder (rank : ListedPart → β) (parts sorted : List ListedPart) : Prop where
  same : sorted.Perm parts
  ascending : sorted.Pairwise fun p q => rank p ≤ rank q
  stable : ∀ r, sorted.filter (fun p => decide (rank p = r)) =
    parts.filter fun p => decide (rank p = r)

/-- The number of a part, where it is known. -/
def numberOf (p : ListedPart) : Int := p.number.known?.getD 0

theorem ranked_known (known : ∀ p ∈ parts, ∃ n, p.number = .known n) : Ranked numberOf parts := by
  intro p hp q hq
  obtain ⟨m, first⟩ := known p hp
  obtain ⟨n, second⟩ := known q hq
  rw [numberOf, numberOf, first, second]
  change Value.precedes? (.whole m) (.whole n) = some (decide (m < n))
  simp [Value.precedes?, Value.quotient?]

theorem checkOrdered_ranked (ranked : Ranked rank parts) :
    Value.checkOrdered (parts.map (·.number.value)) = .ok () := by
  induction parts with
  | nil => rfl
  | cons p rest ih =>
      cases rest with
      | nil => rfl
      | cons q rest =>
          have told := ranked q (by simp) p (by simp)
          have later := ih fun a ha b hb =>
            ranked a (List.mem_cons_of_mem _ ha) b (List.mem_cons_of_mem _ hb)
          rw [List.map_cons, List.map_cons, Value.checkOrdered, told]
          exact later

/-- Parts whose numbers have an order are sorted by it. -/
theorem listedInOrder_ranked (ranked : Ranked rank parts) :
    ∃ sorted, InOrder rank parts sorted ∧ BlobStorage.Store.listedInOrder parts = .ok sorted := by
  have compares : Sorting.Compares rank fun p q => decide (rank p ≤ rank q) :=
    fun p q => decide_eq_true_iff
  have same : (parts.mergeSort fun p q =>
      (Value.precedes? q.number.value p.number.value) != some true) =
        parts.mergeSort fun p q => decide (rank p ≤ rank q) := by
    refine Sorting.mergeSort_congr fun p hp q hq => ?_
    rw [ranked q hq p hp]
    by_cases before : rank q < rank p
    · simp [before]
    · simp [before, not_lt.mp before]
  refine ⟨_, ⟨List.mergeSort_perm parts _, Sorting.pairwise_le compares parts,
    Sorting.filter_mergeSort compares parts⟩, ?_⟩
  unfold BlobStorage.Store.listedInOrder
  rw [checkOrdered_ranked ranked, same]
  rfl

end Order
end Store

open Exchange in
/-- What it means for a store to go on from page to page. -/
structure PagingLaws (s : Store Exchange) : Prop where
  /-- Listing asks for each page once, with the token of the page before it, and gives the pages to a
  visitor one by one. It ends with the last page, or with the failure of a request and no other request. -/
  listed : ∀ {request visit style categorizes pages tokens failure} {w : World Exchange},
    (∀ n ∈ request.maxResults, 0 < n) →
    Paged TellsPage (w.remote.answers .listObjects) pages tokens failure →
    (∀ n page, pages[n]? = some page → visit (n + 1) page = none) →
    ((s.held style categorizes).list request visit).runFrom w =
      (.ok ⟨pages.map (·.toBatch), Store.toldEnd style categorizes failure⟩,
        played w (Store.requests (s.pageCall request) none tokens))
  /-- Blob by blob, the same requests give the blobs of all pages. -/
  iterated : ∀ {request style categorizes pages tokens failure} {w : World Exchange},
    (∀ n ∈ request.maxResults, 0 < n) →
    Paged TellsPage (w.remote.answers .listObjects) pages tokens failure →
    ((s.held style categorizes).blobs request none).runFrom w =
      (.ok ⟨pages.flatMap (·.blobs), Store.toldEnd style categorizes failure⟩,
        played w (Store.requests (s.pageCall request) none tokens))
  /-- Listing parts asks in the same way and gives the parts of all pages in order. -/
  parts : ∀ {token style categorizes pages markers} {w : World Exchange} {β : Type} [LinearOrder β]
    {rank : ListedPart → β}, Store.Owns s token →
    Paged TellsParts (w.remote.answers .listParts) pages markers none →
    Store.Ranked rank pages.flatten →
    ∃ sorted, Store.InOrder rank pages.flatten sorted ∧
      ((s.held style categorizes).perform (.listParts token)).runFrom w =
        (.ok (.parts sorted),
          played w (Store.requests (Store.partsCall token) none markers))
  /-- Whole numbers are such an order. -/
  numbered : ∀ {parts : List ListedPart}, (∀ p ∈ parts, ∃ n, p.number = .known n) →
    Store.Ranked Store.numberOf parts
  /-- A page of parts that cannot be had is the last that is asked for, and its failure is raised. -/
  parts_failed : ∀ {token style categorizes pages markers f} {w : World Exchange},
    Store.Owns s token →
    Paged TellsParts (w.remote.answers .listParts) pages markers (some f) →
    ((s.held style categorizes).perform (.listParts token)).runFrom w =
      (.error (Store.raised style categorizes (some token.key) f),
        played w (Store.requests (Store.partsCall token) none markers))
  /-- There is one request for each page, and one for the page that failed. -/
  once : ∀ {π τ : Type} {tells : Value → π → Option τ → Prop} {line pages tokens failure}
    {call : Option τ → Call} {first}, Paged tells line pages tokens failure →
    (Store.requests call first tokens).length = pages.length + if failure.isSome then 1 else 0
  /-- An error reply ends a listing as it is, or as the cause of what is raised in its category. -/
  propagated : ∀ {style categorizes} {e : ErrorReply},
    Store.toldEnd style categorizes (some (.reply e)) =
      .failed (if categorizes then .categorized e.kind none (.reply e) true else .reply e)
  /-- So it does for parts. -/
  parts_propagated : ∀ {style categorizes} {e : ErrorReply} {key : String}, key ≠ "" →
    Store.raised style categorizes (some key) (.reply e) =
      if categorizes then .categorized e.kind (some key) (.reply e) true else .reply e
  /-- A reply tells one page at most, and does so where all that it lists is named. -/
  told : ∀ {reply p p' next next'}, TellsPage reply p next → TellsPage reply p' next' →
    p = p' ∧ next = next'
  legible : ∀ {reply}, Lists reply "Contents" (Holds · "Key") →
    Lists reply "CommonPrefixes" (Holds · "Prefix") → ∃ p next, TellsPage reply p next
  parts_told : ∀ {reply parts parts' next next'}, TellsParts reply parts next →
    TellsParts reply parts' next' → parts = parts' ∧ next = next'
  parts_legible : ∀ {reply}, Lists reply "Parts" (fun v => Holds v "PartNumber" ∧ Holds v "ETag") →
    (Marked reply "IsTruncated" true → Holds reply "NextPartNumberMarker") →
    ∃ parts next, TellsParts reply parts next
  /-- A text is a token to go on with unless it is empty. -/
  token : ∀ {text : String}, (Reported.known text).isGiven = true ↔ text ≠ ""

/-- Listings of any store, whatever the service answers. -/
theorem paging_of_script (s : Store Exchange) (closable : Bool) :
    PagingLaws (s.scripted closable) where
  listed accepted paged taken := s.perform_list closable accepted _ paged taken
  iterated accepted paged := s.perform_blobs closable accepted _ paged
  parts {token style categorizes pages markers w β _ rank} owns paged ranked := by
    obtain ⟨sorted, inOrder, told⟩ := Store.listedInOrder_ranked ranked
    have own := s.runFrom_listParts closable owns.checked paged
    rw [Store.collected] at own
    change _ = ((BlobStorage.Store.listedInOrder pages.flatten).mapError Failure.ambient, _) at own
    rw [told] at own
    refine ⟨sorted, inOrder, (BucketClient.runFrom_call_ok_iff ..).mpr ?_⟩
    exact Action.runFrom_map_ok_iff.mpr ⟨sorted, rfl, own⟩
  numbered := Store.ranked_known
  parts_failed {token style categorizes pages markers f w} owns paged := by
    have own := s.runFrom_listParts closable owns.checked paged
    refine Store.runFrom_held_error ((Action.runFrom_map ..).trans ?_)
    rw [show (BlobStorage.Store.listParts ((s.scripted closable).held style categorizes).adapter
      token).runFrom w = _ from own]
    rfl
  once paged := by
    rw [Store.requests, List.length_cons, List.length_map, paged.length_tokens]
  propagated {style categorizes e} := by
    rw [Store.toldEnd, show Store.outOfRun style (.reply e) = .reply e by cases style <;> rfl,
      Store.raised_reply]
    rfl
  parts_propagated {style categorizes e key} keyed := by
    have own : Failure.pickKey (some key) none = some key := by simp [Failure.pickKey, keyed]
    rw [Store.raised_reply, own]
  told := TellsPage.unique
  legible := exists_tellsPage
  parts_told := TellsParts.unique
  parts_legible := exists_tellsParts
  token {text} := by
    change (!text.isEmpty) = true ↔ _
    simp

end BlobStorage.S3
