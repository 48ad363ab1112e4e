import BlobStorage.Store

/-!
Listings that go on from page to page. A run gives what was delivered until it ended, and how it
ended, so that what was delivered before a failure is not lost.
-/
namespace BlobStorage

/-- How a run ended: with the last page, with a failure, or earlier, because no more was wanted or
the bound on its pages was reached. -/
inductive Ending where
  | complete
  | failed (failure : Failure)
  | cut
  deriving Repr

structure Run (α : Type) where
  delivered : List α
  ending : Ending
  deriving Repr

def Run.failure? {α : Type} (r : Run α) : Option Failure :=
  match r.ending with
  | .failed f => some f
  | _ => none

namespace Listing

variable {ρ : Type} (a : Adapter ρ)

/-- What is done with each page: the page's number, counted from one, and the page. It may fail,
which ends the run after that page. -/
abbrev Visitor := Nat → Page → Option Failure

def fetch (request : ListRequest) (token : Option PageToken) : Op ρ (Except Failure Page) := do
  let answer ← (Store.listPage a { request with token }).outcome
  return answer.mapError (·.within .generator)

/-- Fetches page after page. The first request has no token, and each later one the token of the
page before it. -/
def walk (request : ListRequest) (visit : Visitor) :
    Nat → Nat → Option PageToken → Op ρ (Run Page)
  | 0, _, _ => return ⟨[], .cut⟩
  | bound + 1, number, token => do
      match ← fetch a request token with
      | .error f => return ⟨[], .failed f⟩
      | .ok page =>
          match visit number page, page.follow? with
          | some f, _ => return ⟨[page], .failed f⟩
          | none, none => return ⟨[page], .complete⟩
          | none, some next => do
              let rest ← walk request visit bound (number + 1) next
              return ⟨page :: rest.delivered, rest.ending⟩

def pages (request : ListRequest) (visit : Visitor := fun _ _ => none) : Op ρ (Run Page) := do
  walk a request visit (a.pageBound (← get)) 1 none

/-- Blob after blob. A page is fetched only when a blob of it is asked for; with a count, no more
than so many are. -/
def pull (request : ListRequest) :
    Nat → Option PageToken → Option Nat → Op ρ (Run BlobInfo)
  | _, _, some 0 => return ⟨[], .cut⟩
  | 0, _, _ => return ⟨[], .cut⟩
  | bound + 1, token, wanted => do
      match ← fetch a request token with
      | .error f => return ⟨[], .failed f⟩
      | .ok page =>
          let here := match wanted with
            | some n => page.blobs.take n
            | none => page.blobs
          match page.follow? with
          | none => return ⟨here, if here.length < page.blobs.length then .cut else .complete⟩
          | some next => do
              let rest ← pull request bound next (wanted.map (· - here.length))
              return ⟨here ++ rest.delivered, rest.ending⟩

def blobs (request : ListRequest) (wanted : Option Nat := none) : Op ρ (Run BlobInfo) := do
  pull a request (a.pageBound (← get)) none wanted

end Listing
end BlobStorage
