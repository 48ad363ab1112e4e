import BlobStorage.Proofs.Directory.Awaited

/-!
Stores of which it is settled beforehand what they answer: how a listing goes on from page to page, what
becomes of every unit whenever its turn comes, and into which category a failure is put. Of such a store
a transfer leaves and tells the same in whatever order its units are carried out.
-/
namespace BlobStorage.Directory

/-- How a listing goes on from a token: page after page, up to the last page or to a failure, which is
never that there are no more items. -/
inductive Course : Option PageToken → Type where
  | failed {token : Option PageToken} (f : Failure) (told : f.within .generator = f) : Course token
  | last {token : Option PageToken} (page : Page) (ends : page.follow? = none) : Course token
  | next {token : Option PageToken} (page : Page) (later : PageToken)
      (follows : page.follow? = some later) (rest : Course (some later)) : Course token

/-- What is left of a listing; nothing once it has ended. -/
abbrev Stage := Option ((token : Option PageToken) × Course token)

namespace Course
variable {token : Option PageToken}

def answer : Course token → Except Failure Page
  | failed f _ => .error f
  | last page _ | next page _ _ _ => .ok page

def rest : Course token → Stage
  | failed _ _ | last _ _ => none
  | next _ later _ rest => some ⟨some later, rest⟩

def length {token : Option PageToken} : Course token → Nat
  | failed _ _ | last _ _ => 1
  | next _ _ _ rest => rest.length + 1

def blobs {token : Option PageToken} : Course token → List BlobInfo
  | failed _ _ => []
  | last page _ => page.blobs
  | next page _ _ rest => page.blobs ++ rest.blobs

def ending {token : Option PageToken} : Course token → Ending
  | failed f _ => .failed f
  | last _ _ => .complete
  | next _ _ _ rest => rest.ending

/-- The batches of all that is listed: where the listing fails, those that it had filled. -/
def batches (limit : Nat) (before : List Target) (course : Course token) : List (List Target) :=
  match course.ending with
  | .failed _ => (cutFull limit (before ++ course.blobs.map (·.target))).1
  | _ => allBatches limit (before ++ course.blobs.map (·.target))

theorem batches_next (limit : Nat) (before : List Target) (page : Page) (later : PageToken)
    (follows : page.follow? = some later) (rest : Course (some later)) :
    (next page later follows rest : Course token).batches limit before =
      rest.batches limit (before ++ targets page) := by
  simp only [batches, ending, blobs, targets, List.map_append, List.append_assoc]

theorem cutFull_subset_batches (limit : Nat) (before : List Target) (course : Course token) :
    ∀ b ∈ (cutFull limit before).1, b ∈ course.batches limit before := by
  intro b hb
  have cut : b ∈ (cutFull limit (before ++ course.blobs.map (·.target))).1 := by
    rw [cutFull_append]
    exact List.mem_append_left _ hb
  unfold batches
  cases course.ending with
  | failed f => exact cut
  | complete | cut => exact List.mem_append_left _ cut

end Course

/-- Of a store it is settled what it answers: to a listing, for each of some units, and when asked for
the category of a failure. The invariant tells what is left of the listing, and which units have been
carried out, the latest first. -/
structure Settled {ρ α : Type} (a : Adapter ρ) (stem : Option String) (run : α → Op ρ Unit)
    (result : α → Except Failure Unit) (category : Failure → ErrorKind) (units : List α)
    (Inv : Stage → List α → World ρ → Prop) : Prop where
  bounded : ∀ token (course : Course token) done w, Inv (some ⟨token, course⟩) done w →
    course.length ≤ a.pageBound w
  lists : ∀ token (course : Course token) done w, Inv (some ⟨token, course⟩) done w →
    ∃ w', (Listing.fetch a { stem } token).runFrom w = (.ok course.answer, w') ∧
      Inv course.rest done w'
  tries : ∀ stage done unit w, unit ∈ units → Inv stage done w →
    ∃ w', (run unit).runFrom w = (result unit, w') ∧ Inv stage (unit :: done) w'
  categorizes : ∀ stage done f w, Inv stage done w →
    verdict a.classify f w = category f ∧ Inv stage done ((a.classify f).runFrom w).2

def failed {α : Type} (result : α → Except Failure Unit) (units : List α) : List (α × Failure) :=
  failures (units.map fun unit => (unit, result unit))

/-- How failures of units are recorded where they are heard in a style. -/
def records {α β : Type} (style : CallStyle) (category : Failure → ErrorKind)
    (record : α → Failure → β) (key : α → Option String) (bad : List (α × Failure)) : List β :=
  bad.map fun (unit, f) =>
    record unit ((style.hand f).categorize (category (style.hand f)) (key unit) false)

/-- An action tells this in the end, after it has carried out every unit once, in some order. -/
def Tells {ρ α β : Type} (x : Op ρ β) (told : Except Failure β) (units : List α)
    (Inv : List α → World ρ → Prop) (w : World ρ) : Prop :=
  ∃ done w', x.runFrom w = (told, w') ∧ done.Perm units ∧ Inv done w'

namespace Settled
variable {ρ α β : Type} {a : Adapter ρ} {stem : Option String} {run : α → Op ρ Unit}
  {result : α → Except Failure Unit} {category : Failure → ErrorKind} {units : List α}
  {Inv : Stage → List α → World ρ → Prop} {stage : Stage} {done : List α} {w : World ρ}

section Recording
variable (settled : Settled a stem run result category units Inv)
include settled

theorem categorized (inv : Inv stage done w) (f : Failure) (key : Option String) :
    ∃ w', (categorizeWith a.classify f key false).runFrom w =
      (.ok (f.categorize (category f) key false), w') ∧ Inv stage done w' := by
  obtain ⟨same, kept⟩ := settled.categorizes stage done f w inv
  exact ⟨_, same ▸ runFrom_categorizeWith .., kept⟩

theorem recorded (inv : Inv stage done w) (style : CallStyle) (record : α → Failure → β)
    (key : α → Option String) (bad : List (α × Failure)) :
    ∃ w', (recording a style record key bad).runFrom w =
      (.ok (records style category record key bad), w') ∧ Inv stage done w' := by
  unfold recording
  induction bad generalizing w with
  | nil => exact ⟨w, rfl, inv⟩
  | cons first rest ih =>
      obtain ⟨w₁, one, kept⟩ := settled.categorized inv (style.hand first.2) (key first.1)
      obtain ⟨w₂, later, still⟩ := ih kept
      refine ⟨w₂, ?_, still⟩
      rw [List.mapM_cons, bind_assoc, Action.runFrom_bind_ok one, pure_bind,
        Action.runFrom_bind_ok later]
      rfl

/-- In whatever turns they are tried, all units come to what is settled for them. -/
theorem tried (inv : Inv stage [] w) (turns : Turns) :
    ∃ done w', (trials turns units run).runFrom w =
        (.ok (units.map fun unit => (unit, result unit)), w') ∧
      done.Perm units ∧ Inv stage done w' := by
  have total (unit : α) (s : World ρ) :
      ∃ x t, (trial run unit).runFrom s = (.ok (unit, x), t) :=
    ⟨_, _, runFrom_trial run unit s⟩
  have settles : Queue.Settles (trial run) result (· ∈ units) (Inv stage) := by
    intro done unit s due inv
    obtain ⟨t, ran, kept⟩ := settled.tries stage done unit s due inv
    refine ⟨t, ?_, kept⟩
    rw [runFrom_trial, ran]
  have holds := (Queue.holds_nil (α := α) (γ := Except Failure Unit)).submit units
  rw [List.nil_append] at holds
  have start : (({} : Queue α (α × Except Failure Unit)).submit units).Told result (Inv stage) w :=
    ⟨(fun _ none => nomatch none), inv⟩
  obtain ⟨queue, w', _, ran, advanced, finished⟩ := Queue.finish_spec total turns
    (({} : Queue α (α × Except Failure Unit)).submit units) w
  have told := advanced.told total settles holds (fun _ => id) start
  obtain ⟨same, perm⟩ := told.of_finished (advanced.holds holds) finished
  exact ⟨_, w', same ▸ Action.runFrom_bind_ok ran _, perm, told.inv⟩

/-- Nor do the turns show in what is recorded of the units. -/
theorem transferred (inv : Inv stage [] w) (turns : Turns) (style : CallStyle)
    (record : α → Failure → β) (key : α → Option String) :
    Tells (trials turns units run >>= fun told => recording a style record key (failures told))
      (.ok (records style category record key (failed result units))) units (Inv stage) w := by
  obtain ⟨done, w₁, tried, all, kept⟩ := settled.tried inv turns
  obtain ⟨w₂, recorded, still⟩ := settled.recorded kept style record key (failed result units)
  exact ⟨done, w₂, (Action.runFrom_bind_ok tried _).trans recorded, all, still⟩

end Recording

section Listing
variable (settled : Settled a stem run result category units Inv) {token : Option PageToken}
include settled

/-- All blobs are pulled, with pages to spare. -/
theorem pulled (course : Course token) (spare : Nat) (inv : Inv (some ⟨token, course⟩) done w) :
    ∃ w', (Listing.pull a { stem } (spare + course.length) token none).runFrom w =
      (.ok ⟨course.blobs, course.ending⟩, w') ∧ Inv none done w' := by
  induction course generalizing w with
  | failed f told =>
      obtain ⟨w₁, fetched, kept⟩ := settled.lists _ _ done w inv
      exact ⟨w₁, Action.runFrom_bind_ok fetched _, kept⟩
  | last page ends =>
      obtain ⟨w₁, fetched, kept⟩ := settled.lists _ _ done w inv
      exact ⟨w₁, runFrom_pull_last fetched ends, kept⟩
  | next page later follows rest ih =>
      obtain ⟨w₁, fetched, kept⟩ := settled.lists _ _ done w inv
      obtain ⟨w₂, more, still⟩ := ih kept
      exact ⟨w₂, runFrom_pull_next fetched follows more, still⟩

theorem listed (course : Course none) (inv : Inv (some ⟨none, course⟩) done w) :
    ∃ w', (Listing.blobs a { stem }).runFrom w = (.ok ⟨course.blobs, course.ending⟩, w') ∧
      Inv none done w' := by
  obtain ⟨spare, bound⟩ := Nat.exists_eq_add_of_le' (settled.bounded none course done w inv)
  obtain ⟨w', ran, kept⟩ := settled.pulled course spare inv
  refine ⟨w', ?_, kept⟩
  rw [← bound] at ran
  exact (Action.runFrom_bind_ok (Action.runFrom_get w) _).trans ran

end Listing
end Settled

section Batches
variable {ρ : Type} {a : Adapter ρ} {stem : Option String} {result : List Target → Except Failure Unit}
  {category : Failure → ErrorKind} {units : List (List Target)}
  {Inv : Stage → List (List Target) → World ρ → Prop} {w : World ρ}
  (settled : Settled a stem (Store.deleteMany a) result category units Inv)
include settled

theorem settles_deleteBatch (stage : Stage) :
    Queue.Settles (deleteBatch a) (fun batch => failureOf (result batch)) (· ∈ units) (Inv stage) := by
  intro done batch s due inv
  obtain ⟨t, ran, kept⟩ := settled.tries stage done batch s due inv
  exact ⟨t, runFrom_deleteBatch ran, kept⟩

/-- Page for page the batches that are carried out in the turns come to what is settled for them. -/
theorem deletePages_settled (pace : Pace) {token : Option PageToken} (course : Course token)
    (spare number : Nat) {all : List Target} {d : Deletion}
    (batched : Batched a.deleteLimit.toNat all d)
    (due : ∀ b ∈ course.batches a.deleteLimit.toNat all, b ∈ units)
    (told : d.batches.Told (fun batch => failureOf (result batch)) (Inv (some ⟨token, course⟩)) w) :
    ∃ d' w', (deletePages a { stem } pace (spare + course.length) number token d).runFrom w =
        (.ok (d', course.ending), w') ∧
      d'.batches.Holds (course.batches a.deleteLimit.toNat all) ∧
      d'.batches.Told (fun batch => failureOf (result batch)) (Inv none) w' := by
  induction course generalizing number all d w with
  | failed f _ =>
      obtain ⟨w₁, fetched, kept⟩ := settled.lists _ _ _ w told.inv
      refine ⟨d, w₁, runFrom_deletePages_failed fetched, ?_, told.told, kept⟩
      simpa [Course.batches, Course.blobs, Course.ending] using batched.batches
  | last page ends =>
      obtain ⟨w₁, fetched, kept⟩ := settled.lists _ _ _ w told.inv
      have grown := batched.add (targets page)
      exact ⟨_, w₁, runFrom_deletePages_last fetched ends, grown.close, told.told, kept⟩
  | next page later follows rest ih =>
      obtain ⟨w₁, fetched, kept⟩ := settled.lists _ _ _ w told.inv
      have grown := batched.add (targets page)
      rw [Course.batches_next] at due ⊢
      obtain ⟨batches, w₂, _, ran, advanced, _⟩ := Queue.advance_spec (total_deleteBatch (a := a))
        (pace number (d.add a.deleteLimit.toNat (targets page)).batches.waiting.length)
        (d.add a.deleteLimit.toNat (targets page)).batches w₁
      have filled (b : List Target)
          (hb : b ∈ (cutFull a.deleteLimit.toNat (all ++ targets page)).1) : b ∈ units :=
        due b (rest.cutFull_subset_batches _ _ b hb)
      have on := advanced.told total_deleteBatch (settles_deleteBatch settled _) grown.batches filled
        ⟨told.told, kept⟩
      have still : Batched a.deleteLimit.toNat (all ++ targets page)
          { d.add a.deleteLimit.toNat (targets page) with batches } :=
        ⟨grown.pending, advanced.holds grown.batches⟩
      obtain ⟨d', w', more, holds, all_told⟩ := ih (number + 1) still due on
      exact ⟨d', w', (runFrom_deletePages_next fetched follows ran).trans more, holds, all_told⟩

end Batches

/-- In whatever turns they are carried out, all batches come to what is settled for them, whether the
listing goes on to its end or fails. -/
theorem attempts_settled {ρ : Type} {a : Adapter ρ} {stem : Option String}
    {result : List Target → Except Failure Unit} {category : Failure → ErrorKind}
    {Inv : Stage → List (List Target) → World ρ → Prop} {w : World ρ} (course : Course none)
    (settled : Settled a stem (Store.deleteMany a) result category
      (course.batches a.deleteLimit.toNat []) Inv)
    (inv : Inv (some ⟨none, course⟩) [] w) (pace : Pace) (turns : Turns) :
    ∃ done w', (attempts a stem pace turns).runFrom w =
        (.ok ((course.batches a.deleteLimit.toNat []).map fun batch =>
          (batch, failureOf (result batch)), course.ending), w') ∧
      done.Perm (course.batches a.deleteLimit.toNat []) ∧ Inv none done w' := by
  obtain ⟨spare, bound⟩ := Nat.exists_eq_add_of_le' (settled.bounded none course [] w inv)
  obtain ⟨d, w₁, listed, holds, told⟩ := deletePages_settled settled pace course spare 1
    (batched_nil _) (fun _ => id) ⟨(fun _ none => nomatch none), inv⟩
  obtain ⟨queue, w', _, ran, advanced, finished⟩ :=
    Queue.finish_spec (total_deleteBatch (a := a)) turns d.batches w₁
  have on := advanced.told total_deleteBatch (settles_deleteBatch settled none) holds
    (fun _ => id) told
  obtain ⟨same, perm⟩ := on.of_finished (advanced.holds holds) finished
  rw [← bound] at listed
  exact ⟨_, w', same ▸ runFrom_attempts listed ran, perm, on.inv⟩

end BlobStorage.Directory
