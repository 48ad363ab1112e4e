import BlobStorage.Directory.Transfer
import BlobStorage.Proofs.Directory.Batcher
import BlobStorage.Proofs.Queue
import BlobStorage.Proofs.Store

/-!
What transfers of whole directories do to the state: no more than their units do, one after the other
in whatever order.
-/
namespace BlobStorage.Directory
variable {ρ : Type} {a : Adapter ρ}

section Deletion
variable {kind : Target → Prop}

def Deletion.Of (kind : Target → Prop) (d : Deletion) : Prop :=
  (∀ t ∈ d.pending, kind t) ∧ ∀ unit ∈ d.batches.waiting, ∀ t ∈ unit.1, kind t

theorem Deletion.Of.submit {d : Deletion} (h : d.Of kind) {batches : List (List Target)}
    (all : ∀ batch ∈ batches, ∀ t ∈ batch, kind t) :
    ∀ unit ∈ (d.batches.submit batches).waiting, ∀ t ∈ unit.1, kind t := by
  intro unit hu
  cases List.mem_append.mp hu with
  | inl old => exact h.2 unit old
  | inr new => exact all unit.1 (List.fst_mem_of_mem_zipIdx new)

theorem Deletion.Of.add {d : Deletion} (h : d.Of kind) (limit : Nat) {listed : List Target}
    (all : ∀ t ∈ listed, kind t) : (d.add limit listed).Of kind := by
  have whole := flatten_cutFull limit (d.pending ++ listed)
  have each (t : Target) (ht : t ∈ d.pending ++ listed) : kind t :=
    (List.mem_append.mp ht).elim (h.1 t) (all t)
  rw [← whole] at each
  refine ⟨fun t ht => each t (List.mem_append_right _ ht), h.submit fun batch hb t ht => ?_⟩
  exact each t (List.mem_append_left _ (List.mem_flatten_of_mem hb ht))

theorem Deletion.Of.close {d : Deletion} (h : d.Of kind) : d.close.Of kind := by
  refine ⟨(fun t none => nomatch none), h.submit fun batch hb t ht => ?_⟩
  unfold lastBatch at hb
  split at hb
  · cases hb
  · rw [List.mem_singleton.mp hb] at ht
    exact h.1 t ht

end Deletion

/-- The targets are submitted in full batches as they come in, and the rest of them waits. -/
structure Batched (limit : Nat) (all : List Target) (d : Deletion) : Prop where
  pending : d.pending = (cutFull limit all).2
  batches : d.batches.Holds (cutFull limit all).1

section Batched
variable {limit : Nat} {all : List Target} {d : Deletion}

theorem batched_nil (limit : Nat) : Batched limit [] {} := by
  have nothing : cutFull limit ([] : List Target) = ([], []) := by
    rw [cutFull]
    split
    · rfl
    · rename_i long
      exact absurd (by simp only [List.length_nil]; omega) long
  refine ⟨(congrArg Prod.snd nothing).symm, ?_⟩
  rw [nothing]
  exact Queue.holds_nil

theorem Batched.add (h : Batched limit all d) (more : List Target) :
    Batched limit (all ++ more) (d.add limit more) := by
  have cut := cutFull_append limit all more
  unfold Deletion.add
  rw [h.pending]
  refine ⟨(congrArg Prod.snd cut).symm, ?_⟩
  rw [congrArg Prod.fst cut]
  exact h.batches.submit _

theorem Batched.close (h : Batched limit all d) : d.close.batches.Holds (allBatches limit all) := by
  unfold Deletion.close allBatches
  rw [h.pending]
  exact h.batches.submit _

end Batched

section Keeps
variable {R : World ρ → World ρ → Prop} [Std.Refl R] [IsTrans (World ρ) R]

theorem keeps_categorizeWith {classify : Failure → Op ρ ErrorKind} {f : Failure}
    (h : (classify f).Keeps R) (key : Option String) (chained : Bool) :
    (categorizeWith classify f key chained).Keeps R := by
  refine Action.Keeps.bind h.outcome fun r => ?_
  cases r <;> exact Action.Keeps.pure _

theorem keeps_deleteBatch {batch : List Target} (h : (Store.deleteMany a batch).Keeps R) :
    (deleteBatch a batch).Keeps R := by
  refine Action.Keeps.bind h.outcome fun r => ?_
  cases r <;> exact Action.Keeps.pure _

section Pages
variable {kind : Target → Prop} {request : ListRequest}
  (list : ∀ token, (Listing.fetch a request token).Gives R fun answer =>
    ∀ page, answer = .ok page → ∀ t ∈ targets page, kind t)
  (delete : ∀ batch, (∀ t ∈ batch, kind t) → (Store.deleteMany a batch).Keeps R)
include list delete

/-- Where every page lists targets of a kind, only such targets are deleted. -/
theorem gives_deletePages (pace : Pace) (bound number : Nat) (token : Option PageToken)
    {d : Deletion} (h : d.Of kind) :
    (deletePages a request pace bound number token d).Gives R fun result => result.1.Of kind := by
  induction bound generalizing number token d with
  | zero => exact Action.Gives.pure h
  | succ bound ih =>
      refine (list token).bind fun answer shown => ?_
      cases answer with
      | error f => exact Action.Gives.pure h
      | ok page =>
          have grown := h.add a.deleteLimit.toNat (shown page rfl)
          dsimp only
          split
          · exact Action.Gives.pure grown.close
          · refine Action.Gives.bind (Queue.gives_advance
              (fun batch all => keeps_deleteBatch (delete batch all)) _ grown.2) fun batches left => ?_
            exact ih _ _ ⟨grown.1, left⟩

end Pages

end Keeps

section Account

def failureOf (r : Except Failure Unit) : Option Failure :=
  match r with
  | .ok _ => none
  | .error f => some f

/-- A batch is always tried, and what became of it is told. -/
theorem runFrom_deleteBatch {batch : List Target} {w w' : World ρ} {result : Except Failure Unit}
    (ran : (Store.deleteMany a batch).runFrom w = (result, w')) :
    (deleteBatch a batch).runFrom w = (.ok (batch, failureOf result), w') := by
  unfold deleteBatch
  rw [Action.runFrom_bind, Action.runFrom_outcome, ran]
  cases result <;> rfl

theorem total_deleteBatch (batch : List Target) (w : World ρ) :
    ∃ outcome w', (deleteBatch a batch).runFrom w = (.ok (batch, outcome), w') :=
  ⟨_, _, runFrom_deleteBatch rfl⟩

theorem unit_of_deleteBatch {batch : List Target} {w w' : World ρ} {outcome : BatchOutcome}
    (ran : (deleteBatch a batch).runFrom w = (.ok outcome, w')) : outcome.1 = batch := by
  obtain ⟨_, _, told⟩ := total_deleteBatch (a := a) batch w
  cases ran.symm.trans told
  rfl

def failing (outcomes : List BatchOutcome) : List (List Target × Failure) :=
  outcomes.filterMap fun (batch, failure) => failure.map (batch, ·)

theorem failing_eq_nil_iff (outcomes : List BatchOutcome) :
    failing outcomes = [] ↔ ∀ r ∈ outcomes, r.2 = none := by
  simp [failing, List.filterMap_eq_nil_iff]

/-- Failures are put into categories as they are heard in a style, and recorded with their units. -/
def recording {α β : Type} (a : Adapter ρ) (style : CallStyle) (record : α → Failure → β)
    (key : α → Option String) (bad : List (α × Failure)) : Op ρ (List β) :=
  bad.mapM fun (unit, f) => do
    return record unit (← categorizeWith a.classify (style.hand f) (key unit) false)

theorem keeps_recording {α β : Type} {R : World ρ → World ρ → Prop} [Std.Refl R]
    [IsTrans (World ρ) R] (classify : ∀ f, (a.classify f).Keeps R) (style : CallStyle)
    (record : α → Failure → β) (key : α → Option String) (bad : List (α × Failure)) :
    (recording a style record key bad).Keeps R :=
  Action.Keeps.mapM fun (_, _) _ =>
    Action.Keeps.bind (keeps_categorizeWith (classify _) _ _) fun _ => Action.Keeps.pure _

/-- Every failed unit is recorded once, in order, with its failure put into a category. -/
theorem total_recorded {α β : Type} (style : CallStyle) (record : α → Failure → β)
    (key : α → Option String) (bad : List (α × Failure)) (w : World ρ) :
    ∃ failed w', (recording a style record key bad).runFrom w = (.ok failed, w') ∧
      List.Forall₂ (fun (entry : α × Failure) r => ∃ category,
        r = record entry.1 ((style.hand entry.2).categorize category (key entry.1) false))
        bad failed := by
  unfold recording
  induction bad generalizing w with
  | nil => exact ⟨[], w, rfl, .nil⟩
  | cons first rest ih =>
      obtain ⟨category, w₁, categorized⟩ : ∃ category w₁,
          (categorizeWith a.classify (style.hand first.2) (key first.1) false).runFrom w =
            (.ok ((style.hand first.2).categorize category (key first.1) false), w₁) :=
        ⟨_, _, runFrom_categorizeWith ..⟩
      obtain ⟨failed, w₂, later, same⟩ := ih w₁
      refine ⟨_ :: failed, w₂, ?_, .cons ⟨category, rfl⟩ same⟩
      have one : (categorizeWith a.classify (style.hand first.2) (key first.1) false >>= fun f =>
          return record first.1 f : Op ρ β).runFrom w = (.ok (record first.1 _), w₁) :=
        Action.runFrom_bind_ok categorized _
      rw [List.mapM_cons]
      exact (Action.runFrom_bind_ok one _).trans (Action.runFrom_bind_ok later _)

theorem total_categorized {α β γ : Type} (style : CallStyle) (record : α → Failure → β)
    (place : β → γ) (spot : α → γ) (placed : ∀ unit f, place (record unit f) = spot unit)
    (key : α → Option String) (bad : List (α × Failure)) (w : World ρ) :
    ∃ failed w', (recording a style record key bad).runFrom w = (.ok failed, w') ∧
      failed.map place = bad.map (spot ·.1) := by
  obtain ⟨failed, w', ran, recorded⟩ := total_recorded (a := a) style record key bad w
  refine ⟨failed, w', ran, ?_⟩
  clear ran
  induction recorded with
  | nil => rfl
  | cons one _ ih =>
      obtain ⟨category, rfl⟩ := one
      rw [List.map_cons, List.map_cons, placed, ih]

def deletedIn (outcomes : List BatchOutcome) : Nat :=
  outcomes.foldl (fun n (batch, failure) =>
    if failure.isNone then n + batch.length else n) 0

theorem deletedIn_cons_ok (batch : List Target) (rest : List BatchOutcome) :
    deletedIn ((batch, none) :: rest) = batch.length + deletedIn rest := by
  have shifted (n : Nat) : rest.foldl (fun n (batch, failure) =>
      if failure.isNone then n + batch.length else n) n = n + deletedIn rest := by
    unfold deletedIn
    induction rest generalizing n with
    | nil => rfl
    | cons first rest ih =>
        obtain ⟨other, failure⟩ := first
        cases failure with
        | none =>
            have own := ih (n + other.length)
            have zero := ih (0 + other.length)
            simp only [List.foldl_cons, Option.isNone_none, if_true] at own zero ⊢
            omega
        | some f => exact ih n
  simpa [deletedIn] using shifted batch.length

theorem deletedIn_add_failing (outcomes : List BatchOutcome) :
    deletedIn outcomes + ((failing outcomes).flatMap (·.1)).length =
      (outcomes.map (·.1)).flatten.length := by
  induction outcomes with
  | nil => rfl
  | cons first rest ih =>
      obtain ⟨batch, failure⟩ := first
      rw [List.map_cons, List.flatten_cons, List.length_append, ← ih]
      cases failure with
      | none =>
          have same : failing ((batch, none) :: rest) = failing rest := rfl
          rw [deletedIn_cons_ok, same, Nat.add_assoc]
      | some f =>
          have same : deletedIn ((batch, some f) :: rest) = deletedIn rest := rfl
          have more : failing ((batch, some f) :: rest) = (batch, f) :: failing rest := rfl
          rw [same, more, List.flatMap_cons, List.length_append, Nat.add_left_comm]

end Account

section Trials
variable {α β γ : Type} {run : α → Op ρ Unit} {units : List α}

/-- Every run keeps what is said of the state. -/
def Stays (P : World ρ → Prop) (w w' : World ρ) : Prop := P w → P w'

instance (P : World ρ → Prop) : Std.Refl (Stays P) := ⟨fun _ => id⟩

instance (P : World ρ → Prop) : IsTrans (World ρ) (Stays P) := ⟨fun _ _ _ h k => k ∘ h⟩

/-- Carrying out a unit, which succeeds in any case and tells how it went. -/
def trial (run : α → Op ρ Unit) (unit : α) : Op ρ (α × Except Failure Unit) := do
  return (unit, ← (run unit).outcome)

theorem runFrom_trial (run : α → Op ρ Unit) (unit : α) (w : World ρ) :
    (trial run unit).runFrom w =
      (.ok (unit, ((run unit).runFrom w).1), ((run unit).runFrom w).2) :=
  Action.runFrom_bind_ok (Action.runFrom_outcome _ w) _

variable {Inv : List α → World ρ → Prop} {Fine : α → Prop}

/-- What one unit does: it is carried out after others in some order. -/
def Step (run : α → Op ρ Unit) (units : List α) (Inv : List α → World ρ → Prop)
    (Fine : α → Prop) : Prop :=
  ∀ done unit w, unit ∈ units → unit ∉ done → Inv done w →
    (((run unit).runFrom w).1 = .ok () ↔ Fine unit) ∧ Inv (unit :: done) ((run unit).runFrom w).2

theorem carried_trials (step : Step run units Inv Fine) {results : List (α × Except Failure Unit)}
    {w w' : World ρ} (h : Queue.Carried (trial run) w results w') {done : List α}
    (apart : (results.map (·.1) ++ done).Nodup) (sub : ∀ r ∈ results, r.1 ∈ units)
    (inv : Inv done w) :
    Inv ((results.map (·.1)).reverse ++ done) w' ∧ ∀ r ∈ results, r.2 = .ok () ↔ Fine r.1 := by
  induction h generalizing done with
  | nil => exact ⟨inv, fun _ none => nomatch none⟩
  | @step w w₁ w' unit result results ran _ ih =>
      rw [runFrom_trial] at ran
      cases ran
      simp only [List.map_cons, List.cons_append, List.nodup_cons, List.mem_append, not_or] at apart
      obtain ⟨here, later⟩ := List.forall_mem_cons.mp sub
      obtain ⟨went, kept⟩ := step done unit w here apart.1.2 inv
      -- The unit that was carried out moves from those to come to those that are done.
      have moved : (results.map (·.1) ++ unit :: done).Nodup := by
        rw [List.perm_middle.nodup_iff, List.nodup_cons, List.mem_append, not_or]
        exact apart
      obtain ⟨all, told⟩ := ih moved later kept
      refine ⟨by simpa using all, ?_⟩
      intro r hr
      cases List.mem_cons.mp hr with
      | inl same => exact same ▸ went
      | inr rest => exact told r rest

/-- The units that failed, in order. -/
def failures (results : List (α × Except Failure Unit)) : List (α × Failure) :=
  results.filterMap fun
    | (_, .ok _) => none
    | (unit, .error f) => some (unit, f)

theorem map_failures [DecidablePred Fine] {results : List (α × Except Failure Unit)}
    {spot : α → γ} (went : ∀ r ∈ results, r.2 = .ok () ↔ Fine r.1) :
    (failures results).map (spot ·.1) = ((results.map (·.1)).filter (¬ Fine ·)).map spot := by
  induction results with
  | nil => rfl
  | cons first rest ih =>
      obtain ⟨unit, result⟩ := first
      obtain ⟨here, later⟩ := List.forall_mem_cons.mp went
      have rest_same := ih later
      cases result with
      | ok _ =>
          have fine : Fine unit := here.mp rfl
          simpa [failures, fine] using rest_same
      | error f =>
          have bad : ¬ Fine unit := fun fine => nomatch here.mpr fine
          simpa [failures, bad] using rest_same

/-- Every unit has its turn, and its result stands beside it. -/
def trials (turns : Turns) (units : List α) (run : α → Op ρ Unit) :
    Op ρ (List (α × Except Failure Unit)) := do
  let queue : Queue α (α × Except Failure Unit) := {}
  return (← (queue.submit units).finish (trial run) turns).results

theorem keeps_trials {R : World ρ → World ρ → Prop} [Std.Refl R] [IsTrans (World ρ) R]
    (h : ∀ unit, (run unit).Keeps R) (turns : Turns) (units : List α) :
    (trials turns units run).Keeps R := by
  have each (unit : α) (_ : True) : (trial run unit).Keeps R :=
    Action.Keeps.bind (h unit).outcome fun _ => Action.Keeps.pure _
  exact Action.Keeps.bind (Queue.keeps_finish each turns fun _ _ => trivial) fun _ =>
    Action.Keeps.pure _

/-- All units are carried out, in one order or another, and told in their own order. -/
theorem trials_carried (run : α → Op ρ Unit) (units : List α) (turns : Turns) (w : World ρ) :
    ∃ results told w₁, Queue.Carried (trial run) w results w₁ ∧ told.Perm results ∧
      told.map (·.1) = units ∧ (trials turns units run).runFrom w = (.ok told, w₁) := by
  have total (unit : α) (s : World ρ) :
      ∃ x t, (trial run unit).runFrom s = (.ok (unit, x), t) :=
    ⟨_, _, runFrom_trial run unit s⟩
  obtain ⟨queue, w₁, results, ran, advanced, finished⟩ := Queue.finish_spec total turns
    (({} : Queue α (α × Except Failure Unit)).submit units) w
  have holds := advanced.holds (Queue.holds_nil.submit units)
  rw [List.nil_append] at holds
  obtain ⟨told, perm⟩ := Queue.results_of_finished holds finished
  have nothing : (({} : Queue α (α × Except Failure Unit)).submit units).done.map (·.1) = [] := rfl
  rw [advanced.done, nothing, List.append_nil] at perm
  exact ⟨results, queue.results, w₁, advanced.carried, perm.trans (List.reverse_perm results), told,
    Action.runFrom_bind_ok ran _⟩

theorem tryAll_eq (turns : Turns) (units : List α) (run : α → Op ρ Unit) (key : α → Option String)
    (record : α → Failure → β) :
    tryAll a turns units run key record = (do
      let told ← trials turns units run
      recording a .blocking record key (failures told)) := by
  unfold tryAll trials
  rw [bind_assoc]
  exact bind_congr fun queue => rfl

/-- Units that each do the same whatever was done before succeed and fail as they are meant to, and
those that fail are recorded in the order of the units. -/
theorem trials_spec [DecidablePred Fine] (style : CallStyle) (record : α → Failure → β)
    (place : β → γ) (spot : α → γ) (placed : ∀ unit f, place (record unit f) = spot unit)
    (key : α → Option String) (distinct : units.Nodup) (step : Step run units Inv Fine)
    (classify : ∀ f done, (a.classify f).Keeps (Stays (Inv done))) {w : World ρ} (start : Inv [] w)
    (turns : Turns) :
    ∃ failed done w', (trials turns units run >>= fun told =>
        recording a style record key (failures told)).runFrom w = (.ok failed, w') ∧
      done.Perm units ∧ Inv done w' ∧ failed.map place = (units.filter (¬ Fine ·)).map spot := by
  obtain ⟨results, told, w₁, carried, perm, own, ran⟩ := trials_carried run units turns w
  have done : (results.map (·.1)).Perm units := own ▸ (perm.map (·.1)).symm
  obtain ⟨inv, went⟩ := carried_trials step carried
    (by simpa using done.nodup_iff.mpr distinct)
    (fun r hr => done.mem_iff.mp (List.mem_map_of_mem hr)) start
  rw [List.append_nil] at inv
  obtain ⟨failed, w', categorized, same⟩ :=
    total_categorized (a := a) style record place spot placed key (failures told) w₁
  refine ⟨failed, _, w', (Action.runFrom_bind_ok ran _).trans categorized,
    (List.reverse_perm _).trans done, ?_, ?_⟩
  · -- Categorizing the failures afterwards changes nothing that the units have left.
    have moved := keeps_recording (fun f => classify f (results.map (·.1)).reverse) style record key
      (failures told) w₁
    rw [categorized] at moved
    exact moved inv
  · rw [same, map_failures fun r hr => went r (perm.mem_iff.mp hr), own]

end Trials

section Items
variable {item : DownloadItem} {w : World ρ} {t : FileTree}

theorem runFrom_downloadItem_failed {e : Ambient}
    (made : w.files.makeDirectories item.target.parent = (.error e, t)) :
    (downloadItem a item).runFrom w = (.error (.ambient e), { w with files := t }) := by
  unfold downloadItem
  refine (Action.runFrom_bind_ok (Action.runFrom_get w) _).trans ?_
  rw [made]
  refine (Action.runFrom_bind_ok (Action.runFrom_modify _ _) _).trans ?_
  exact Action.runFrom_ambient_bind_error rfl _ _

theorem runFrom_downloadItem_made
    (made : w.files.makeDirectories item.target.parent = (.ok (), t)) {w' : World ρ}
    {delivered : Except Failure Delivery}
    (ran : (Store.download a { key := item.key } (.file item.target)).runFrom
      { w with files := t } = (delivered, w')) :
    (downloadItem a item).runFrom w = (delivered.map fun _ => (), w') := by
  unfold downloadItem
  refine (Action.runFrom_bind_ok (Action.runFrom_get w) _).trans ?_
  rw [made]
  refine (Action.runFrom_bind_ok (Action.runFrom_modify _ _) _).trans ?_
  refine (Action.runFrom_ambient_bind_ok rfl _ _).trans ?_
  rw [bind_pure_comp, Action.runFrom_map, ran]

end Items

section Pages
variable {request : ListRequest} {pace : Pace} {bound number : Nat} {token : Option PageToken}
  {d : Deletion} {w w₁ : World ρ}

theorem runFrom_deletePages_failed {f : Failure}
    (ran : (Listing.fetch a request token).runFrom w = (.ok (.error f), w₁)) :
    (deletePages a request pace (bound + 1) number token d).runFrom w = (.ok (d, .failed f), w₁) :=
  Action.runFrom_bind_ok ran _

variable {p : Page} (ran : (Listing.fetch a request token).runFrom w = (.ok (.ok p), w₁))
include ran

theorem runFrom_deletePages_last (ends : p.follow? = none) :
    (deletePages a request pace (bound + 1) number token d).runFrom w =
      (.ok ((d.add a.deleteLimit.toNat (targets p)).close, .complete), w₁) := by
  refine (Action.runFrom_bind_ok ran _).trans ?_
  dsimp only
  rw [ends]
  rfl

theorem runFrom_deletePages_next {next : PageToken} (follows : p.follow? = some next)
    {batches : Queue (List Target) BatchOutcome} {w₂ : World ρ}
    (advanced : ((d.add a.deleteLimit.toNat (targets p)).batches.advance (deleteBatch a)
      (pace number (d.add a.deleteLimit.toNat (targets p)).batches.waiting.length)).runFrom w₁ =
        (.ok batches, w₂)) :
    (deletePages a request pace (bound + 1) number token d).runFrom w =
      (deletePages a request pace bound (number + 1) next
        { d.add a.deleteLimit.toNat (targets p) with batches }).runFrom w₂ := by
  refine (Action.runFrom_bind_ok ran _).trans ?_
  dsimp only
  rw [follows]
  exact Action.runFrom_bind_ok advanced _

/-- All blobs of the last page are pulled. -/
theorem runFrom_pull_last (ends : p.follow? = none) :
    (Listing.pull a request (bound + 1) token none).runFrom w = (.ok ⟨p.blobs, .complete⟩, w₁) := by
  refine (Action.runFrom_bind_ok ran _).trans ?_
  dsimp only
  rw [ends, if_neg (Nat.lt_irrefl _)]
  rfl

theorem runFrom_pull_next {next : PageToken} (follows : p.follow? = some next) {r : Run BlobInfo}
    {w₂ : World ρ} (later : (Listing.pull a request bound next none).runFrom w₁ = (.ok r, w₂)) :
    (Listing.pull a request (bound + 1) token none).runFrom w =
      (.ok ⟨p.blobs ++ r.delivered, r.ending⟩, w₂) := by
  refine (Action.runFrom_bind_ok ran _).trans ?_
  dsimp only
  rw [follows]
  exact Action.runFrom_bind_ok later _

end Pages

theorem keeps_pull {R : World ρ → World ρ → Prop} [Std.Refl R] [IsTrans (World ρ) R]
    (h : ∀ r, (a.listPage r).Keeps R) (request : ListRequest) (bound : Nat) (token : Option PageToken)
    (wanted : Option Nat) : (Listing.pull a request bound token wanted).Keeps R := by
  induction bound generalizing token wanted with
  | zero =>
      cases wanted with
      | none => exact Action.Keeps.pure _
      | some n => cases n <;> exact Action.Keeps.pure _
  | succ bound ih =>
      have fetch : (Listing.fetch a request token).Keeps R :=
        Action.Keeps.bind (Store.keeps_listPage h _).outcome fun _ => Action.Keeps.pure _
      have next (wanted : Option Nat) (go : wanted ≠ some 0) :
          (Listing.pull a request (bound + 1) token wanted).Keeps R := by
        rw [Listing.pull]
        · refine Action.Keeps.bind fetch fun answer => ?_
          cases answer with
          | error f => exact Action.Keeps.pure _
          | ok page =>
              dsimp only
              split
              · exact Action.Keeps.pure _
              · exact Action.Keeps.bind (ih _ _) fun _ => Action.Keeps.pure _
        · exact go
      cases wanted with
      | none => exact next none (by simp)
      | some n =>
          cases n with
          | zero => exact Action.Keeps.pure _
          | succ n => exact next _ (by simp)

theorem total_fetch (a : Adapter ρ) (request : ListRequest)
    (token : Option PageToken) (w : World ρ) :
    ∃ answer w', (Listing.fetch a request token).runFrom w = (.ok answer, w') :=
  ⟨_, _, Action.runFrom_bind_ok (Action.runFrom_outcome _ w) _⟩

/-- A run of blobs always comes to an end, if only because a page cannot be had. -/
theorem total_pull (request : ListRequest) (bound : Nat) (token : Option PageToken)
    (wanted : Option Nat) (w : World ρ) :
    ∃ listed w', (Listing.pull a request bound token wanted).runFrom w = (.ok listed, w') := by
  induction bound generalizing token wanted w with
  | zero =>
      cases wanted with
      | none => exact ⟨_, _, rfl⟩
      | some n => cases n <;> exact ⟨_, _, rfl⟩
  | succ bound ih =>
      have next (wanted : Option Nat) (go : wanted ≠ some 0) : ∃ listed w',
          (Listing.pull a request (bound + 1) token wanted).runFrom w = (.ok listed, w') := by
        rw [Listing.pull]
        · obtain ⟨answer, w₁, fetched⟩ := total_fetch a request token w
          rw [Action.runFrom_bind_ok fetched]
          cases answer with
          | error f => exact ⟨_, _, rfl⟩
          | ok page =>
              dsimp only
              split
              · exact ⟨_, _, rfl⟩
              · obtain ⟨listed, w', later⟩ := ih _ _ _
                exact ⟨_, _, Action.runFrom_bind_ok later _⟩
        · exact go
      cases wanted with
      | none => exact next none (by simp)
      | some n =>
          cases n with
          | zero => exact ⟨_, _, rfl⟩
          | succ n => exact next _ (by simp)

section Reads
variable (reads : Store.ReadsQuietly a)
include reads

theorem quiet_downloadItem (item : DownloadItem) : Quiet (downloadItem a item) := by
  unfold downloadItem
  refine Action.Keeps.bind Action.Keeps.get fun w => ?_
  refine Action.Keeps.bind (Action.Keeps.modify fun _ => rfl) fun _ =>
    Action.Keeps.bind (Store.quiet_ambient _) fun _ => ?_
  exact Action.Keeps.bind (Store.quiet_download reads _ _) fun _ => Action.Keeps.pure _

end Reads
end BlobStorage.Directory
