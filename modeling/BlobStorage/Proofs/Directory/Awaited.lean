import BlobStorage.Directory.Awaited
import BlobStorage.Proofs.Client

/-!
Transfers of directories are the same in both styles, but for how failures are handed over: the same
turns make the same units do the same, one after the other, and what became of them is told in the same
order. So each transfer is described once for both styles.
-/
namespace BlobStorage.Directory
variable {ρ α β : Type} {a : Adapter ρ}

section Tasks

def taskOf (result : α × Except Failure Unit) : Awaited.TaskResult :=
  result.2.mapError Failure.handed

theorem outcome_awaited (run : α → Op ρ Unit) :
    (fun unit => (run unit).awaited.outcome) = fun unit => taskOf <$> trial run unit := by
  refine funext fun unit => Action.ext fun w => ?_
  rw [Action.runFrom_map, runFrom_trial]
  rfl

/-- Awaiting all tasks is trying all units, and telling of them without the units. -/
theorem gather_awaited (turns : Turns) (units : List α) (run : α → Op ρ Unit) :
    Awaited.gather turns units (fun unit => (run unit).awaited) =
      List.map taskOf <$> trials turns units run := by
  have mapped : (({} : Queue α Awaited.TaskResult).submit units).finish
      (fun unit => taskOf <$> trial run unit) turns =
        Queue.map taskOf <$> (({} : Queue α (α × Except Failure Unit)).submit units).finish
          (trial run) turns :=
    Action.ext (Queue.runFrom_finish_map (trial run) taskOf turns
      (({} : Queue α (α × Except Failure Unit)).submit units))
  unfold Awaited.gather trials
  simp only [bind_pure_comp, outcome_awaited, mapped, Functor.map_map, Queue.results_map]

theorem collect_eq (key : α → Option String) (record : α → Failure → β)
    (told : List (α × Except Failure Unit)) :
    Awaited.collect a key record (told.map fun result => (result.1, taskOf result)) =
      recording a .awaited record key (failures told) := by
  induction told with
  | nil => rfl
  | cons first rest ih =>
      obtain ⟨unit, result⟩ := first
      cases result with
      | ok _ => exact ih
      | error f =>
          change (do
            let f ← categorizeWith a.classify f.handed (key unit) false
            return record unit f :: (← Awaited.collect a key record
              (rest.map fun result => (result.1, taskOf result))) : Op ρ (List β)) = _
          rw [ih]
          have next : failures ((unit, .error f) :: rest) = (unit, f) :: failures rest := rfl
          rw [next]
          unfold recording
          rw [List.mapM_cons, bind_assoc]
          refine bind_congr fun f => ?_
          rw [pure_bind]

theorem collect_gathered (turns : Turns) (units : List α) (run : α → Op ρ Unit)
    (key : α → Option String) (record : α → Failure → β) :
    (do
      let results ← Awaited.gather turns units fun unit => (run unit).awaited
      Awaited.collect a key record (units.zip results)) = (do
      let told ← trials turns units run
      recording a .awaited record key (failures told)) := by
  refine Action.ext fun w => ?_
  obtain ⟨_, told, w₁, _, _, own, ran⟩ := trials_carried run units turns w
  have gathered : (Awaited.gather turns units fun unit => (run unit).awaited).runFrom w =
      (.ok (told.map taskOf), w₁) := by
    rw [gather_awaited, Action.runFrom_map, ran]
    rfl
  have beside : units.zip (told.map taskOf) = told.map fun result => (result.1, taskOf result) := by
    rw [← own, List.zip_map']
  rw [Action.runFrom_bind_ok gathered, Action.runFrom_bind_ok ran, beside, collect_eq]

end Tasks

theorem awaited_bind (x : Op ρ α) (f : α → Op ρ β) :
    (x >>= f).awaited = x.awaited >>= fun y => (f y).awaited :=
  CallStyle.reach_bind .awaited x f

section Uploads
variable (style : CallStyle) (request : DirectoryUpload) (turns : Turns)

def planning (request : DirectoryUpload) : Op ρ (List UploadItem) := do
  Action.ofExcept (planUpload (← get).files request)

theorem awaited_uploadItem (tags : Attributes) :
    Awaited.uploadItem a tags = fun item => (uploadItem a tags item).awaited := by
  funext item
  unfold uploadItem Awaited.uploadItem
  simp only [awaited_bind, bind_assoc]
  rfl

variable (a) in
theorem uploadIn_eq : uploadIn style a request turns = (do
    let plan ← style.reach (planning request)
    let told ← trials turns plan (uploadItem a request.tags)
    recording a style (fun i f => FailedUpload.mk i.path f) (fun i => some i.key)
      (failures told)) := by
  cases style with
  | blocking =>
      change upload a request turns = (planning request >>= _)
      unfold upload planning
      rw [bind_assoc]
      refine bind_congr fun w => bind_congr fun plan => ?_
      exact tryAll_eq ..
  | awaited =>
      change Awaited.upload a request turns = (Action.awaited (planning request) >>= _)
      unfold Awaited.upload
      refine bind_congr fun plan => ?_
      rw [awaited_uploadItem]
      exact collect_gathered ..

theorem keeps_uploadIn {R : World ρ → World ρ → Prop} [Std.Refl R] [IsTrans (World ρ) R]
    (classify : ∀ f, (a.classify f).Keeps R)
    (h : ∀ request path, (Store.upload a request (.file path)).Keeps R) :
    (uploadIn style a request turns).Keeps R := by
  rw [uploadIn_eq]
  have planned : (planning request : Op ρ (List UploadItem)).Keeps R :=
    Action.Keeps.bind Action.Keeps.get fun w => Action.Keeps.ofExcept _
  refine Action.Keeps.bind (style.keeps_reach planned) fun plan =>
    Action.Keeps.bind (keeps_trials (fun item => ?_) turns plan) fun told =>
      keeps_recording classify style _ _ _
  refine Action.Keeps.bind Action.Keeps.get fun w => Action.Keeps.bind (Action.Keeps.ofAmbient _)
    fun found => ?_
  exact Action.Keeps.bind (h _ _) fun _ => Action.Keeps.pure _

end Uploads

section Downloads
variable (style : CallStyle) (request : DirectoryDownload) (turns : Turns)

theorem awaited_downloadItem :
    Awaited.downloadItem a = fun item => (downloadItem a item).awaited := by
  funext item
  unfold downloadItem Awaited.downloadItem
  simp only [awaited_bind, bind_assoc]
  rfl

variable (a) in
theorem downloadIn_eq : downloadIn style a request turns = (do
    let listed ← Listing.blobs a { stem := request.stem }
    match listed.ending with
    | .failed f => throw (style.hand f)
    | _ => do
        let (plan, refused) ← style.reach (Action.ofAmbient <|
          planDownload request (listed.delivered.map (·.key)))
        let told ← trials turns plan (downloadItem a)
        let failed ← recording a style (fun i f => FailedDownload.mk i.target f)
          (fun i => some i.key) (failures told)
        return refused ++ failed) := by
  cases style with
  | blocking =>
      change download a request turns = _
      unfold download
      refine bind_congr fun listed => ?_
      obtain ⟨delivered, ending⟩ := listed
      cases ending with
      | failed f => rfl
      | complete | cut =>
          refine bind_congr fun (plan, refused) => ?_
          dsimp only
          rw [tryAll_eq, bind_assoc]
  | awaited =>
      change Awaited.download a request turns = _
      unfold Awaited.download
      rw [Listing.blobs_listingIn, bind_map_left]
      refine bind_congr fun listed => ?_
      obtain ⟨delivered, ending⟩ := listed
      cases ending with
      | failed f => rfl
      | complete | cut =>
          refine bind_congr fun (plan, refused) => ?_
          dsimp only
          have gathered := congrArg (· >>= fun failed => pure (refused ++ failed))
            (collect_gathered (a := a) turns plan (downloadItem a) (fun i => some i.key)
              fun i f => FailedDownload.mk i.target f)
          simp only [bind_assoc] at gathered
          rw [awaited_downloadItem]
          exact gathered

theorem quiet_downloadIn (reads : Store.ReadsQuietly a) :
    Quiet (downloadIn style a request turns) := by
  rw [downloadIn_eq]
  refine Action.Keeps.bind (Action.Keeps.bind Action.Keeps.get fun w =>
    keeps_pull reads.listPage _ _ _ _) fun listed => ?_
  obtain ⟨delivered, ending⟩ := listed
  cases ending with
  | failed f => exact Action.Keeps.throw _
  | complete | cut =>
      refine Action.Keeps.bind (style.keeps_reach (Store.quiet_ambient _)) fun (plan, refused) => ?_
      refine Action.Keeps.bind (keeps_trials (quiet_downloadItem reads) turns plan) fun told => ?_
      exact Action.Keeps.bind (keeps_recording reads.classify style _ _ _) fun _ =>
        Action.Keeps.pure _

end Downloads

section Deletions
variable {limit : Nat}

def taskOfBatch : BatchOutcome → Awaited.TaskResult
  | (_, none) => .ok ()
  | (_, some f) => .error f.handed

/-- A deletion by tasks has the same batches, and as much has become of them. -/
structure InStep (q : Queue (List Target) BatchOutcome) (d : Awaited.Deleting) : Prop where
  tasks : d.tasks = q.map taskOfBatch
  holds : q.Holds d.batches

theorem InStep.submit {q : Queue (List Target) BatchOutcome} {d : Awaited.Deleting} (h : InStep q d)
    (batches : List (List Target)) (pending : List Target) :
    InStep (q.submit batches) ⟨pending, d.batches ++ batches, d.tasks.submit batches⟩ :=
  ⟨by rw [h.tasks]; rfl, h.holds.submit batches⟩

theorem flushFull_eq (limit : Nat) (d : Awaited.Deleting) :
    d.flushFull limit = ⟨(cutFull limit d.pending).2, d.batches ++ (cutFull limit d.pending).1,
      d.tasks.submit (cutFull limit d.pending).1⟩ := by
  induction d using Awaited.Deleting.flushFull.induct limit with
  | case1 d short =>
      rw [Awaited.Deleting.flushFull, cutFull, if_pos short, if_pos short]
      simp [Queue.submit]
  | case2 d full ih =>
      have cut : cutFull limit d.pending = (d.pending.take limit ::
          (cutFull limit (d.pending.drop limit)).1, (cutFull limit (d.pending.drop limit)).2) := by
        rw [cutFull, if_neg full]
      rw [Awaited.Deleting.flushFull, if_neg full, ih, cut]
      simp [Awaited.Deleting.flush, Queue.submit, List.zipIdx_cons, Nat.add_comm, Nat.add_assoc]

theorem inStep_add {d : Deletion} {d' : Awaited.Deleting} (h : InStep d.batches d')
    (pending : d'.pending = d.pending) (limit : Nat) (listed : List Target) :
    InStep (d.add limit listed).batches (d'.add limit listed) ∧
      (d'.add limit listed).pending = (d.add limit listed).pending := by
  unfold Awaited.Deleting.add Deletion.add
  rw [flushFull_eq, pending]
  exact ⟨h.submit .., rfl⟩

theorem inStep_flushRest {d : Deletion} {d' : Awaited.Deleting} (h : InStep d.batches d')
    (pending : d'.pending = d.pending) : InStep d.close.batches d'.flushRest := by
  unfold Deletion.close Awaited.Deleting.flushRest lastBatch
  rw [pending]
  cases d.pending with
  | nil => simpa [Queue.submit] using h
  | cons t rest => exact h.submit [t :: rest] d'.pending

theorem outcome_deleteBatch :
    (fun batch => (Awaited.deleteBatch a batch).outcome) =
      fun batch => taskOfBatch <$> deleteBatch a batch := by
  refine funext fun batch => Action.ext fun w => ?_
  unfold Awaited.deleteBatch deleteBatch
  rw [Action.runFrom_map, Action.runFrom_bind, Action.runFrom_outcome, Action.runFrom_outcome]
  change (Except.ok (((Store.deleteMany a batch).runFrom w).1.mapError Failure.handed),
    ((Store.deleteMany a batch).runFrom w).2) = _
  rcases (Store.deleteMany a batch).runFrom w with ⟨e | _, w₁⟩ <;> rfl

/-- Whatever the turns, the tasks go on like the batches. -/
theorem InStep.advance {q : Queue (List Target) BatchOutcome} {d : Awaited.Deleting}
    (h : InStep q d) (turns : Turns) (w : World ρ) :
    ∃ q' w₁, (q.advance (deleteBatch a) turns).runFrom w = (.ok q', w₁) ∧
      (d.tasks.advance (fun batch => (Awaited.deleteBatch a batch).outcome) turns).runFrom w =
        (.ok (q'.map taskOfBatch), w₁) ∧
      InStep q' { d with tasks := q'.map taskOfBatch } := by
  obtain ⟨q', w₁, runs, ran, advanced, _⟩ :=
    Queue.advance_spec (total_deleteBatch (a := a)) turns q w
  refine ⟨q', w₁, ran, ?_, rfl, advanced.holds h.holds⟩
  rw [outcome_deleteBatch, h.tasks, Queue.runFrom_advance_map, Action.runFrom_map, ran]
  rfl

/-- Page for page both styles submit the same batches, and carry them out in the same turns. -/
theorem deletePages_inStep (request : ListRequest) (pace : Pace) (bound number : Nat)
    (token : Option PageToken) {d : Deletion} {d' : Awaited.Deleting} (h : InStep d.batches d')
    (pending : d'.pending = d.pending) (w : World ρ) :
    ∃ e ending w₁ e', (deletePages a request pace bound number token d).runFrom w =
        (.ok (e, ending), w₁) ∧
      (Awaited.deletePages a request pace bound number token d').runFrom w =
        (.ok (e', ending.hand .awaited), w₁) ∧ InStep e.batches e' := by
  induction bound generalizing number token d d' w with
  | zero => exact ⟨d, .cut, w, d', rfl, rfl, h⟩
  | succ bound ih =>
      obtain ⟨answer, w₁, fetched⟩ := total_fetch a request token w
      have awaited : (Listing.fetch (a.listingIn .awaited) request token).runFrom w =
          (.ok (answer.mapError Failure.handed), w₁) := by
        rw [Listing.fetch_listingIn, Action.runFrom_map, fetched]
        rfl
      rw [deletePages, Awaited.deletePages, Action.runFrom_bind_ok fetched,
        Action.runFrom_bind_ok awaited]
      cases answer with
      | error f => exact ⟨d, .failed f, w₁, d', rfl, rfl, h⟩
      | ok page =>
          obtain ⟨added, left⟩ := inStep_add h pending a.deleteLimit.toNat (targets page)
          dsimp only [Except.mapError]
          cases page.follow? with
          | none => exact ⟨_, .complete, w₁, _, rfl, rfl, inStep_flushRest added left⟩
          | some next =>
              have same : (d'.add a.deleteLimit.toNat (targets page)).tasks.waiting.length =
                  (d.add a.deleteLimit.toNat (targets page)).batches.waiting.length := by
                rw [added.tasks]
                rfl
              dsimp only
              rw [same]
              obtain ⟨q, w₂, ran, ran', on⟩ := added.advance (a := a) (pace number
                (d.add a.deleteLimit.toNat (targets page)).batches.waiting.length) w₁
              rw [Action.runFrom_bind_ok ran, Action.runFrom_bind_ok ran']
              have later : InStep { d.add a.deleteLimit.toNat (targets page) with
                batches := q }.batches _ := on
              exact ih (number + 1) next later left w₂

def accounting (a : Adapter ρ) (style : CallStyle) (outcomes : List BatchOutcome) :
    Op ρ DirectoryDeletion :=
  (fun failed => ⟨deletedIn outcomes, failed⟩) <$>
    recording a style FailedDelete.mk (fun _ => none) (failing outcomes)

theorem account_eq (outcomes : List BatchOutcome) :
    account a outcomes = accounting a .blocking outcomes := by
  unfold account accounting
  rw [map_eq_pure_bind]
  rfl

/-- The account names the failed batches in order, and counts the targets of all others. -/
theorem accounting_spec (style : CallStyle) (outcomes : List BatchOutcome) (w : World ρ) :
    ∃ d w', (accounting a style outcomes).runFrom w = (.ok d, w') ∧
      d.deleted = deletedIn outcomes ∧
      d.failed.map (·.targets) = (failing outcomes).map (·.1) := by
  obtain ⟨failed, w', categorized, same⟩ := total_categorized (a := a) style FailedDelete.mk
    (·.targets) id (fun _ _ => rfl) (fun _ => none) (failing outcomes) w
  refine ⟨⟨deletedIn outcomes, failed⟩, w', ?_, rfl, same⟩
  unfold accounting
  rw [Action.runFrom_map, categorized]
  rfl

theorem tally_eq (d : DirectoryDeletion) (outcomes : List BatchOutcome) :
    Awaited.tally a d (outcomes.map fun outcome => (outcome.1, taskOfBatch outcome)) =
      (fun r : DirectoryDeletion => ⟨d.deleted + r.deleted, d.failed ++ r.failed⟩) <$>
        accounting a .awaited outcomes := by
  unfold accounting
  induction outcomes generalizing d with
  | nil => simp [Awaited.tally, failing, recording, deletedIn]
  | cons first rest ih =>
      obtain ⟨batch, failure⟩ := first
      cases failure with
      | none =>
          have next : failing ((batch, none) :: rest) = failing rest := rfl
          have counted : deletedIn ((batch, none) :: rest) = batch.length + deletedIn rest :=
            deletedIn_cons_ok batch rest
          refine (ih _).trans ?_
          simp only [next, counted, Functor.map_map, Nat.add_assoc]
      | some f =>
          have next : failing ((batch, some f) :: rest) = (batch, f) :: failing rest := rfl
          have counted : deletedIn ((batch, some f) :: rest) = deletedIn rest := rfl
          change (categorizeWith a.classify f.handed none false >>= fun f => _) = _
          rw [next, counted]
          unfold recording
          rw [List.mapM_cons]
          simp only [map_bind, bind_assoc, pure_bind]
          refine bind_congr fun f => (ih _).trans ?_
          simp [recording]

def attempts (a : Adapter ρ) (stem : Option String) (pace : Pace) (turns : Turns) :
    Op ρ (List BatchOutcome × Ending) := do
  let (d, ending) ← deletePages a { stem } pace (a.pageBound (← get)) 1 none {}
  return ((← d.batches.finish (deleteBatch a) turns).results, ending)

theorem runFrom_attempts {stem : Option String} {pace : Pace} {turns : Turns} {d : Deletion}
    {ending : Ending} {batches : Queue (List Target) BatchOutcome} {w w₁ w₂ : World ρ}
    (listed : (deletePages a { stem } pace (a.pageBound w) 1 none {}).runFrom w = (.ok (d, ending), w₁))
    (ran : (d.batches.finish (deleteBatch a) turns).runFrom w₁ = (.ok batches, w₂)) :
    (attempts a stem pace turns).runFrom w = (.ok (batches.results, ending), w₂) :=
  (Action.runFrom_bind_ok (Action.runFrom_get w) _).trans
    ((Action.runFrom_bind_ok listed _).trans (Action.runFrom_bind_ok ran _))

variable (a) in
theorem deleteIn_eq (style : CallStyle) (stem : Option String) (pace : Pace) (turns : Turns) :
    deleteIn style a stem pace turns = (do
      let (outcomes, ending) ← attempts a stem pace turns
      match ending with
      | .failed f => throw (style.hand f)
      | _ => accounting a style outcomes) := by
  cases style with
  | blocking =>
      change delete a stem pace turns = _
      unfold delete attempts
      simp only [bind_assoc, pure_bind, account_eq]
      rfl
  | awaited =>
      change Awaited.delete a stem pace turns = _
      refine Action.ext fun w => ?_
      have start : InStep (Deletion.batches {}) {} := ⟨rfl, Queue.holds_nil⟩
      obtain ⟨d, ending, w₁, d', listed, listed', on⟩ := deletePages_inStep (a := a) { stem } pace
        (a.pageBound w) 1 none start rfl w
      obtain ⟨q, w₂, _, ran, advanced, finished⟩ :=
        Queue.finish_spec (total_deleteBatch (a := a)) turns d.batches w₁
      have ran' : (d'.tasks.finish (fun batch => (Awaited.deleteBatch a batch).outcome) turns).runFrom
          w₁ = (.ok (q.map taskOfBatch), w₂) := by
        rw [outcome_deleteBatch, on.tasks, Queue.runFrom_finish_map, Action.runFrom_map, ran]
        rfl
      have own := (Queue.results_of_finished (advanced.holds on.holds) finished).1
      have beside : d'.batches.zip (q.map taskOfBatch).results =
          q.results.map fun outcome => (outcome.1, taskOfBatch outcome) := by
        rw [← own, Queue.results_map, List.zip_map']
      rw [Action.runFrom_bind_ok (runFrom_attempts listed ran)]
      refine (Action.runFrom_bind_ok (Action.runFrom_get w) _).trans ?_
      refine (Action.runFrom_bind_ok listed' _).trans ((Action.runFrom_bind_ok ran' _).trans ?_)
      cases ending with
      | failed f => rfl
      | complete | cut =>
          dsimp only [Ending.hand]
          rw [beside, tally_eq]
          simp

theorem keeps_accounting {R : World ρ → World ρ → Prop} [Std.Refl R] [IsTrans (World ρ) R]
    (classify : ∀ f, (a.classify f).Keeps R) (style : CallStyle) (outcomes : List BatchOutcome) :
    (accounting a style outcomes).Keeps R :=
  (keeps_recording classify style _ _ _).map _

theorem keeps_deleteIn {R : World ρ → World ρ → Prop} [Std.Refl R] [IsTrans (World ρ) R]
    (classify : ∀ f, (a.classify f).Keeps R) {kind : Target → Prop} {stem : Option String}
    (list : ∀ token, (Listing.fetch a { stem } token).Gives R fun answer =>
      ∀ page, answer = .ok page → ∀ t ∈ targets page, kind t)
    (delete : ∀ batch, (∀ t ∈ batch, kind t) → (Store.deleteMany a batch).Keeps R)
    (style : CallStyle) (pace : Pace) (turns : Turns) :
    (deleteIn style a stem pace turns).Keeps R := by
  rw [deleteIn_eq]
  have none : ({} : Deletion).Of kind := ⟨(fun _ is => nomatch is), fun _ is => nomatch is⟩
  have attempted : (attempts a stem pace turns).Keeps R := by
    refine Action.Keeps.bind Action.Keeps.get fun w =>
      (gives_deletePages list delete _ _ _ _ none).keeps_bind fun (d, ending) left => ?_
    exact Action.Keeps.bind (Queue.keeps_finish
      (fun batch all => keeps_deleteBatch (delete batch all)) turns left.2) fun _ =>
        Action.Keeps.pure _
  refine Action.Keeps.bind attempted fun (outcomes, ending) => ?_
  cases ending with
  | failed f => exact Action.Keeps.throw _
  | complete | cut => exact keeps_accounting classify style outcomes

end Deletions
end BlobStorage.Directory
