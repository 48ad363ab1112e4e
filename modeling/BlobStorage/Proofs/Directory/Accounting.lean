import BlobStorage.Proofs.Directory.Plan
import BlobStorage.Proofs.Memory.Serving
import Mathlib.Data.List.Perm.Basic

/-!
The account of a directory download: of every planned key exactly one thing is told, that its own
transfer has put its bytes where nothing was or that it failed, and nothing that was there before is
touched. Keys may be listed repeatedly, share a target or lie below each other, the transfers may be
carried out in any order, and any of them may fail.
-/
namespace BlobStorage.Directory
variable {ρ : Type} {a : Adapter ρ}

/-- A transfer that was carried out: the world in which it began, how it went, and the world it left. -/
structure Transfer (ρ : Type) where
  item : DownloadItem
  before : World ρ
  outcome : Except Failure Unit
  after : World ρ

namespace Transfer

def place (x : Transfer ρ) : List String := x.item.target.segments

def result (x : Transfer ρ) : DownloadItem × Except Failure Unit := (x.item, x.outcome)

end Transfer

/-- Transfers that were carried out one after the other. -/
inductive Transferred (a : Adapter ρ) : World ρ → List (Transfer ρ) → World ρ → Prop
  | nil (w : World ρ) : Transferred a w [] w
  | cons {x : Transfer ρ} {rest : List (Transfer ρ)} {w : World ρ} :
      (downloadItem a x.item).runFrom x.before = (x.outcome, x.after) →
      Transferred a x.after rest w → Transferred a x.before (x :: rest) w

def Records (entry : DownloadItem × Failure) (record : FailedDownload) : Prop :=
  ∃ category, record =
    ⟨entry.1.target, entry.2.categorize category (some entry.1.key) false⟩

/-- What the transfers, told in the order of the plan, have made of one file tree is the other one, and
these are the records of those that failed. -/
structure Accounted (bytes : String → Content → Prop) (t t' : FileTree) (told : List (Transfer ρ))
    (failed : List FailedDownload) : Prop where
  /-- A transfer that succeeded has put its file where nothing was, neither when it began nor before the
  first of them, and there it still is, with exactly the bytes of its key. -/
  written : ∀ x ∈ told, x.outcome = .ok () → ∃ content, bytes x.item.key content ∧
    x.before.files.Put x.after.files x.item.target content ∧ t.node? x.place = none ∧
      t'.read? x.item.target = .ok (some content)
  /-- One that failed has left what it found at its target, and made directories above it at most. -/
  unwritten : ∀ x ∈ told, ∀ f, x.outcome = .error f →
    x.after.files.node? x.place = x.before.files.node? x.place ∧
      x.before.files.Widened x.after.files x.place.dropLast
  /-- Of those with the same target at most one succeeded. -/
  once : told.Pairwise fun x y =>
    x.item.target = y.item.target → x.outcome = .ok () → y.outcome ≠ .ok ()
  /-- Those that failed, and no others, have a record each. -/
  recorded : List.Forall₂ Records (failures (told.map Transfer.result)) failed
  /-- All files and directories that were there are there as they were. -/
  kept : t.Grows t'
  /-- What is new is a file that was transferred, or a directory above the target of a transfer. -/
  others : ∀ name, t'.node? name = t.node? name ∨ t.node? name = none ∧
    ((∃ x ∈ told, x.outcome = .ok () ∧ name = x.place) ∨
      t'.node? name = some .directory ∧ ∃ x ∈ told, name <+: x.place.dropLast)

def planned (request : DirectoryDownload) (keys : List String) : List DownloadItem :=
  ((keys.filter (Wanted request ·)).filter (Inside request ·)).map (item request)

def rejected (request : DirectoryDownload) (keys : List String) : List FailedDownload :=
  ((keys.filter (Wanted request ·)).filter (¬ Inside request ·)).map (refusal request)

/-- What a directory download does, whatever is in the local file tree. -/
structure DownloadLaws (a : Adapter ρ) (bytes : String → Content → Prop) (request : DirectoryDownload)
    (turns : Turns) (w : World ρ) : Prop where
  /-- The keys are listed first, to the last of them or to a failure. -/
  listed : ∃ listed w₁, (Listing.blobs a { stem := request.stem }).runFrom w = (.ok listed, w₁)
  /-- If the listing fails, or the destination cannot be the name of a place, the download fails and
  leaves the local files alone. -/
  unlisted : ∀ listed f w₁, (Listing.blobs a { stem := request.stem }).runFrom w = (.ok listed, w₁) →
    listed.ending = .failed f →
    (download a request turns).runFrom w = (.error f, w₁) ∧ w₁.files = w.files
  nowhere : ∀ listed w₁, (Listing.blobs a { stem := request.stem }).runFrom w = (.ok listed, w₁) →
    listed.failure? = none → request.destination.hasNull = true →
    (download a request turns).runFrom w = (.error (.ambient .nullInPath), w₁) ∧ w₁.files = w.files
  /-- Otherwise it returns: first the keys that are refused, each once, and then the failed transfers. For
  every planned key there is one transfer, and there are no others. -/
  accounted : ∀ listed w₁ keys,
    (Listing.blobs a { stem := request.stem }).runFrom w = (.ok listed, w₁) →
    listed.failure? = none → request.destination.hasNull = false →
    listed.delivered.map (·.key) = keys.map .known → (∀ key ∈ keys, '\x00' ∉ key.toList) →
    ∃ failed log told w₂ w',
      (download a request turns).runFrom w = (.ok (rejected request keys ++ failed), w') ∧
      Transferred a w₁ log w₂ ∧ told.Perm log ∧ told.map (·.item) = planned request keys ∧
      Accounted bytes w.files w'.files told failed

section Transfers
variable {P : World ρ → Prop} {bytes : String → Content → Prop} {w w' : World ρ}
  {log : List (Transfer ρ)}

theorem exists_transferred {results : List (DownloadItem × Except Failure Unit)}
    (h : Queue.Carried (trial (downloadItem a)) w results w') :
    ∃ log, Transferred a w log w' ∧ log.map Transfer.result = results := by
  induction h with
  | nil w => exact ⟨[], .nil w, rfl⟩
  | @step w w₁ w' item result results ran _ ih =>
      obtain ⟨log, rest, rfl⟩ := ih
      rw [runFrom_trial] at ran
      cases ran
      exact ⟨⟨item, w, _, _⟩ :: log, .cons (x := ⟨item, w, _, _⟩) rfl rest, rfl⟩

/-- What one transfer of a row did, and that all that was there before the row is there when it begins,
and all that is there when it ends is there after the row. -/
structure Within (P : World ρ → Prop) (bytes : String → Content → Prop) (w w' : World ρ)
    (x : Transfer ρ) : Prop where
  landed : Landed P bytes x.before.files x.item.key x.item.target (x.outcome, x.after)
  earlier : w.files.Grows x.before.files
  later : x.after.files.Grows w'.files

theorem grows_of_landed {t : FileTree} {key : String} {path : Path} {outcome : Except Failure Unit}
    (h : Landed P bytes t key path (outcome, w)) : t.Grows w.files := by
  cases outcome with
  | error f => exact h.2.grows
  | ok _ =>
      obtain ⟨_, _, _, put⟩ := h
      exact put.grows

theorem holds_of_landed {t : FileTree} {key : String} {path : Path} {outcome : Except Failure Unit}
    (h : Landed P bytes t key path (outcome, w)) : P w := by
  cases outcome <;> exact h.1

variable (serves : Serves a P bytes)
include serves

/-- By induction on the row: nothing that is there is ever taken away or changed. -/
theorem transferred_spec (h : Transferred a w log w') (start : P w)
    (forward : ∀ x ∈ log, ".." ∉ x.item.target.segments) :
    P w' ∧ w.files.Grows w'.files ∧ ∀ x ∈ log, Within P bytes w w' x := by
  induction h with
  | nil w => exact ⟨start, Std.Refl.refl _, fun _ none => nomatch none⟩
  | @cons x rest w' ran _ ih =>
      obtain ⟨here, onward⟩ := List.forall_mem_cons.mp forward
      have landed := serves.downloadItem here start
      rw [ran] at landed
      have first := grows_of_landed landed
      obtain ⟨holds, grows, all⟩ := ih (holds_of_landed landed) onward
      refine ⟨holds, IsTrans.trans _ _ _ first grows, List.forall_mem_cons.mpr ⟨?_, ?_⟩⟩
      · exact ⟨landed, Std.Refl.refl _, grows⟩
      · intro y hy
        have own := all y hy
        exact ⟨own.landed, IsTrans.trans _ _ _ first own.earlier, own.later⟩

/-- A second transfer to the same target finds the file of the first one there. -/
theorem once_of_transferred (h : Transferred a w log w') (start : P w)
    (forward : ∀ x ∈ log, ".." ∉ x.item.target.segments) :
    log.Pairwise fun x y =>
      x.item.target = y.item.target → x.outcome = .ok () → y.outcome ≠ .ok () := by
  induction h with
  | nil w => exact .nil
  | @cons x rest w' ran tail ih =>
      obtain ⟨here, onward⟩ := List.forall_mem_cons.mp forward
      have landed := serves.downloadItem here start
      rw [ran] at landed
      have holds := holds_of_landed landed
      refine .cons (fun y hy same first second => ?_) (ih holds onward)
      obtain ⟨_, _, all⟩ := transferred_spec serves tail holds onward
      have own := all y hy
      have later := own.landed
      rw [first] at landed
      rw [second] at later
      obtain ⟨_, _, _, put⟩ := landed
      obtain ⟨_, _, _, put'⟩ := later
      have there := own.earlier.kept _ _ put.here
      rw [same, put'.free] at there
      cases there

omit serves in
theorem others_of_landed {t : FileTree} {item : DownloadItem} {outcome : Except Failure Unit}
    (h : Landed P bytes t item.key item.target (outcome, w)) (name : List String) :
    w.files.node? name = t.node? name ∨ t.node? name = none ∧
      (outcome = .ok () ∧ name = item.target.segments ∨
        w.files.node? name = some .directory ∧ name <+: item.target.segments.dropLast) := by
  cases outcome with
  | error f => exact (h.2.nodes name).imp_right fun ⟨free, made⟩ => ⟨free, .inr made⟩
  | ok _ =>
      obtain ⟨_, _, _, put⟩ := h
      by_cases here : name = item.target.segments
      · exact .inr ⟨here ▸ put.free, .inl ⟨rfl, here⟩⟩
      · exact (put.elsewhere name here).imp_right fun ⟨free, made⟩ => ⟨free, .inr made⟩

theorem others_of_transferred (h : Transferred a w log w') (start : P w)
    (forward : ∀ x ∈ log, ".." ∉ x.item.target.segments) (name : List String) :
    w'.files.node? name = w.files.node? name ∨ w.files.node? name = none ∧
      ((∃ x ∈ log, x.outcome = .ok () ∧ name = x.place) ∨
        w'.files.node? name = some .directory ∧ ∃ x ∈ log, name <+: x.place.dropLast) := by
  induction h with
  | nil w => exact .inl rfl
  | @cons x rest w' ran tail ih =>
      obtain ⟨here, onward⟩ := List.forall_mem_cons.mp forward
      have landed := serves.downloadItem here start
      rw [ran] at landed
      have holds := holds_of_landed landed
      obtain ⟨_, grows, _⟩ := transferred_spec serves tail holds onward
      rcases others_of_landed landed name with same | ⟨free, ⟨went, is⟩ | ⟨made, above⟩⟩
      · rw [← same]
        refine (ih holds onward).imp_right fun ⟨free, new⟩ => ⟨free, new.imp ?_ ?_⟩
        · exact fun ⟨y, hy, own⟩ => ⟨y, List.mem_cons_of_mem _ hy, own⟩
        · exact fun ⟨made, y, hy, own⟩ => ⟨made, y, List.mem_cons_of_mem _ hy, own⟩
      · exact .inr ⟨free, .inl ⟨x, List.mem_cons_self .., went, is⟩⟩
      · exact .inr ⟨free, .inr ⟨grows.kept _ _ made, x, List.mem_cons_self .., above⟩⟩

/-- The account of transfers, told in whatever order. -/
theorem accounted_of_transferred (h : Transferred a w log w') (start : P w)
    {told : List (Transfer ρ)} (perm : told.Perm log)
    (forward : ∀ x ∈ told, ".." ∉ x.item.target.segments) {failed : List FailedDownload}
    (recorded : List.Forall₂ Records (failures (told.map Transfer.result)) failed) :
    Accounted bytes w.files w'.files told failed := by
  have forward' : ∀ x ∈ log, ".." ∉ x.item.target.segments :=
    fun x hx => forward x (perm.mem_iff.mpr hx)
  obtain ⟨_, grows, all⟩ := transferred_spec serves h start forward'
  refine ⟨fun x hx went => ?_, fun x hx f failed => ?_, ?_, recorded, grows, fun name => ?_⟩
  · have own := all x (perm.mem_iff.mp hx)
    have landed := own.landed
    rw [went] at landed
    obtain ⟨_, content, is, put⟩ := landed
    refine ⟨content, is, put, ?_, own.later.read? put.read⟩
    cases was : w.files.node? x.place with
    | none => rfl
    | some node => cases put.free.symm.trans (own.earlier.kept _ _ was)
  · have landed := (all x (perm.mem_iff.mp hx)).landed
    rw [failed] at landed
    exact ⟨landed.2.at_place, landed.2⟩
  · refine (perm.pairwise_iff ?_).mpr (once_of_transferred serves h start forward')
    exact fun other same first second => other same.symm second first
  · simpa only [perm.mem_iff] using others_of_transferred serves h start forward' name

end Transfers

section Downloads
variable {request : DirectoryDownload} {turns : Turns} {w w₁ : World ρ} {listed : Run BlobInfo}

theorem forward_of_planned {keys : List String} {i : DownloadItem} (h : i ∈ planned request keys) :
    ".." ∉ i.target.segments := by
  obtain ⟨key, _, rfl⟩ := List.mem_map.mp h
  rw [item_target]
  exact fun back => (Path.mem_resolve _ _ back).2 rfl

variable (ran : (Listing.blobs a { stem := request.stem }).runFrom w = (.ok listed, w₁))
include ran

theorem runFrom_download_planned (ends : listed.failure? = none)
    {plan : List DownloadItem} {refused : List FailedDownload}
    (divided : planDownload request (listed.delivered.map (·.key)) = .ok (plan, refused))
    {failed : List FailedDownload} {w' : World ρ}
    (tried : (tryAll a turns plan (downloadItem a) (fun i => some i.key) fun i f =>
      ⟨i.target, f⟩).runFrom w₁ = (.ok failed, w')) :
    (download a request turns).runFrom w = (.ok (refused ++ failed), w') := by
  refine (Action.runFrom_bind_ok ran _).trans ?_
  obtain ⟨delivered, ending⟩ := listed
  cases ending with
  | failed f => cases ends
  | complete | cut =>
      refine (Action.runFrom_ambient_bind_ok divided _ w₁).trans ?_
      exact (Action.runFrom_bind_ok tried _).trans rfl

theorem runFrom_download_unplanned (ends : listed.failure? = none) {e : Ambient}
    (nowhere : planDownload request (listed.delivered.map (·.key)) = .error e) :
    (download a request turns).runFrom w = (.error (.ambient e), w₁) := by
  refine (Action.runFrom_bind_ok ran _).trans ?_
  obtain ⟨delivered, ending⟩ := listed
  cases ending with
  | failed f => cases ends
  | complete | cut => exact Action.runFrom_ambient_bind_error nowhere _ w₁

end Downloads

/-- The download laws, for every adapter that serves its keys. -/
theorem account_of_download (a : Adapter ρ) {P : World ρ → Prop} {bytes : String → Content → Prop}
    (serves : Serves a P bytes) (request : DirectoryDownload) (turns : Turns) (w : World ρ)
    (start : P w) : DownloadLaws a bytes request turns w where
  listed := total_pull ..
  unlisted listed f w₁ ran ends := by
    refine ⟨(Action.runFrom_bind_ok ran _).trans ?_, (serves.blobs ran).1⟩
    dsimp only
    rw [ends]
    rfl
  nowhere listed w₁ ran ends null := by
    refine ⟨runFrom_download_unplanned ran ends ?_, (serves.blobs ran).1⟩
    simp [planDownload, Path.resolved, null, bind, Except.bind]
  accounted listed w₁ keys ran ends clean keyed plain := by
    obtain ⟨same, kept⟩ := serves.blobs ran
    have divided := planDownload_known request clean keys fun key hk null =>
      plain key hk (mem_relativeName _ _ _ null)
    rw [← keyed] at divided
    obtain ⟨results, pairs, w₂, carried, perm, own, tried⟩ := trials_carried (downloadItem a)
      (planned request keys) turns w₁
    obtain ⟨log, transferred, rfl⟩ := exists_transferred carried
    -- The transfers in the order of the plan.
    have sorts := congrFun (congrFun (List.eq_map_comp_perm Transfer.result) pairs) log
    obtain ⟨told, rfl, order⟩ := sorts.mpr perm
    rw [List.map_map] at own
    obtain ⟨failed, w', categorized, aside, recorded⟩ := serves.recorded
      (fun (i : DownloadItem) f => FailedDownload.mk i.target f) (fun i => some i.key)
      (failures (told.map Transfer.result)) w₂
    have forward : ∀ x ∈ told, ".." ∉ x.item.target.segments := fun x hx =>
      forward_of_planned (own ▸ List.mem_map_of_mem (f := Prod.fst ∘ Transfer.result) hx)
    refine ⟨failed, log, told, w₂, w', ?_, transferred, order, own, ?_⟩
    · refine runFrom_download_planned ran ends divided ?_
      rw [tryAll_eq]
      exact (Action.runFrom_bind_ok tried _).trans categorized
    · have account := accounted_of_transferred serves transferred (kept start) order forward recorded
      rwa [same, ← aside] at account

section Colliding
open Memory

def collidingBucket : Bucket where
  name := "b"
  region := none
  created := ⟨0, none⟩
  objects := [("p//a", [{ data := [1], etag := "", number := 1, modified := ⟨0, none⟩ }]),
    ("p/a", [{ data := [2], etag := "", number := 2, modified := ⟨0, none⟩ }])]

def collidingWorld : World Backend :=
  { remote := { buckets := [("b", collidingBucket)], now := ⟨0, none⟩ } }

def collidingCaller : Caller :=
  { store := { config := { provider := "memory" }, bucket := "b" } }

def collidingRequest : DirectoryDownload := { stem := some "p/", destination := .absolute "/d" }

/-- The account of a download of both, the second one first. -/
theorem account_of_colliding_keys :
    Serves collidingCaller.adapter (On collidingWorld.remote)
        (Newest collidingWorld.remote collidingCaller.store.bucket) ∧
      On collidingWorld.remote collidingWorld ∧
      DownloadLaws collidingCaller.adapter
        (Newest collidingWorld.remote collidingCaller.store.bucket) collidingRequest [1]
        collidingWorld := by
  have serves := serves_adapter collidingCaller collidingWorld.remote
  exact ⟨serves, rfl, account_of_download _ serves collidingRequest [1] collidingWorld rfl⟩

end Colliding
end BlobStorage.Directory
