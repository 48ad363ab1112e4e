import BlobStorage.Proofs.Memory.Endurance
import Mathlib.Data.List.Induction

/-!
Deletions as single deletes, tried one after the other. One that is to remove a locked version removes
none, so a version goes only if a single delete is to remove it and no locked one with it.
-/
namespace BlobStorage.Memory
namespace Backend

/-- A single delete, which may be refused. -/
def tryDelete (s : Backend) (bucket : String) (i : Identifier) : Backend :=
  match s.delete bucket i.key i.version with
  | .ok t => t
  | .error _ => s

def tryDeletes (s : Backend) (bucket : String) (is : List Identifier) : Backend :=
  is.foldl (fun s i => s.tryDelete bucket i) s

variable {s : Backend} {bucket key : String} {i : Identifier} {v : Version}

@[simp] theorem tryDeletes_nil : s.tryDeletes bucket [] = s := rfl

@[simp] theorem tryDeletes_append (first second : List Identifier) :
    s.tryDeletes bucket (first ++ second) = (s.tryDeletes bucket first).tryDeletes bucket second :=
  List.foldl_append ..

@[simp] theorem tryDeletes_singleton : s.tryDeletes bucket [i] = s.tryDelete bucket i := rfl

theorem tryDelete_of_ok {t : Backend} (h : s.delete bucket i.key i.version = .ok t) :
    s.tryDelete bucket i = t := by
  simp [tryDelete, h]

theorem now_tryDelete (s : Backend) (bucket : String) (i : Identifier) :
    (s.tryDelete bucket i).now = s.now := by
  unfold tryDelete
  split
  · rename_i made
    exact now_of_apply (c := .delete bucket i.key i.version) made nofun
  · rfl

theorem Tidy.tryDelete (tidy : s.Tidy) (bucket : String) (i : Identifier) :
    (s.tryDelete bucket i).Tidy := by
  unfold Backend.tryDelete
  split
  · rename_i made
    exact tidy.delete made
  · exact tidy

theorem now_tryDeletes (s : Backend) (bucket : String) (is : List Identifier) :
    (s.tryDeletes bucket is).now = s.now := by
  induction is generalizing s with
  | nil => rfl
  | cons i rest ih => exact (ih _).trans (now_tryDelete s bucket i)

theorem Tidy.tryDeletes (tidy : s.Tidy) (bucket : String) (is : List Identifier) :
    (s.tryDeletes bucket is).Tidy := by
  induction is generalizing s with
  | nil => exact tidy
  | cons i rest ih => exact ih (tidy.tryDelete bucket i)

theorem tryDelete_of_locked (hv : v ∈ s.versionsAt bucket i.key)
    (target : v.isTarget i.version = true) (locked : v.isLocked s.now = true) :
    s.tryDelete bucket i = s := by
  unfold tryDelete
  split
  · rename_i made
    obtain ⟨b, found, free, _⟩ := (delete_eq_ok_iff ..).mp made
    rw [versionsAt_of_get? found] at hv
    rw [free v hv target] at locked
    cases locked
  · rfl

theorem mem_tryDelete (tidy : s.Tidy) (hv : v ∈ s.versionsAt bucket key)
    (other : i.key = key → v.isTarget i.version = false) :
    v ∈ (s.tryDelete bucket i).versionsAt bucket key := by
  unfold tryDelete
  split
  · rename_i made
    rw [rewritten_of_delete tidy made bucket key]
    by_cases here : key = i.key
    · subst here
      rw [if_pos ⟨rfl, rfl⟩]
      exact List.mem_filter.mpr ⟨hv, by simp [other rfl]⟩
    · rw [if_neg fun same => here same.2]
      exact hv
  · exact hv

theorem mem_tryDeletes (tidy : s.Tidy) (is : List Identifier) (hv : v ∈ s.versionsAt bucket key)
    (shielded : ∀ i ∈ is, i.key = key → v.isTarget i.version = true →
      ∃ u ∈ s.versionsAt bucket key, u.isTarget i.version = true ∧ u.isLocked s.now = true) :
    v ∈ (s.tryDeletes bucket is).versionsAt bucket key := by
  induction is using List.reverseRecOn generalizing v with
  | nil => exact hv
  | append_singleton before i ih =>
      have stays {u : Version} (hu : u ∈ s.versionsAt bucket key)
          (shielded : ∀ i ∈ before, i.key = key → u.isTarget i.version = true →
            ∃ u ∈ s.versionsAt bucket key, u.isTarget i.version = true ∧ u.isLocked s.now = true) :
          u ∈ (s.tryDeletes bucket before).versionsAt bucket key := ih hu shielded
      have here := stays hv fun j hj => shielded j (List.mem_append_left _ hj)
      rw [tryDeletes_append, tryDeletes_singleton]
      by_cases target : i.key = key ∧ v.isTarget i.version = true
      · obtain ⟨rfl, target⟩ := target
        obtain ⟨u, hu, also, locked⟩ :=
          shielded i (List.mem_append_right _ (List.mem_singleton_self i)) rfl target
        -- a locked version is shielded by itself, so it is still there to refuse the delete
        have still := stays hu fun j _ _ aimed => ⟨u, hu, aimed, locked⟩
        rw [tryDelete_of_locked still also (by rwa [now_tryDeletes])]
        exact here
      · refine mem_tryDelete (tidy.tryDeletes bucket before) here fun same => ?_
        simpa [same] using target

end Backend

/-- Single deletes of a bucket, each of which may be tried, lead from one world to the other. -/
def Tries (bucket : String) (may : Identifier → Prop) (w w' : World Backend) : Prop :=
  ∃ is : List Identifier, (∀ i ∈ is, may i) ∧ w'.remote = w.remote.tryDeletes bucket is

instance (bucket : String) (may : Identifier → Prop) : Std.Refl (Tries bucket may) :=
  ⟨fun _ => ⟨[], by simp, rfl⟩⟩

instance (bucket : String) (may : Identifier → Prop) :
    IsTrans (World Backend) (Tries bucket may) := by
  refine ⟨fun w w₁ w₂ ⟨first, mayFirst, same⟩ ⟨second, maySecond, same'⟩ =>
    ⟨first ++ second, ?_, ?_⟩⟩
  · intro i hi
    exact (List.mem_append.mp hi).elim (mayFirst i) (maySecond i)
  · rw [same', same, Backend.tryDeletes_append]

theorem tries_of_same {bucket : String} {may : Identifier → Prop} {w w' : World Backend}
    (same : SameRemote w w') : Tries bucket may w w' :=
  ⟨[], by simp, same⟩

theorem tries_of_atomic {α : Type} {bucket : String} {may : Identifier → Prop} {i : Identifier}
    {a : Op Backend α} (h : Atomic (fun b _ b' => b.delete bucket i.key i.version = .ok b') a)
    (permitted : may i) : a.Keeps (Tries bucket may) := by
  intro w
  rcases run : a.runFrom w with ⟨e | x, w'⟩
  · exact tries_of_same (h.of_error run)
  · refine ⟨[i], by simpa using permitted, ?_⟩
    rw [Backend.tryDeletes_singleton, Backend.tryDelete_of_ok (h.of_ok run)]

/-- The single deletes that an operation may try. Those of a directory are of versions of keys under the
stem. -/
def mayTry : Command → Identifier → Prop
  | .delete i => fun one => one = i
  | .deleteMany targets => fun one => one.target ∈ targets
  | .deleteDirectory stem => Memory.Listing.Listed stem
  | _ => fun _ => False

def deletes : Command → Bool
  | .delete _ | .deleteMany _ | .deleteDirectory _ => true
  | _ => false

/-- Whatever a deletion does, it does by single deletes. -/
theorem tries_run {s : Store} {guard : Guard Backend} (harmless : Store.Harmless guard)
    (style : CallStyle) {command : Command} (deleting : deletes command = true) :
    (command.run (s.adapter guard) style).Keeps (Tries s.bucket (mayTry command)) := by
  have quiet {α : Type} {a : Op Backend α} (h : Quiet a) : a.Keeps (Tries s.bucket (mayTry command)) :=
    Action.Keeps.mono h fun _ _ => tries_of_same
  have many {targets : List Target}
      (permitted : ∀ i : Identifier, i.target ∈ targets → mayTry command i) :
      (BlobStorage.Store.deleteMany (s.adapter guard) targets).Keeps
        (Tries s.bucket (mayTry command)) :=
    Store.keeps_deleteManyChecked harmless (fun _ _ => tries_of_same) fun i hi =>
      tries_of_atomic (Store.atomic_update _) (permitted i hi)
  cases command with
  | delete i =>
      exact Action.Keeps.bind (tries_of_atomic
        (BlobStorage.Store.atomic_delete (Store.atomic_delete harmless i)) rfl)
        fun _ => Action.Keeps.pure _
  | deleteMany targets =>
      exact Action.Keeps.bind (many fun _ hi => hi) fun _ => Action.Keeps.pure _
  | deleteDirectory stem =>
      have reads := Store.readsQuietly_adapter (s := s) harmless
      have whole := Directory.keeps_deleteIn (fun f => quiet (reads.classify f))
        (Store.gives_fetch harmless (fun _ _ => tries_of_same) stem)
        fun _ all => many fun _ hi => listed_of_targets all hi
      cases style with
      | blocking => exact (whole .blocking .eager []).map _
      | awaited => exact (whole .awaited .deferred []).map _
  | _ => cases deleting

theorem tries_call {c : Caller} {command : Command} (deleting : deletes command = true) :
    (Call.perform c command).run.Keeps (Tries c.store.bucket (mayTry command)) := by
  refine BucketClient.keeps_call (fun f => ?_) _ (tries_run (harmless_guardOf c.plans) c.style deleting)
  exact Action.Keeps.mono ((readsQuietly c).classify f) fun _ _ => tries_of_same

end BlobStorage.Memory
