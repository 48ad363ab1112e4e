import BlobStorage.Proofs.Directory.Transfer
import BlobStorage.Proofs.Memory.Adapter

/-!
Removing many versions. A bulk delete removes versions that it names and no others, whether it fails or
not, and all that it names where it succeeds.
-/
namespace BlobStorage.Memory

namespace Store
variable {s : Store} {guard : Guard Backend}

section Keeps
variable {R : World Backend → World Backend → Prop} [IsTrans (World Backend) R]

omit [IsTrans (World Backend) R] in
theorem keeps_see [Std.Refl R] {α : Type} (look : Backend → Except Fault α) : (see look).Keeps R := by
  intro w
  rw [runFrom_see]
  exact Std.Refl.refl w

variable (guarded : ∀ p key, (guard p key).Keeps R)
include guarded

theorem keeps_delete {i : Identifier}
    (deleted : (update fun b => b.delete s.bucket i.key i.version).Keeps R) :
    (delete s guard i).Keeps R :=
  Action.Keeps.bind (guarded _ _) fun _ => deleted

variable [Std.Refl R]

theorem keeps_deleteEach {targets : List Target}
    (deleted : ∀ i : Identifier, i.target ∈ targets →
      (update fun b => b.delete s.bucket i.key i.version).Keeps R) :
    (deleteEach s guard targets).Keeps R := by
  induction targets with
  | nil => exact Action.Keeps.pure _
  | cons t rest ih =>
      have one : (deleteTarget s guard t).Keeps R := by
        obtain ⟨key, version⟩ := t
        cases key with
        | known key =>
            exact keeps_delete guarded (deleted ⟨key, version⟩ (List.mem_cons_self ..))
        | other v => exact Action.Keeps.bind (guarded _ _) fun _ => keeps_see _
      have others := ih fun i hi => deleted i (List.mem_cons_of_mem _ hi)
      refine Action.Keeps.bind one.outcome fun r => ?_
      split
      · exact others
      · exact Action.Keeps.bind others fun _ => Action.Keeps.pure _
      · exact Action.Keeps.throw _

theorem keeps_deleteMany {targets : List Target}
    (deleted : ∀ i : Identifier, i.target ∈ targets →
      (update fun b => b.delete s.bucket i.key i.version).Keeps R) :
    (deleteMany s guard targets).Keeps R := by
  refine Action.Keeps.bind (guarded _ _) fun _ =>
    Action.Keeps.bind (keeps_deleteEach guarded deleted) fun faults => ?_
  cases faults with
  | nil => exact Action.Keeps.pure _
  | cons first more => exact Action.Keeps.throw _

end Keeps
end Store

/-- These versions, named by their keys and identifiers, are gone from a bucket, and no others. -/
structure Removed (bucket : String) (gone : List (String × String)) (s t : Backend) : Prop where
  tidy : t.Tidy
  there : t.hasBucket bucket = s.hasBucket bucket
  versions : ∀ key, t.versionsAt bucket key =
    (s.versionsAt bucket key).filter fun v => decide ((key, v.id) ∉ gone)
  elsewhere : ∀ other key, other ≠ bucket → t.versionsAt other key = s.versionsAt other key

namespace Removed
variable {bucket : String} {gone more : List (String × String)} {s t u : Backend}

theorem refl (bucket : String) (tidy : s.Tidy) : Removed bucket [] s s := by
  refine ⟨tidy, rfl, ?_, fun _ _ _ => rfl⟩
  intro key
  simp

theorem trans (h : Removed bucket gone s t) (k : Removed bucket more t u) :
    Removed bucket (gone ++ more) s u := by
  refine ⟨k.tidy, k.there.trans h.there, ?_, ?_⟩
  · intro key
    rw [k.versions, h.versions, List.filter_filter]
    refine List.filter_congr fun v _ => ?_
    simp [Bool.and_comm]
  · intro other key ne
    exact (k.elsewhere other key ne).trans (h.elsewhere other key ne)

/-- Keys of which nothing is gone keep their versions. -/
theorem untouched (h : Removed bucket gone s t) {key : String} (spared : ∀ i ∈ gone, i.1 ≠ key) :
    t.versionsAt bucket key = s.versionsAt bucket key := by
  rw [h.versions, List.filter_eq_self]
  intro v _
  rw [decide_eq_true_eq]
  exact fun hv => spared _ hv rfl

end Removed

theorem removed_of_delete {s t : Backend} (tidy : s.Tidy) {bucket key id : String}
    (h : s.delete bucket key (some id) = .ok t) : Removed bucket [(key, id)] s t := by
  have rewritten := Backend.rewritten_of_delete tidy h
  refine ⟨tidy.delete h, ?_, ?_, ?_⟩
  · obtain ⟨b, found, _, rfl⟩ := (Backend.delete_eq_ok_iff ..).mp h
    have named := tidy.named bucket b found
    unfold Backend.hasBucket Table.contains
    rw [Backend.get?_setBucket, Bucket.setVersions_name, if_pos named, found]
    rfl
  · intro key'
    rw [rewritten bucket key']
    by_cases same : key' = key
    · rw [if_pos ⟨rfl, same⟩, same]
      refine List.filter_congr fun v _ => ?_
      simp [Version.isTarget]
    · rw [if_neg (fun both => same both.2)]
      symm
      rw [List.filter_eq_self]
      intro v _
      simp [same]
  · intro other key' ne
    rw [rewritten other key', if_neg (fun both => ne both.1)]

def named (i : String × String) : Target := ⟨.known i.1, some i.2⟩

/-- A removal of some of the targets, and of all of them if that is said. -/
def Removes (bucket : String) (targets : List Target) (all : Prop) (s t : Backend) : Prop :=
  ∃ gone, Removed bucket gone s t ∧ (∀ i ∈ gone, named i ∈ targets) ∧
    (all → ∀ i, named i ∈ targets → i ∈ gone)

namespace Removes
variable {bucket : String} {targets more : List Target} {all both : Prop} {s t u : Backend}

theorem none (tidy : s.Tidy) (bucket : String) (targets : List Target) :
    Removes bucket targets False s s :=
  ⟨[], .refl bucket tidy, by simp, False.elim⟩

theorem nil (tidy : s.Tidy) (bucket : String) : Removes bucket [] True s s :=
  ⟨[], .refl bucket tidy, by simp, by simp⟩

theorem tidy (h : Removes bucket targets all s t) : t.Tidy := by
  obtain ⟨_, removed, _⟩ := h
  exact removed.tidy

theorem imp (h : Removes bucket targets all s t) (sub : both → all) :
    Removes bucket targets both s t := by
  obtain ⟨gone, removed, only, whole⟩ := h
  exact ⟨gone, removed, only, fun said => whole (sub said)⟩

theorem append (h : Removes bucket targets all s t) (k : Removes bucket more both t u) :
    Removes bucket (targets ++ more) (all ∧ both) s u := by
  obtain ⟨first, removed, only, whole⟩ := h
  obtain ⟨second, later, onlyLater, wholeLater⟩ := k
  refine ⟨first ++ second, removed.trans later, ?_, ?_⟩
  · intro i hi
    cases List.mem_append.mp hi with
    | inl hi => exact List.mem_append_left _ (only i hi)
    | inr hi => exact List.mem_append_right _ (onlyLater i hi)
  · intro ⟨saidFirst, saidSecond⟩ i hi
    cases List.mem_append.mp hi with
    | inl hi => exact List.mem_append_left _ (whole saidFirst i hi)
    | inr hi => exact List.mem_append_right _ (wholeLater saidSecond i hi)

end Removes

namespace Store
variable {s : Store} {guard : Guard Backend} (harmless : Harmless guard)
include harmless

theorem removes_deleteTarget (i : String × String) {w : World Backend} (tidy : w.remote.Tidy) :
    Removes s.bucket [named i] (∃ x, ((deleteTarget s guard (named i)).runFrom w).1 = .ok x)
      w.remote ((deleteTarget s guard (named i)).runFrom w).2.remote := by
  have atomic := atomic_delete (s := s) harmless ⟨i.1, some i.2⟩
  change Removes _ _ (∃ x, ((delete s guard ⟨i.1, some i.2⟩).runFrom w).1 = .ok x) _
    ((delete s guard ⟨i.1, some i.2⟩).runFrom w).2.remote
  rcases run : (delete s guard ⟨i.1, some i.2⟩).runFrom w with ⟨e | x, w'⟩
  · rw [atomic.of_error run]
    exact (Removes.none tidy _ _).imp fun ⟨_, ok⟩ => nomatch ok
  · refine ⟨[i], removed_of_delete tidy (atomic.of_ok run), ?_, ?_⟩
    · intro j hj
      rw [List.mem_singleton.mp hj]
      exact List.mem_cons_self ..
    · intro _ j hj
      have same := List.mem_singleton.mp hj
      simp only [named, Target.mk.injEq, Reported.known.injEq, Option.some.injEq] at same
      exact List.mem_singleton.mpr (Prod.ext same.1 same.2)

theorem removes_deleteEach {targets : List Target} (aimed : ∀ t ∈ targets, ∃ i, t = named i)
    {w : World Backend} (tidy : w.remote.Tidy) :
    Removes s.bucket targets (((deleteEach s guard targets).runFrom w).1 = .ok [])
      w.remote ((deleteEach s guard targets).runFrom w).2.remote := by
  induction targets generalizing w with
  | nil => exact (Removes.nil tidy _).imp fun _ => trivial
  | cons t rest ih =>
      obtain ⟨⟨i, rfl⟩, others⟩ := List.forall_mem_cons.mp aimed
      have one := removes_deleteTarget (s := s) harmless i tidy
      rw [deleteEach, Action.runFrom_bind, Action.runFrom_outcome]
      rcases first : (deleteTarget s guard (named i)).runFrom w with ⟨e | x, w₁⟩
      · rw [first] at one
        cases e with
        | memory fault =>
            have later := ih others one.tidy
            dsimp only
            rw [Action.runFrom_bind]
            rcases second : (deleteEach s guard rest).runFrom w₁ with ⟨f | faults, w₂⟩
            · rw [second] at later
              exact (one.append later).imp fun ok => nomatch ok
            · rw [second] at later
              exact (one.append later).imp fun ok => nomatch ok
        | _ => exact (one.append (Removes.none one.tidy _ rest)).imp fun ok => nomatch ok
      · rw [first] at one
        exact (one.append (ih others one.tidy)).imp fun ok => ⟨⟨x, rfl⟩, ok⟩

theorem removes_deleteMany {targets : List Target} (aimed : ∀ t ∈ targets, ∃ i, t = named i)
    {w : World Backend} (tidy : w.remote.Tidy) :
    Removes s.bucket targets (((deleteMany s guard targets).runFrom w).1 = .ok ())
      w.remote ((deleteMany s guard targets).runFrom w).2.remote := by
  have quiet : ((guard .deleteMany none).runFrom w).2.remote = w.remote := harmless _ _ w
  unfold deleteMany
  rw [Action.runFrom_bind]
  rcases passed : (guard .deleteMany none).runFrom w with ⟨e | x, w₁⟩
  · rw [passed] at quiet
    dsimp only at quiet ⊢
    rw [quiet]
    exact (Removes.none tidy _ _).imp fun ok => nomatch ok
  · rw [passed] at quiet
    dsimp only at quiet ⊢
    have each := removes_deleteEach (s := s) harmless aimed (w := w₁) (quiet ▸ tidy)
    rw [quiet] at each
    rw [Action.runFrom_bind]
    rcases run : (deleteEach s guard targets).runFrom w₁ with ⟨e | faults, w₂⟩
    · rw [run] at each
      exact each.imp fun ok => nomatch ok
    · rw [run] at each
      cases faults with
      | nil => exact each.imp fun _ => rfl
      | cons first more => exact each.imp fun ok => nomatch ok

theorem removes_forM {batches : List (List Target)}
    (aimed : ∀ t ∈ batches.flatten, ∃ i, t = named i) {w : World Backend} (tidy : w.remote.Tidy) :
    Removes s.bucket batches.flatten (((batches.forM (deleteMany s guard)).runFrom w).1 = .ok ())
      w.remote ((batches.forM (deleteMany s guard)).runFrom w).2.remote := by
  induction batches generalizing w with
  | nil => exact (Removes.nil tidy _).imp fun _ => trivial
  | cons batch rest ih =>
      rw [List.flatten_cons] at aimed ⊢
      have one := removes_deleteMany (s := s) harmless
        (fun t ht => aimed t (List.mem_append_left _ ht)) tidy
      have unrolled : (batch :: rest).forM (deleteMany s guard) =
          deleteMany s guard batch >>= fun _ => rest.forM (deleteMany s guard) := rfl
      rw [unrolled, Action.runFrom_bind]
      rcases first : (deleteMany s guard batch).runFrom w with ⟨e | x, w₁⟩
      · rw [first] at one
        exact (one.append (Removes.none one.tidy _ rest.flatten)).imp fun ok => nomatch ok
      · rw [first] at one
        have later := ih (fun t ht => aimed t (List.mem_append_right _ ht)) one.tidy
        exact (one.append later).imp fun ok => ⟨rfl, ok⟩

theorem removes_deleteMany_checked {targets : List Target}
    (aimed : ∀ t ∈ targets, ∃ i, t = named i) {w : World Backend} (tidy : w.remote.Tidy) :
    Removes s.bucket targets
      (((BlobStorage.Store.deleteMany (s.adapter guard) targets).runFrom w).1 = .ok ())
      w.remote ((BlobStorage.Store.deleteMany (s.adapter guard) targets).runFrom w).2.remote := by
  unfold BlobStorage.Store.deleteMany
  cases targets with
  | nil => exact (Removes.nil tidy _).imp fun _ => trivial
  | cons t rest =>
      rw [if_neg (by simp)]
      cases accepted : Check.keys (t :: rest) with
      | error e =>
          rw [BlobStorage.Store.runFrom_check_bind_error rfl]
          exact (Removes.none tidy _ _).imp fun ok => nomatch ok
      | ok _ =>
          rw [BlobStorage.Store.runFrom_check_bind_ok rfl]
          cases cut : partition (t :: rest) (s.adapter guard).deleteLimit with
          | error e => exact (Removes.none tidy _ _).imp fun ok => nomatch ok
          | ok batches =>
              have whole := BlobStorage.Store.flatten_of_partition cut
              rw [← whole] at aimed ⊢
              exact removes_forM harmless aimed tidy

end Store

theorem removes_deleteBatch {s : Store} {guard : Guard Backend} (harmless : Store.Harmless guard)
    {batch : List Target} (aimed : ∀ t ∈ batch, ∃ i, t = named i) {w w' : World Backend}
    (tidy : w.remote.Tidy) {outcome : Directory.BatchOutcome}
    (run : (Directory.deleteBatch (s.adapter guard) batch).runFrom w = (.ok outcome, w')) :
    outcome.1 = batch ∧ Removes s.bucket batch (outcome.2 = none) w.remote w'.remote := by
  have whole := Store.removes_deleteMany_checked (s := s) harmless aimed tidy
  rcases inner : (BlobStorage.Store.deleteMany (s.adapter guard) batch).runFrom w with ⟨result, w₁⟩
  cases run.symm.trans (Directory.runFrom_deleteBatch inner)
  rw [inner] at whole
  refine ⟨rfl, whole.imp fun fine => ?_⟩
  cases result with
  | ok _ => rfl
  | error f => cases fine

end BlobStorage.Memory
