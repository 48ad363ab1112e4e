import BlobStorage.Proofs.Directory.Batcher
import BlobStorage.Proofs.Memory.Looking

/-!
Deleting a directory of a memory store, at any pace. Batches are submitted as soon as the pages fill
them, and carried out while further pages are fetched; what is submitted is nevertheless cut from the
listing as it was at the start, and every batch is carried out once.
-/
namespace BlobStorage.Memory
open Directory Memory.Listing

section Carried
variable {c : Caller} {w w' : World Backend} {runs : List BatchOutcome}

theorem samePlans_deleteBatch (c : Caller) (batch : List Target) :
    (deleteBatch c.adapter batch).Keeps SamePlans := by
  refine keeps_deleteBatch (BlobStorage.Store.keeps_deleteMany fun targets _ => ?_)
  exact Store.keeps_deleteMany (fun p key => samePlans_guardOf c.plans p key)
    fun i _ => samePlans_attempt _ _

/-- Batches that were carried out have removed some of their targets, and all where none failed. -/
theorem removes_of_carried (h : Queue.Carried (deleteBatch c.adapter) w runs w')
    (aimed : ∀ t ∈ runs.flatMap (·.1), ∃ i, t = named i) (tidy : w.remote.Tidy) :
    Removes c.store.bucket (runs.flatMap (·.1)) (∀ r ∈ runs, r.2 = none) w.remote w'.remote := by
  induction h with
  | nil w => exact (Removes.nil tidy _).imp fun _ => trivial
  | @step w w₁ w' batch outcome runs ran later ih =>
      have same := unit_of_deleteBatch ran
      rw [List.flatMap_cons] at aimed ⊢
      obtain ⟨_, one⟩ := removes_deleteBatch (harmless_guardOf c.plans)
        (fun t ht => aimed t (List.mem_append_left _ (same ▸ ht))) tidy ran
      rw [same]
      refine (one.append (ih (fun t ht => aimed t (List.mem_append_right _ ht)) one.tidy)).imp ?_
      intro fine
      exact ⟨fine outcome (List.mem_cons_self ..), fun r hr => fine r (List.mem_cons_of_mem _ hr)⟩

end Carried

/-- What becomes of the batches of a deletion while its pages are fetched: they are deleted one after the
other, each with its failure, if it failed. -/
inductive Attempted (c : Caller) (w : World Backend) : List BatchOutcome → World Backend → Prop
  | start : Attempted c w [] w
  | fetched {runs : List BatchOutcome} {w₁ : World Backend} : Attempted c w runs w₁ →
      Attempted c w runs ((guardOf c.plans .listPage none).runFrom w₁).2
  | tried {runs : List BatchOutcome} {batch : List Target} {result : Except Failure Unit}
      {w₁ w₂ : World Backend} : Attempted c w runs w₁ →
      (BlobStorage.Store.deleteMany c.adapter batch).runFrom w₁ = (result, w₂) →
      Attempted c w (runs ++ [(batch, failureOf result)]) w₂

section Attempted
variable {c : Caller} {w w₁ w' : World Backend} {runs more : List BatchOutcome}

theorem Attempted.carried (h : Attempted c w runs w₁)
    (ran : Queue.Carried (deleteBatch c.adapter) w₁ more w') : Attempted c w (runs ++ more) w' := by
  induction ran generalizing runs with
  | nil w =>
      rw [List.append_nil]
      exact h
  | @step w₁ w₂ w' batch outcome more ran _ ih =>
      rcases tried : (BlobStorage.Store.deleteMany c.adapter batch).runFrom w₁ with ⟨result, w₃⟩
      cases ran.symm.trans (runFrom_deleteBatch tried)
      have grown := ih (h.tried tried)
      rwa [List.append_assoc] at grown

theorem Attempted.samePlans (h : Attempted c w runs w') : SamePlans w w' := by
  induction h with
  | start => exact Std.Refl.refl w
  | fetched _ ih => exact IsTrans.trans _ _ _ ih (samePlans_guardOf c.plans .listPage none _)
  | @tried _ batch _ w₁ _ _ ran ih =>
      have kept := samePlans_deleteBatch c batch w₁
      rw [runFrom_deleteBatch ran] at kept
      exact IsTrans.trans _ _ _ ih kept

theorem Attempted.removes (h : Attempted c w runs w')
    (aimed : ∀ t ∈ runs.flatMap (·.1), ∃ i, t = named i) (tidy : w.remote.Tidy) :
    Removes c.store.bucket (runs.flatMap (·.1)) (∀ r ∈ runs, r.2 = none) w.remote w'.remote := by
  induction h with
  | start => exact (Removes.nil tidy _).imp fun _ => trivial
  | fetched _ ih =>
      rw [remote_guardOf]
      exact ih aimed
  | tried _ ran ih =>
      rw [List.flatMap_append] at aimed ⊢
      have before := ih fun t ht => aimed t (List.mem_append_left _ ht)
      have later := removes_of_carried (.step (runFrom_deleteBatch ran) (.nil _))
        (fun t ht => aimed t (List.mem_append_right _ ht)) before.tidy
      refine (before.append later).imp fun fine => ⟨?_, ?_⟩
      · exact fun r hr => fine r (List.mem_append_left _ hr)
      · exact fun r hr => fine r (List.mem_append_right _ hr)

end Attempted

/-- A deletion under way: some heads were listed, the others remain, and of the batches that the listed
ones fill some have been carried out. -/
structure Underway (c : Caller) (stem : Option String) (w w' : World Backend) (d : Deletion)
    (pages : List Page) (place : Option String) (listed rest : List (String × Version))
    (runs : List BatchOutcome) : Prop where
  progress : Progress c.store stem w.remote pages place w'.remote listed rest
  batched : Batched c.store.deleteLimit.toNat (listed.map aim) d
  attempted : Attempted c w runs w'
  done : d.batches.done.map (·.1) = runs.reverse

section Underway
variable {c : Caller} {stem place : Option String} {w w' : World Backend} {d : Deletion}
  {pages : List Page} {listed rest : List (String × Version)} {runs : List BatchOutcome}

theorem underway_start (tidy : w.remote.Tidy)
    (heads_at : Heads w.remote c.store.bucket (stem.getD "") none rest) :
    Underway c stem w w {} [] none [] rest [] := by
  refine ⟨⟨rfl, heads_at, ?_, tidy, rfl⟩, batched_nil _, .start, rfl⟩
  intro _ hm
  cases hm

theorem Underway.fetched (h : Underway c stem w w' d pages place listed rest runs) :
    Underway c stem w ((guardOf c.plans .listPage none).runFrom w').2 d pages place listed rest
      runs := by
  refine ⟨?_, h.batched, h.attempted.fetched, h.done⟩
  rw [remote_guardOf]
  exact h.progress

/-- The batches that are carried out aim at what was listed. -/
theorem Underway.advance (h : Underway c stem w w' d pages place listed rest runs) (turns : Turns) :
    ∃ batches w'' more,
      (d.batches.advance (deleteBatch c.adapter) turns).runFrom w' = (.ok batches, w'') ∧
      Underway c stem w w'' { d with batches } pages place listed rest (runs ++ more) := by
  obtain ⟨batches, w'', more, ran, advanced, _⟩ :=
    Queue.advance_spec (total_deleteBatch (a := c.adapter)) turns d.batches w'
  have holds := advanced.holds h.batched.batches
  have submitted (t : Target) (ht : t ∈ more.flatMap (·.1)) : t ∈ listed.map aim := by
    obtain ⟨r, hr, ht⟩ := List.mem_flatMap.mp ht
    have unit : r.1 ∈ (cutFull c.store.deleteLimit.toNat (listed.map aim)).1 := by
      refine holds.unit_mem ?_
      rw [advanced.done]
      exact List.mem_append_left _ (List.mem_reverse.mpr hr)
    rw [← flatten_cutFull c.store.deleteLimit.toNat (listed.map aim)]
    exact List.mem_append_left _ (List.mem_flatten.mpr ⟨_, unit, ht⟩)
  obtain ⟨gone, removed, only, _⟩ := removes_of_carried advanced.carried
    (fun t ht => exists_named (submitted t ht)) h.progress.tidy
  refine ⟨batches, w'', more, ran, ?_, ⟨h.batched.pending, holds⟩, h.attempted.carried
    advanced.carried, ?_⟩
  · refine h.progress.meanwhile removed fun i hi => ?_
    rw [h.progress.shown]
    exact submitted _ (only i hi)
  · rw [advanced.done, h.done, List.reverse_append]

/-- The listing of a deletion has ended, and all batches have been submitted. -/
structure Submitted (c : Caller) (w w' : World Backend) (d : Deletion) (units : List (List Target))
    (runs : List BatchOutcome) : Prop where
  holds : d.batches.Holds units
  attempted : Attempted c w runs w'
  done : d.batches.done.map (·.1) = runs.reverse

/-- The batches of a deletion whose listing ended in this way: those of all heads where it came to its
end, and otherwise those that the pages before had filled. -/
def Units (c : Caller) (w : World Backend) (heads : List (String × Version)) (ending : Ending)
    (units : List (List Target)) : Prop :=
  match ending with
  | .complete => w.remote.hasBucket c.store.bucket = true ∧
      units = allBatches c.store.deleteLimit.toNat (heads.map aim)
  | .failed _ => ¬ (c.Spared .listPage w ∧ w.remote.hasBucket c.store.bucket = true) ∧
      ∃ listed, listed <+: heads ∧ units = (cutFull c.store.deleteLimit.toNat (listed.map aim)).1
  | .cut => False

/-- Enough pages are fetched, however the batches are carried out meanwhile. -/
theorem runFrom_deletePages (positive : c.store.pageSize ≠ some 0) (pace : Pace) {bound : Nat}
    (number : Nat) (keyed : ∀ r ∈ rest, r.1 ≠ "") (enough : rest.length < bound)
    (h : Underway c stem w w' d pages place listed rest runs) :
    ∃ d' ending w'' units runs',
      (deletePages c.adapter { stem } pace bound number (place.map .known) d).runFrom w' =
        (.ok (d', ending), w'') ∧
      Submitted c w w'' d' units runs' ∧ Units c w (listed ++ rest) ending units := by
  induction bound generalizing number place w' d pages listed rest runs with
  | zero => exact absurd enough (Nat.not_lt_zero _)
  | succ bound ih =>
      have fetched := h.fetched
      obtain failed | ⟨bucket, found, ran⟩ :=
        runFrom_fetch c.store { stem } place (harmless_guardOf c.plans) (w := w') rfl
          fun _ is => nomatch is
      · obtain ⟨f, ran, reason⟩ := failed
        refine ⟨d, .failed f, _, _, runs, runFrom_deletePages_failed ran,
          ⟨h.batched.batches, fetched.attempted, h.done⟩, ?_, listed, List.prefix_append .., rfl⟩
        intro ⟨spared, there⟩
        have free : c.Spared .listPage w' := fun store planned =>
          h.attempted.samePlans.spares (spared store planned)
        have missing := reason (by rw [runFrom_guardOf free])
        rw [← h.progress.there, Backend.hasBucket, Table.contains, missing] at there
        cases there
      · obtain ⟨here, more, rfl, shown, last | next⟩ := h.progress.page found positive keyed
        · obtain ⟨ends, rfl⟩ := last
          have batched := h.batched.add (here.map aim)
          rw [← List.map_append, ← shown] at batched
          refine ⟨_, .complete, _, _, runs, runFrom_deletePages_last ran ends,
            ⟨batched.close, fetched.attempted, h.done⟩, ?_, ?_⟩
          · rw [← h.progress.there, Backend.hasBucket, Table.contains, found]
            rfl
          · rw [List.append_nil]
        · obtain ⟨later, follows, onward, less⟩ := next
          have batched := h.batched.add (here.map aim)
          rw [← List.map_append, ← shown] at batched
          rw [← remote_guardOf c.plans .listPage none w'] at onward
          have grown : Underway c stem w _ _ _ (some later) (listed ++ here) more runs :=
            ⟨onward, batched, fetched.attempted, h.done⟩
          obtain ⟨batches, w₂, ranNow, advanced, underway⟩ := grown.advance (pace number _)
          obtain ⟨d', ending, w'', units, runs', ranOn, submitted, reached⟩ :=
            ih (number + 1) (fun r hr => keyed r (List.mem_append_right _ hr)) (by omega) underway
          refine ⟨d', ending, w'', units, runs', ?_, submitted, ?_⟩
          · exact (runFrom_deletePages_next ran follows advanced).trans ranOn
          · rw [List.append_assoc] at reached
            exact reached

end Underway

section Delete
variable {c : Caller} {stem : Option String} {w : World Backend} {heads : List (String × Version)}
  (tidy : w.remote.Tidy) (heads_at : Heads w.remote c.store.bucket (stem.getD "") none heads)
include tidy heads_at

theorem runFrom_delete (positive : c.store.pageSize ≠ some 0) (keyed : ∀ h ∈ heads, h.1 ≠ "")
    (style : CallStyle) (pace : Pace) (turns : Turns) :
    ∃ ending units outcomes runs w₁, Units c w heads ending units ∧ outcomes.map (·.1) = units ∧
      runs.Perm outcomes ∧ Attempted c w runs w₁ ∧
      match ending with
      | .failed f => (Directory.deleteIn style c.adapter stem pace turns).runFrom w =
          (.error (style.hand f), w₁)
      | _ => ∃ d w', (Directory.deleteIn style c.adapter stem pace turns).runFrom w = (.ok d, w') ∧
          w'.remote = w₁.remote ∧ d.deleted = deletedIn outcomes ∧
          d.failed.map (·.targets) = (failing outcomes).map (·.1) := by
  obtain ⟨d, ending, w₁, units, runs, listed, submitted, reached⟩ :=
    runFrom_deletePages positive pace 1 keyed (length_lt_pageBound tidy heads_at)
      (underway_start tidy heads_at)
  obtain ⟨batches, w₂, more, ran, advanced, finished⟩ :=
    Queue.finish_spec (total_deleteBatch (a := c.adapter)) turns d.batches w₁
  obtain ⟨told, perm⟩ := Queue.results_of_finished (advanced.holds submitted.holds) finished
  rw [advanced.done, submitted.done, ← List.reverse_append] at perm
  have attempted := runFrom_attempts listed ran
  refine ⟨ending, units, batches.results, runs ++ more, w₂, reached, told,
    (perm.trans (List.reverse_perm _)).symm, submitted.attempted.carried advanced.carried, ?_⟩
  rw [deleteIn_eq]
  cases ending with
  | cut => exact reached.elim
  | failed f => exact Action.runFrom_bind_ok attempted _
  | complete =>
      obtain ⟨d', w', accounted, counted, named⟩ :=
        accounting_spec (a := c.adapter) style batches.results w₂
      refine ⟨d', w', (Action.runFrom_bind_ok attempted _).trans accounted, ?_, counted, named⟩
      have same := keeps_accounting (readsQuietly c).classify style batches.results w₂
      rw [accounted] at same
      exact same

end Delete
end BlobStorage.Memory
