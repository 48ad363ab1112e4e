import BlobStorage.Proofs.Action
import BlobStorage.Proofs.Sorting
import BlobStorage.Queue
import Mathlib.Data.Nat.Basic

/-!
What a queue does, whatever the turns. Carrying out units keeps every relation that each unit keeps,
and every unit that was submitted is carried out once: which number a unit has never changes, so its
result is told in the place in which it was submitted.
-/
namespace BlobStorage.Queue
variable {σ α β : Type}

section Keeps
variable {R : σ → σ → Prop} [Std.Refl R] [IsTrans σ R] {run : α → Action σ β}

theorem perm_pick (n : Nat) (first : α) (rest : List α) :
    ((Turns.pick n first rest).1 :: (Turns.pick n first rest).2).Perm (first :: rest) := by
  induction n generalizing first rest with
  | zero => cases rest <;> exact .refl _
  | succ n ih =>
      cases rest with
      | nil => exact .refl _
      | cons second rest =>
          refine (List.Perm.swap ..).trans ?_
          exact (ih second rest).cons first

/-- Where all units that wait are of a kind, those are that are carried out, and those that are left. -/
theorem gives_advance {kind : α → Prop} (h : ∀ unit, kind unit → (run unit).Keeps R) (turns : Turns)
    {q : Queue α β} (waiting : ∀ u ∈ q.waiting, kind u.1) :
    (advance run turns q).Gives R fun q => ∀ u ∈ q.waiting, kind u.1 := by
  induction turns generalizing q with
  | nil => exact Action.Gives.pure waiting
  | cons n turns ih =>
      obtain ⟨submitted, units, done⟩ := q
      cases units with
      | nil => exact Action.Gives.pure waiting
      | cons first rest =>
          have picked := perm_pick n first rest
          have each (u : α × Nat) (hu : u ∈ (Turns.pick n first rest).1 ::
              (Turns.pick n first rest).2) : kind u.1 := waiting u (picked.mem_iff.mp hu)
          obtain ⟨chosen, left⟩ := List.forall_mem_cons.mp each
          refine Action.Gives.bind (Action.Gives.of_keeps (h _ chosen) fun _ => trivial)
            fun result _ => ih left

theorem keeps_finish {kind : α → Prop} (h : ∀ unit, kind unit → (run unit).Keeps R) (turns : Turns)
    {q : Queue α β} (waiting : ∀ u ∈ q.waiting, kind u.1) : (finish run turns q).Keeps R :=
  (gives_advance h turns waiting).keeps_bind fun _ left => (gives_advance h _ left).keeps

end Keeps

/-- Units are carried out one after the other, each with a result. -/
inductive Carried (run : α → Action σ β) : σ → List β → σ → Prop
  | nil (s : σ) : Carried run s [] s
  | step {s t u : σ} {unit : α} {result : β} {results : List β} :
      (run unit).runFrom s = (.ok result, t) → Carried run t results u →
      Carried run s (result :: results) u

theorem Carried.append {run : α → Action σ β} {s t u : σ}
    {first second : List β} (h : Carried run s first t)
    (k : Carried run t second u) : Carried run s (first ++ second) u := by
  induction h with
  | nil s => exact k
  | step done _ ih => exact .step done (ih k)

theorem Carried.keeps {R : σ → σ → Prop} [Std.Refl R] [IsTrans σ R] {run : α → Action σ β}
    (each : ∀ unit, (run unit).Keeps R) {s t : σ} {results : List β} (h : Carried run s results t) :
    R s t := by
  induction h with
  | nil s => exact Std.Refl.refl s
  | @step s t u unit result results ran _ ih =>
      have one := each unit s
      rw [ran] at one
      exact IsTrans.trans _ _ _ one ih

section Numbers
variable {γ : Type}

def numbered (q : Queue α (α × γ)) : List (α × Nat) :=
  q.waiting ++ q.done.map fun entry => (entry.1.1, entry.2)

/-- The queue has these units, in the order in which they were submitted. -/
structure Holds (q : Queue α (α × γ)) (units : List α) : Prop where
  submitted : q.submitted = units.length
  numbered : q.numbered.Perm units.zipIdx

theorem holds_nil : Holds ({} : Queue α (α × γ)) [] := ⟨rfl, .nil⟩

theorem Holds.submit {q : Queue α (α × γ)} {units : List α} (h : q.Holds units)
    (more : List α) : (q.submit more).Holds (units ++ more) := by
  refine ⟨by simp [Queue.submit, h.submitted], ?_⟩
  have swapped : (q.submit more).numbered.Perm (q.numbered ++ more.zipIdx q.submitted) := by
    simp only [Queue.submit, Queue.numbered, List.append_assoc]
    exact List.Perm.append_left _ List.perm_append_comm
  rw [List.zipIdx_append, Nat.zero_add, ← h.submitted]
  exact swapped.trans (h.numbered.append_right _)

theorem Holds.unit_mem {q : Queue α (α × γ)} {units : List α} (h : q.Holds units) {r : α × γ}
    (hr : r ∈ q.done.map (·.1)) : r.1 ∈ units := by
  obtain ⟨entry, listed, rfl⟩ := List.mem_map.mp hr
  have numbered : (entry.1.1, entry.2) ∈ q.numbered :=
    List.mem_append_right _ (List.mem_map_of_mem listed)
  exact List.fst_mem_of_mem_zipIdx (h.numbered.mem_iff.mp numbered)

/-- Carrying out units leads from one queue and state to another. -/
structure Advanced (run : α → Action σ (α × γ)) (q : Queue α (α × γ))
    (s : σ) (results : List (α × γ)) (q' : Queue α (α × γ)) (t : σ) : Prop where
  carried : Carried run s results t
  done : q'.done.map (·.1) = results.reverse ++ q.done.map (·.1)
  submitted : q'.submitted = q.submitted
  numbered : q'.numbered.Perm q.numbered

theorem Advanced.trans {run : α → Action σ (α × γ)}
    {q q' q'' : Queue α (α × γ)} {s t u : σ} {first second : List (α × γ)}
    (h : Advanced run q s first q' t) (k : Advanced run q' t second q'' u) :
    Advanced run q s (first ++ second) q'' u where
  carried := h.carried.append k.carried
  done := by simp [k.done, h.done]
  submitted := k.submitted.trans h.submitted
  numbered := k.numbered.trans h.numbered

theorem Advanced.holds {run : α → Action σ (α × γ)} {q q' : Queue α (α × γ)} {s t : σ}
    {results : List (α × γ)} {units : List α} (h : Advanced run q s results q' t)
    (k : q.Holds units) : q'.Holds units :=
  ⟨h.submitted.trans k.submitted, h.numbered.trans k.numbered⟩

section Total
variable {run : α → Action σ (α × γ)}
  (total : ∀ unit s, ∃ x t, (run unit).runFrom s = (.ok (unit, x), t))
include total

/-- One unit is carried out at each turn, as long as units wait. -/
theorem advance_spec (turns : Turns) (q : Queue α (α × γ)) (s : σ) :
    ∃ q' t results, (advance run turns q).runFrom s = (.ok q', t) ∧
      Advanced run q s results q' t ∧
      q'.waiting.length = q.waiting.length - turns.length := by
  induction turns generalizing q s with
  | nil => exact ⟨q, s, [], rfl, ⟨.nil s, rfl, rfl, .refl _⟩, rfl⟩
  | cons n turns ih =>
      obtain ⟨submitted, waiting, done⟩ := q
      cases waiting with
      | nil => exact ⟨_, s, [], rfl, ⟨.nil s, rfl, rfl, .refl _⟩, by simp⟩
      | cons first rest =>
          have picked := perm_pick n first rest
          rcases chosen : Turns.pick n first rest with ⟨⟨unit, number⟩, waiting⟩
          rw [chosen] at picked
          obtain ⟨x, s', ran⟩ := total unit s
          obtain ⟨q', t, results, later, advanced, left⟩ :=
            ih ⟨submitted, waiting, ((unit, x), number) :: done⟩ s'
          refine ⟨q', t, (unit, x) :: results, ?_, ⟨.step ran advanced.carried, ?_,
            advanced.submitted, ?_⟩, ?_⟩
          · rw [advance]
            dsimp only
            rw [chosen, Action.runFrom_bind_ok ran]
            exact later
          · simp [advanced.done]
          · refine advanced.numbered.trans ?_
            simp only [Queue.numbered, List.map_cons]
            refine List.perm_middle.trans ?_
            exact picked.append_right _
          · have same := picked.length_eq
            simp only [List.length_cons] at same left ⊢
            omega

theorem finish_spec (turns : Turns) (q : Queue α (α × γ)) (s : σ) :
    ∃ q' t results, (finish run turns q).runFrom s = (.ok q', t) ∧
      Advanced run q s results q' t ∧ q'.waiting = [] := by
  obtain ⟨q₁, s₁, first, ran, advanced, _⟩ := advance_spec total turns q s
  obtain ⟨q', t, second, later, finished, left⟩ :=
    advance_spec total (Turns.inOrder q₁.waiting.length) q₁ s₁
  refine ⟨q', t, first ++ second, ?_, advanced.trans finished, ?_⟩
  · exact (Action.runFrom_bind_ok ran _).trans later
  · simpa [Turns.inOrder] using left

end Total

/-- Where nothing waits, the results are those of the units in the order in which they were submitted,
whatever the order in which they were carried out. -/
theorem results_of_finished {q : Queue α (α × γ)} {units : List α} (h : q.Holds units)
    (finished : q.waiting = []) :
    q.results.map (·.1) = units ∧ q.results.Perm (q.done.map (·.1)) := by
  have compares : Sorting.Compares (fun entry : α × Nat => entry.2)
      (fun a b => decide (a.2 ≤ b.2)) := fun a b => decide_eq_true_iff
  have ascending : units.zipIdx.Pairwise fun a b => a.2 < b.2 := by
    rw [← List.pairwise_map (f := Prod.snd), List.zipIdx_map_snd]
    exact List.pairwise_lt_range'
  have numbered := h.numbered
  rw [Queue.numbered, finished, List.nil_append] at numbered
  have sorted : (q.done.mergeSort fun a b => decide (a.2 ≤ b.2)).map
      (fun entry => (entry.1.1, entry.2)) = units.zipIdx := by
    refine (List.map_mergeSort (s := fun a b => decide (a.2 ≤ b.2)) ?_).trans
      (Sorting.mergeSort_eq compares numbered.symm ascending)
    exact fun _ _ _ _ => rfl
  constructor
  · have units_back := congrArg (List.map Prod.fst) sorted
    rw [List.zipIdx_map_fst, List.map_map] at units_back
    rw [Queue.results, List.map_map]
    exact units_back
  · exact (List.mergeSort_perm ..).map _

end Numbers

section Maps
variable {γ : Type} (run : α → Action σ β)

def map (g : β → γ) (q : Queue α β) : Queue α γ :=
  { q with done := q.done.map fun entry => (g entry.1, entry.2) }

/-- Nothing that is done depends on the results. -/
theorem runFrom_advance_map (g : β → γ) (turns : Turns) (q : Queue α β) (s : σ) :
    (advance (fun unit => g <$> run unit) turns (q.map g)).runFrom s =
      (map g <$> advance run turns q).runFrom s := by
  induction turns generalizing q s with
  | nil => rfl
  | cons n turns ih =>
      obtain ⟨submitted, waiting, done⟩ := q
      cases waiting with
      | nil => rfl
      | cons first rest =>
          simp only [map, advance, Action.runFrom_map, Action.runFrom_bind]
          rcases (run (Turns.pick n first rest).1.1).runFrom s with ⟨e | result, t⟩
          · rfl
          · exact (ih ⟨submitted, (Turns.pick n first rest).2,
              (result, (Turns.pick n first rest).1.2) :: done⟩ t).trans (Action.runFrom_map ..)

theorem runFrom_finish_map (g : β → γ) (turns : Turns) (q : Queue α β) (s : σ) :
    (finish (fun unit => g <$> run unit) turns (q.map g)).runFrom s =
      (map g <$> finish run turns q).runFrom s := by
  unfold finish
  simp only [Action.runFrom_bind, Action.runFrom_map, runFrom_advance_map]
  rcases (advance run turns q).runFrom s with ⟨e | q, t⟩
  · rfl
  · exact (runFrom_advance_map ..).trans (Action.runFrom_map ..)

theorem results_map (g : β → γ) (q : Queue α β) : (q.map g).results = q.results.map g := by
  unfold results map
  rw [← List.map_mergeSort (r := fun a b : β × Nat => decide (a.2 ≤ b.2)) fun _ _ _ _ => rfl]
  simp

end Maps

section Settled
variable {γ : Type} {run : α → Action σ (α × γ)} {result : α → γ} {Due : α → Prop}
  {Inv : List α → σ → Prop} {q q' : Queue α (α × γ)} {results : List (α × γ)} {units : List α} {s t : σ}

/-- What becomes of each unit that is due is settled, whatever was carried out before it. -/
def Settles (run : α → Action σ (α × γ)) (result : α → γ) (Due : α → Prop)
    (Inv : List α → σ → Prop) : Prop :=
  ∀ done unit s, Due unit → Inv done s →
    ∃ t, (run unit).runFrom s = (.ok (unit, result unit), t) ∧ Inv (unit :: done) t

/-- What is done was done with the results that are settled. -/
structure Told (q : Queue α (α × γ)) (result : α → γ) (Inv : List α → σ → Prop) (s : σ) : Prop where
  told : ∀ r ∈ q.done.map (·.1), r.2 = result r.1
  inv : Inv (q.done.map (·.1.1)) s

theorem Told.of_finished (h : q.Told result Inv s) (holds : q.Holds units) (finished : q.waiting = []) :
    q.results = units.map (fun unit => (unit, result unit)) ∧
      (q.done.map (·.1.1)).Perm units := by
  obtain ⟨own, perm⟩ := results_of_finished holds finished
  constructor
  · rw [← own, List.map_map]
    refine (List.map_congr_left fun r hr => ?_).trans (List.map_id _) |>.symm
    exact Prod.ext rfl (h.told r (perm.mem_iff.mp hr)).symm
  · have units_done := (perm.map (·.1)).symm
    rwa [own, List.map_map] at units_done

section Total
variable (total : ∀ unit s, ∃ x t, (run unit).runFrom s = (.ok (unit, x), t))
  (settles : Settles run result Due Inv)
include total settles

theorem Carried.settled (h : Carried run s results t) (due : ∀ r ∈ results, Due r.1) {done : List α}
    (inv : Inv done s) :
    (∀ r ∈ results, r.2 = result r.1) ∧ Inv ((results.map (·.1)).reverse ++ done) t := by
  induction h generalizing done with
  | nil => exact ⟨fun _ none => (List.not_mem_nil none).elim, inv⟩
  | @step s t u unit one results ran _ ih =>
      obtain ⟨here, later⟩ := List.forall_mem_cons.mp due
      obtain ⟨_, _, own⟩ := total unit s
      cases ran.symm.trans own
      obtain ⟨_, settled, kept⟩ := settles done unit s here inv
      cases ran.symm.trans settled
      obtain ⟨told, all⟩ := ih later kept
      exact ⟨List.forall_mem_cons.mpr ⟨rfl, told⟩, by simpa using all⟩

theorem Advanced.told (h : Advanced run q s results q' t) (holds : q.Holds units)
    (due : ∀ unit ∈ units, Due unit) (k : q.Told result Inv s) : q'.Told result Inv t := by
  have taken (r : α × γ) (hr : r ∈ results) : Due r.1 := by
    refine due r.1 ((h.holds holds).unit_mem ?_)
    rw [h.done]
    exact List.mem_append_left _ (List.mem_reverse.mpr hr)
  obtain ⟨told, inv⟩ := h.carried.settled total settles taken k.inv
  constructor
  · intro r hr
    rw [h.done, List.mem_append, List.mem_reverse] at hr
    exact hr.elim (told r) (k.told r)
  · have done : q'.done.map (·.1.1) = (results.map (·.1)).reverse ++ q.done.map (·.1.1) := by
      have own := congrArg (List.map (·.1)) h.done
      rw [List.map_append, List.map_map, List.map_map, List.map_reverse] at own
      exact own
    rwa [done]

end Total

end Settled

section Labels
variable {run : α → Action σ β}

def labelled (run : α → Action σ β) (unit : α) : Action σ (α × β) :=
  (fun result => (unit, result)) <$> run unit

def plain (q : Queue α (α × β)) : Queue α β := q.map (·.2)

theorem snd_labelled (run : α → Action σ β) : (fun unit => (·.2) <$> labelled run unit) = run := by
  funext unit
  simp [labelled]

/-- Nothing that is done depends on the labels. -/
theorem runFrom_advance_plain (turns : Turns) (q : Queue α (α × β)) (s : σ) :
    (advance run turns q.plain).runFrom s = (plain <$> advance (labelled run) turns q).runFrom s := by
  have labels := runFrom_advance_map (labelled run) (·.2) turns q s
  rw [snd_labelled] at labels
  exact labels

theorem runFrom_finish_plain (turns : Turns) (q : Queue α (α × β)) (s : σ) :
    (finish run turns q.plain).runFrom s = (plain <$> finish (labelled run) turns q).runFrom s := by
  have labels := runFrom_finish_map (labelled run) (·.2) turns q s
  rw [snd_labelled] at labels
  exact labels

theorem results_plain (q : Queue α (α × β)) : q.plain.results = q.results.map (·.2) :=
  results_map _ q

end Labels
end BlobStorage.Queue
