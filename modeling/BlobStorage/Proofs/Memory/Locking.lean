import BlobStorage.Proofs.Memory.SingleDeletes
import BlobStorage.Proofs.Memory.Versions

/-!
Locks over whole runs. A version that is retained for compliance stays as it is until its time has come,
and one under a legal hold until the hold is released, whatever is called meanwhile; and a single delete
that is to remove a locked version removes none.
-/
namespace BlobStorage.Memory

section Chain
variable {bucket key : String} {held : Version → Prop}

/-- What keeps a version locked keeps it through a chain of changes. -/
theorem Backend.Proceeds.endured {s t : Backend} {allowed : Backend → Change → Prop}
    (h : Backend.Proceeds allowed s t) (sound : s.Sound)
    (checked : ∀ b c, allowed b c → c.Checked) (still : ∀ b now, ¬ allowed b (.setClock now))
    (stands : ∀ b, ¬ allowed b (.deleteBucket bucket))
    (locked : ∀ u, held u → u.isLocked s.now = true)
    (kept : ∀ b c v u, allowed b c → held v → Backend.Endured b bucket key c v u → held u)
    {v : Version} (hv : v ∈ s.versionsAt bucket key) (now_held : held v) :
    t.now = s.now ∧ ∃ u ∈ t.versionsAt bucket key, u.bare = v.bare ∧ held u := by
  induction h with
  | refl => exact ⟨rfl, v, hv, rfl, now_held⟩
  | @tail t t' chain made ih =>
      obtain ⟨same, u, hu, bare, still_held⟩ := ih
      obtain ⟨c, permitted, made⟩ := made
      have sound' := sound.evolves (Backend.Proceeds.mono checked chain)
      obtain ⟨u', hu', endured⟩ := Backend.endures_of_apply sound' made hu
        (fun _ _ => by rw [same]; exact locked u still_held)
        (fun is => stands t (is ▸ permitted))
      refine ⟨?_, u', hu', endured.bare.trans bare, kept t c u u' permitted still_held endured⟩
      refine (Backend.now_of_apply made ?_).trans same
      rintro now rfl
      exact still t now permitted

theorem eq_of_makes_setClock {call : Call} {b : Backend} {now : Moment}
    (made : call.Makes b (.setClock now)) : call = .setClock now := by
  cases call with
  | perform => cases made
  | _ => simp_all [Call.Makes]

theorem eq_of_makes_deleteBucket {call : Call} {b : Backend}
    (made : call.Makes b (.deleteBucket bucket)) : call = .deleteBucket bucket := by
  cases call with
  | perform => cases made
  | _ => simp_all [Call.Makes]

theorem endured_call {call : Call} {w : World Backend} (sound : w.remote.Sound)
    (stands : call ≠ .deleteBucket bucket)
    (locked : ∀ u, held u → u.isLocked w.remote.now = true)
    (kept : ∀ b c v u, call.Makes b c → held v → Backend.Endured b bucket key c v u → held u)
    {v : Version} (hv : v ∈ w.remote.versionsAt bucket key) (now_held : held v) :
    ∃ u ∈ (call.run.runFrom w).2.remote.versionsAt bucket key, u.bare = v.bare ∧ held u := by
  by_cases clock : ∃ now, call = .setClock now
  · obtain ⟨now, rfl⟩ := clock
    exact ⟨v, hv, rfl, now_held⟩
  · refine ((makes_call call w).endured sound (fun _ _ made => (Call.kind_of_makes made).1) ?_ ?_
      locked kept hv now_held).2
    · exact fun b now made => clock ⟨now, eq_of_makes_setClock made⟩
    · exact fun b made => stands (eq_of_makes_deleteBucket made)

end Chain

/-- No call of a stretch of a run removes the bucket. -/
def Stands (calls : List Call) (bucket : String) (i j : Nat) : Prop :=
  ∀ k, i ≤ k → k < j → calls[k]? ≠ some (.deleteBucket bucket)

/-- The clock does not go back on a stretch of a run. -/
def Forward (w : World Backend) (calls : List Call) (i j : Nat) : Prop :=
  ∀ k l, i ≤ k → k ≤ l → l ≤ j →
    (moment w calls k).now.universal ≤ (moment w calls l).now.universal

/-- The call releases the legal hold of the version, and succeeds. -/
def Releases (w : World Backend) (calls : List Call) (k : Nat) (bucket key : String)
    (v : Version) : Prop :=
  ∃ (c : Caller) (i : Identifier) (x : Answer) (w' : World Backend) (u : Version),
    calls[k]? = some (.perform c (.setLegalHold i false)) ∧ c.store.bucket = bucket ∧
    i.key = key ∧
    (Call.perform c (.setLegalHold i false)).run.runFrom (after w (calls.take k)) = (.ok x, w') ∧
    Version.chosen? ((moment w calls k).versionsAt bucket key) i.version = some u ∧ u.bare = v.bare

/-- What locks do over a run. -/
structure LockLaws (w : World Backend) (calls : List Call) : Prop where
  /-- An upload that succeeds writes its version under the lock that was asked for. -/
  locked : ∀ i (c : Caller) request source x w',
    calls[i]? = some (.perform c (.upload request source)) →
    (Call.perform c (.upload request source)).run.runFrom (after w (calls.take i)) = (.ok x, w') →
    ∃ v ∈ (moment w calls (i + 1)).versionsAt c.store.bucket request.key,
      written x = some (.known v.id) ∧
      v.retention = request.lock.map (fun l => ⟨l.mode, l.retainUntil⟩) ∧
      v.legalHold = (request.lock.map (·.legalHold)).getD false
  /-- Before its time has come, a version that is retained for compliance is there, and so retained. -/
  compliant : ∀ i j bucket key v T, i ≤ j → Stands calls bucket i j → Forward w calls i j →
    v ∈ (moment w calls i).versionsAt bucket key →
    v.retention = some ⟨some .compliance, some T⟩ →
    (moment w calls j).now.universal < T.universal →
    ∃ u ∈ (moment w calls j).versionsAt bucket key, u.bare = v.bare ∧ u.retention = v.retention
  /-- A version under a legal hold is there, and under the hold, until the hold is released. -/
  held : ∀ i j bucket key v, i ≤ j → Stands calls bucket i j →
    v ∈ (moment w calls i).versionsAt bucket key → v.legalHold = true →
    (∃ u ∈ (moment w calls j).versionsAt bucket key, u.bare = v.bare ∧ u.legalHold = true) ∨
      ∃ k, i ≤ k ∧ k < j ∧ Releases w calls k bucket key v
  /-- Whatever a call deletes, it deletes by single deletes that it may try. -/
  tried : ∀ k (c : Caller) command, calls[k]? = some (.perform c command) →
    deletes command = true → ∃ is : List Identifier, (∀ i ∈ is, mayTry command i) ∧
      moment w calls (k + 1) = (moment w calls k).tryDeletes c.store.bucket is
  /-- A single delete that is to remove a locked version changes nothing. -/
  refused : ∀ (s : Backend) bucket (i : Identifier), ∀ v ∈ s.versionsAt bucket i.key,
    v.isTarget i.version = true → v.isLocked s.now = true → s.tryDelete bucket i = s
  /-- So a version stays if all that may be tried against it is to remove a locked one as well. -/
  spared : ∀ k (c : Caller) command key, calls[k]? = some (.perform c command) →
    deletes command = true → ∀ v ∈ (moment w calls k).versionsAt c.store.bucket key,
    (∀ i, mayTry command i → i.key = key → v.isTarget i.version = true →
      ∃ u ∈ (moment w calls k).versionsAt c.store.bucket key,
        u.isTarget i.version = true ∧ u.isLocked (moment w calls k).now = true) →
    v ∈ (moment w calls (k + 1)).versionsAt c.store.bucket key

section Calls
variable {bucket key : String} {v : Version}

theorem compliant_of_endured {call : Call} {b : Backend} {c : Change} {v u : Version} {r : Retention}
    (fixed : r.mode = some .compliance) (made : call.Makes b c) (h : v.retention = some r)
    (endured : Backend.Endured b bucket key c v u) : u.retention = some r := by
  rcases endured.retention with same | ⟨id, r', rfl, _, chosen⟩
  · exact same.trans h
  · cases call with
    | perform caller command =>
        cases made with
        | setRetention retainUntil chosen' governed =>
            cases chosen.symm.trans chosen'
            rw [h] at governed
            cases fixed.symm.trans governed
    | _ => simp [Call.Makes] at made

theorem held_of_endured {call : Call} {b : Backend} {c : Change} {v u : Version}
    (other : ∀ caller i, call ≠ .perform caller (.setLegalHold i false)) (made : call.Makes b c)
    (h : v.legalHold = true) (endured : Backend.Endured b bucket key c v u) :
    u.legalHold = true := by
  rcases endured.legalHold with same | ⟨id, rfl, _⟩
  · exact same.trans h
  · cases call with
    | perform caller command =>
        generalize shown : u.legalHold = hold at made
        cases made with
        | setLegalHold i =>
            cases hold with
            | true => rfl
            | false => exact absurd rfl (other caller i)
    | _ => simp [Call.Makes] at made

theorem locked_of_compliant {T now : Moment} (h : v.retention = some ⟨some .compliance, some T⟩)
    (early : now.universal < T.universal) : v.isLocked now = true := by
  simp [Version.isLocked, h, early]

theorem locked_of_held {now : Moment} (h : v.legalHold = true) : v.isLocked now = true := by
  simp [Version.isLocked, h]

end Calls

section Run
variable {w : World Backend} (sound : w.remote.Sound) (calls : List Call) {bucket key : String}

theorem moment_of_none {k : Nat} (none : calls[k]? = none) :
    moment w calls (k + 1) = moment w calls k := by
  have short := List.getElem?_eq_none_iff.mp none
  unfold moment
  rw [List.take_of_length_le short, List.take_of_length_le (Nat.le_succ_of_le short)]

include sound

theorem compliant_of_run {i j : Nat} (le : i ≤ j) (stands : Stands calls bucket i j) {v : Version}
    {T : Moment} (hv : v ∈ (moment w calls i).versionsAt bucket key)
    (retained : v.retention = some ⟨some .compliance, some T⟩)
    (early : ∀ k, i ≤ k → k < j → (moment w calls k).now.universal < T.universal) :
    ∃ u ∈ (moment w calls j).versionsAt bucket key, u.bare = v.bare ∧ u.retention = v.retention := by
  induction j, le using Nat.le_induction with
  | base => exact ⟨v, hv, rfl, rfl⟩
  | succ j le ih =>
      obtain ⟨u, hu, bare, same⟩ := ih (fun k from_i to_j => stands k from_i (Nat.lt_succ_of_lt to_j))
        fun k from_i to_j => early k from_i (Nat.lt_succ_of_lt to_j)
      cases here : calls[j]? with
      | none =>
          rw [moment_of_none calls here]
          exact ⟨u, hu, bare, same⟩
      | some call =>
          have stays : call ≠ .deleteBucket bucket := by
            rintro rfl
            exact stands j le (Nat.lt_succ_self j) here
          rw [moment_succ calls here]
          obtain ⟨u', hu', bare', same'⟩ := endured_call (w := after w (calls.take j))
            (sound_moment sound calls j) stays
            (fun u held => locked_of_compliant held (early j le (Nat.lt_succ_self j)))
            (fun b c v u made held endured => compliant_of_endured rfl made held endured)
            hu (same.trans retained)
          exact ⟨u', hu', bare'.trans bare, same'.trans retained.symm⟩

/-- One call leaves the hold, or releases it. -/
theorem held_by_call {k : Nat} {call : Call} (here : calls[k]? = some call)
    (stands : call ≠ .deleteBucket bucket) {v : Version}
    (hv : v ∈ (moment w calls k).versionsAt bucket key) (held : v.legalHold = true) :
    (∃ u ∈ (moment w calls (k + 1)).versionsAt bucket key, u.bare = v.bare ∧ u.legalHold = true) ∨
      Releases w calls k bucket key v := by
  have sound_now := sound_moment sound calls k
  rw [moment_succ calls here]
  by_cases release : ∃ c i, call = .perform c (.setLegalHold i false)
  · obtain ⟨c, i, rfl⟩ := release
    have atomic : Atomic (fun b _ b' => b.setLegalHold c.store.bucket i.key i.version false = .ok b')
        (Call.perform c (.setLegalHold i false)).run :=
      BucketClient.atomic_call (readsQuietly c).classify _ <|
        (BlobStorage.Store.atomic_setLegalHold
          (Store.atomic_putLegalHold (harmless_guardOf c.plans) i false)).answer fun _ _ _ h => h
    rcases run : (Call.perform c (.setLegalHold i false)).run.runFrom (after w (calls.take k))
      with ⟨e | x, w'⟩
    · left
      rw [atomic.of_error run]
      exact ⟨v, hv, rfl, held⟩
    · rcases Backend.mem_of_amend sound_now (atomic.of_ok run) hv with same | ⟨rfl, rfl, chosen, _⟩
      · exact .inl ⟨v, same, rfl, held⟩
      · exact .inr ⟨c, i, x, w', v, here, rfl, rfl, run, chosen, rfl⟩
  · left
    exact endured_call (w := after w (calls.take k)) sound_now stands (fun u => locked_of_held)
      (fun b c v u => held_of_endured fun caller i is => release ⟨caller, i, is⟩) hv held

theorem held_of_run {i j : Nat} (le : i ≤ j) (stands : Stands calls bucket i j) {v : Version}
    (hv : v ∈ (moment w calls i).versionsAt bucket key) (held : v.legalHold = true) :
    (∃ u ∈ (moment w calls j).versionsAt bucket key, u.bare = v.bare ∧ u.legalHold = true) ∨
      ∃ k, i ≤ k ∧ k < j ∧ Releases w calls k bucket key v := by
  induction j, le using Nat.le_induction with
  | base => exact .inl ⟨v, hv, rfl, held⟩
  | succ j le ih =>
      obtain ⟨u, hu, bare, now_held⟩ | ⟨k, from_i, to_j, released⟩ :=
        ih fun k from_i to_j => stands k from_i (Nat.lt_succ_of_lt to_j)
      · cases here : calls[j]? with
        | none =>
            rw [moment_of_none calls here]
            exact .inl ⟨u, hu, bare, now_held⟩
        | some call =>
            have stays : call ≠ .deleteBucket bucket := by
              rintro rfl
              exact stands j le (Nat.lt_succ_self j) here
            obtain ⟨u', hu', bare', held'⟩ | ⟨c, i', x, w', u', made, hb, hk, run, chosen, bare'⟩ :=
              held_by_call sound calls here stays hu now_held
            · exact .inl ⟨u', hu', bare'.trans bare, held'⟩
            · exact .inr ⟨j, le, Nat.lt_succ_self j, c, i', x, w', u', made, hb, hk, run, chosen,
                bare'.trans bare⟩
      · exact .inr ⟨k, from_i, Nat.lt_succ_of_lt to_j, released⟩

omit sound in
theorem tried_by_call {k : Nat} {c : Caller} {command : Command}
    (here : calls[k]? = some (.perform c command)) (deleting : deletes command = true) :
    ∃ is : List Identifier, (∀ i ∈ is, mayTry command i) ∧
      moment w calls (k + 1) = (moment w calls k).tryDeletes c.store.bucket is := by
  rw [moment_succ calls here]
  exact tries_call deleting (after w (calls.take k))

end Run

theorem locks_of_run (signingKey : Content) (now : Moment) (files : FileTree)
    (interceptions : List Interception) (calls : List Call) :
    LockLaws { remote := Backend.fresh signingKey now, files, interceptions } calls := by
  have sound := Backend.sound_fresh signingKey now
  refine ⟨?_, ?_, ?_, ?_, ?_, ?_⟩
  · intro i c request source x w' here run
    have atomic : Atomic (fun b x b' => b.Sound → ∃ v ∈ b'.versionsAt c.store.bucket request.key,
        written x = some (.known v.id) ∧
        v.retention = request.lock.map (fun l => ⟨l.mode, l.retainUntil⟩) ∧
        v.legalHold = (request.lock.map (·.legalHold)).getD false)
        (Call.perform c (.upload request source)).run := by
      refine BucketClient.atomic_call (readsQuietly c).classify _
        ((atomic_upload (harmless_guardOf c.plans) request source).map ?_)
      rintro b x b' ⟨_, content, v, stored, named⟩ sound
      have draft := Backend.toDraft_of_store stored
      refine ⟨v, ?_, named, congrArg Draft.retention draft, congrArg Draft.legalHold draft⟩
      rw [(Backend.appended_of_store sound.tidy stored).rewritten, if_pos ⟨rfl, rfl⟩]
      exact List.mem_append_right _ (List.mem_singleton_self v)
    have done := atomic.of_ok run (sound_moment sound calls i)
    rw [moment_succ calls here, run]
    exact done
  · intro i j bucket key v T le stands forward hv retained early
    refine compliant_of_run sound calls le stands hv retained fun k from_i to_j => ?_
    exact (forward k j from_i (Nat.le_of_lt to_j) (Nat.le_refl j)).trans_lt early
  · intro i j bucket key v le stands hv held
    exact held_of_run sound calls le stands hv held
  · intro k c command here deleting
    exact tried_by_call calls here deleting
  · intro s bucket i v hv target locked
    exact Backend.tryDelete_of_locked hv target locked
  · intro k c command key here deleting v hv shielded
    obtain ⟨is, may, same⟩ := tried_by_call calls here deleting
    rw [same]
    refine Backend.mem_tryDeletes (sound_moment sound calls k).tidy is hv fun i hi => ?_
    exact shielded i (may i hi)

end BlobStorage.Memory
