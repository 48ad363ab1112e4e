import BlobStorage.Proofs.Memory.Locking

/-!
Updates of a retention whose two steps are told apart. Other callers may come between the reading of the
present retention and the writing of the new one. A retention for compliance withstands every step but
one: the write of an update that names no version, if the newest version is by then not the one that
was read. An update that names its version writes to the version that it has read.
-/
namespace BlobStorage.Memory

section Change
variable {s t : Backend} {bucket key : String} {v u : Version}

/-- A change sets the retention of the version that it chooses, and leaves all others. -/
theorem Backend.retention_of_apply (sound : s.Sound) {c : Change} (checked : c.Checked)
    (made : c.apply s = .ok t) (hv : v ∈ s.versionsAt bucket key) (hu : u ∈ t.versionsAt bucket key)
    (same : u.number = v.number) :
    u.retention = v.retention ∨
      ∃ id r, c = .setRetention bucket key id r ∧ u.retention = some r ∧
        Version.chosen? (s.versionsAt bucket key) id = some v := by
  have old (there : u ∈ s.versionsAt bucket key) : u.retention = v.retention := by
    obtain ⟨_, _, rfl⟩ := sound.versions.unique there hv same
    rfl
  by_cases deletion : ∃ b k id, c = .delete b k id
  · obtain ⟨b, k, id, rfl⟩ := deletion
    left
    rw [rewritten_of_delete sound.tidy made bucket key] at hu
    split at hu
    · rename_i here
      obtain ⟨rfl, rfl⟩ := here
      exact old (List.mem_of_mem_filter hu)
    · exact old hu
  by_cases removal : c = .deleteBucket bucket
  · subst removal
    cases made
    rw [versionsAt_deleteBucket, if_pos rfl] at hu
    cases hu
  · obtain ⟨x, hx, endured⟩ := endures_of_apply sound made hv
      (fun id is => absurd ⟨bucket, key, id, is⟩ deletion) removal
    have number : u.number = x.number :=
      same.trans (Version.number_of_bare endured.bare).symm
    obtain ⟨_, _, rfl⟩ := (sound.made ⟨c, checked, made⟩).versions.unique hu hx number
    exact endured.retention

theorem eq_of_makes_setRetention {call : Call} {b : Backend} {id : Option String} {r : Retention}
    (made : call.Makes b (.setRetention bucket key id r)) :
    ∃ caller i retainUntil, call = .perform caller (.setRetention i retainUntil) := by
  cases call with
  | perform caller command =>
      cases made
      exact ⟨caller, _, _, rfl⟩
  | _ => simp [Call.Makes] at made

end Change

/-- An update of a retention between its two steps. -/
structure Update where
  caller : Caller
  identifier : Identifier
  mode : RetentionMode
  retainUntil : Option Moment
  /-- The number of the version whose retention was read. -/
  seen : Nat

structure Shared where
  world : World Backend
  updates : List Update

/-- One step of some caller; the write of an update bears its name. The calls of others happen piece by
piece, and their updates are steps of their own. -/
inductive Step : Shared → Option Update → Shared → Prop
  | read {w w' : World Backend} {updates : List Update} {u : Update} {v : Version} :
      (Store.readMode u.caller.adapter u.identifier).runFrom w = (.ok u.mode, w') →
      Version.chosen? (w.remote.versionsAt u.caller.store.bucket u.identifier.key)
        u.identifier.version = some v →
      u.seen = v.number → Step ⟨w, updates⟩ none ⟨w', u :: updates⟩
  | refuse {w w' : World Backend} {updates : List Update} {c : Caller} {i : Identifier} {e : Failure} :
      (Store.readMode c.adapter i).runFrom w = (.error e, w') →
      Step ⟨w, updates⟩ none ⟨w', updates⟩
  | write {w w' : World Backend} {before behind : List Update} {u : Update}
      {outcome : Except Failure Unit} :
      (u.caller.adapter.putRetention u.identifier u.mode u.retainUntil).runFrom w = (outcome, w') →
      Step ⟨w, before ++ u :: behind⟩ (some u) ⟨w', before ++ behind⟩
  | call {w w' : World Backend} {updates : List Update} {call : Call} {c : Change} :
      (∀ caller i retainUntil, call ≠ .perform caller (.setRetention i retainUntil)) →
      call.Makes w.remote c → c.apply w.remote = .ok w'.remote →
      Step ⟨w, updates⟩ none ⟨w', updates⟩
  | surround {w w' : World Backend} {updates : List Update} :
      w'.remote = w.remote → Step ⟨w, updates⟩ none ⟨w', updates⟩

/-- Steps of any callers in any order, of which each write is of an allowed kind. -/
def Interleaved (allowed : Update → Prop) : Shared → Shared → Prop :=
  Relation.ReflTransGen fun s t => ∃ written, Step s written t ∧ ∀ u ∈ written, allowed u

structure Update.Backed (u : Update) (b : Backend) : Prop where
  movable : u.mode = .governance
  issued : u.seen < b.nextNumber
  named : ∀ id ∈ u.identifier.version, id = toString u.seen
  governed : ∀ bucket key, ∀ v ∈ b.versionsAt bucket key, v.number = u.seen →
    v.retention.bind (·.mode) = some .governance

structure Shared.Sound (s : Shared) : Prop where
  remote : s.world.remote.Sound
  backed : ∀ u ∈ s.updates, u.Backed s.world.remote

theorem Shared.sound_fresh (signingKey : Content) (now : Moment) (files : FileTree)
    (interceptions : List Interception) :
    Shared.Sound ⟨{ remote := Backend.fresh signingKey now, files, interceptions }, []⟩ :=
  ⟨Backend.sound_fresh signingKey now, by simp⟩

theorem number_of_chosen {versions : List Version} {id : String} {v : Version}
    (chosen : Version.chosen? versions (some id) = some v) : id = toString v.number := by
  have found := List.find?_some (p := fun v : Version => decide (v.id = id)) chosen
  exact (of_decide_eq_true found).symm

section Steps
variable {s t : Shared} {written : Option Update}

/-- What a step does to the backend: nothing, or one change, and only a write sets a retention. -/
theorem Step.made (step : Step s written t) :
    t.world.remote = s.world.remote ∨
      ∃ c : Change, c.Checked ∧ c.apply s.world.remote = .ok t.world.remote ∧
        ∀ bucket key id r, c = .setRetention bucket key id r → ∃ u ∈ s.updates, written = some u ∧
          bucket = u.caller.store.bucket ∧ key = u.identifier.key ∧ id = u.identifier.version ∧
            r = ⟨u.mode, u.retainUntil⟩ := by
  cases step with
  | read run => exact .inl ((atomic_readMode (harmless_guardOf _) _).of_ok run).1
  | refuse run => exact .inl ((atomic_readMode (harmless_guardOf _) _).of_error run)
  | @write w w' before behind u outcome run =>
      have atomic := Store.atomic_putRetention (s := u.caller.store)
        (harmless_guardOf u.caller.plans) u.identifier u.mode u.retainUntil
      cases outcome with
      | error e => exact .inl (atomic.of_error run)
      | ok x =>
          refine .inr ⟨.setRetention u.caller.store.bucket u.identifier.key u.identifier.version
            ⟨u.mode, u.retainUntil⟩, trivial, atomic.of_ok run, ?_⟩
          rintro _ _ _ _ ⟨⟩
          exact ⟨u, by simp, rfl, rfl, rfl, rfl, rfl⟩
  | call other may made =>
      refine .inr ⟨_, (Call.kind_of_makes may).1, made, ?_⟩
      rintro bucket key id r rfl
      obtain ⟨caller, i, retainUntil, is⟩ := eq_of_makes_setRetention may
      exact absurd is (other caller i retainUntil)
  | surround same => exact .inl same

theorem Update.Backed.apply {u : Update} {b b' : Backend} (backed : u.Backed b) (sound : b.Sound)
    {c : Change} (checked : c.Checked) (made : c.apply b = .ok b')
    (governing : ∀ bucket key id r, c = .setRetention bucket key id r →
      r.mode = some .governance) : u.Backed b' := by
  have grown := Backend.grown_of_apply sound.tidy made
  refine ⟨backed.movable, Nat.lt_of_lt_of_le backed.issued grown.next, backed.named, ?_⟩
  intro bucket key v hv seen
  cases grown.mem hv with
  | inr new => exact absurd backed.issued (Nat.not_lt.mpr (seen ▸ new))
  | inl old =>
      obtain ⟨x, hx, bare⟩ := old
      have number := Version.number_of_bare bare
      rcases Backend.retention_of_apply sound checked made hx hv number.symm with
        same | ⟨id, r, is, set, _⟩
      · rw [same]
        exact backed.governed bucket key x hx (number.trans seen)
      · rw [set]
        exact governing bucket key id r is

theorem Step.sound (sound : s.Sound) (step : Step s written t) : t.Sound := by
  have carried : t.world.remote.Sound ∧ ∀ u ∈ s.updates, u.Backed t.world.remote := by
    rcases step.made with same | ⟨c, checked, made, writes⟩
    · rw [same]
      exact ⟨sound.remote, sound.backed⟩
    · refine ⟨sound.remote.made ⟨c, checked, made⟩, fun u hu => ?_⟩
      refine (sound.backed u hu).apply sound.remote checked made ?_
      intro bucket key id r is
      obtain ⟨x, hx, _, _, _, _, rfl⟩ := writes bucket key id r is
      rw [(sound.backed x hx).movable]
  refine ⟨carried.1, ?_⟩
  cases step with
  | @read w w' updates u v run chosen seen =>
      obtain ⟨same, movable, v', chosen', governed⟩ := (atomic_readMode (harmless_guardOf _) _).of_ok run
      cases chosen.symm.trans chosen'
      have there := Version.chosen?_mem chosen
      refine List.forall_mem_cons.mpr ⟨⟨movable, ?_, ?_, ?_⟩, carried.2⟩
      · rw [same, seen]
        exact sound.remote.versions.issued _ _ v there
      · intro id is
        rw [seen]
        rw [is] at chosen
        exact number_of_chosen chosen
      · intro bucket key x hx number
        change x ∈ Backend.versionsAt w'.remote bucket key at hx
        rw [same] at hx
        obtain ⟨_, _, rfl⟩ := sound.remote.versions.unique hx there (number.trans seen)
        exact governed
  | write run =>
      intro x hx
      refine carried.2 x ?_
      rcases List.mem_append.mp hx with before | behind
      · exact List.mem_append_left _ before
      · exact List.mem_append_right _ (List.mem_cons_of_mem _ behind)
  | refuse | call | surround => exact carried.2

/-- No step moves a retention for compliance, unless it is the write of an update that names no version
and has read another one. -/
theorem Step.retention (sound : s.Sound) (step : Step s written t) {bucket key : String}
    {v u : Version} (hv : v ∈ s.world.remote.versionsAt bucket key)
    (hu : u ∈ t.world.remote.versionsAt bucket key) (same : u.number = v.number)
    (fixed : v.retention.bind (·.mode) = some .compliance) :
    u.retention = v.retention ∨
      ∃ x, written = some x ∧ x.identifier.version = none ∧ x.caller.store.bucket = bucket ∧
        x.identifier.key = key ∧ x.seen ≠ v.number ∧
        Version.chosen? (s.world.remote.versionsAt bucket key) none = some v := by
  rcases step.made with still | ⟨c, checked, made, writes⟩
  · rw [still] at hu
    obtain ⟨_, _, rfl⟩ := sound.remote.versions.unique hu hv same
    exact .inl rfl
  · rcases Backend.retention_of_apply sound.remote checked made hv hu same with
      same | ⟨id, r, is, _, chosen⟩
    · exact .inl same
    · obtain ⟨x, hx, written, rfl, rfl, rfl, _⟩ := writes _ _ _ _ is
      have backed := sound.backed x hx
      have other : x.seen ≠ v.number := by
        intro seen
        have governed := backed.governed _ _ v hv seen.symm
        rw [fixed] at governed
        cases governed
      cases named : x.identifier.version with
      | none =>
          rw [named] at chosen
          exact .inr ⟨x, written, named, rfl, rfl, other, chosen⟩
      | some id =>
          rw [named] at chosen
          have number := (backed.named id named).symm.trans (number_of_chosen chosen)
          exact absurd (Number.Numeral.toString_inj.mp number) other

end Steps

section Runs
variable {s t : Shared} {allowed : Update → Prop}

theorem Step.alone (step : Step s none t) : Interleaved allowed s t :=
  .single ⟨none, step, by simp⟩

theorem Shared.Sound.interleaved (sound : s.Sound) (steps : Interleaved allowed s t) : t.Sound := by
  induction steps with
  | refl => exact sound
  | tail _ step ih =>
      obtain ⟨_, step, _⟩ := step
      exact step.sound ih

theorem grown_of_interleaved (sound : s.Sound) (steps : Interleaved allowed s t) :
    Backend.Grown s.world.remote t.world.remote := by
  induction steps with
  | refl => exact .refl _
  | @tail t t' chain step ih =>
      obtain ⟨_, step, _⟩ := step
      refine ih.trans ?_
      rcases step.made with same | ⟨c, _, made, _⟩
      · rw [same]
        exact .refl _
      · exact Backend.grown_of_apply (sound.interleaved chain).remote.tidy made

theorem retention_of_interleaved (sound : s.Sound)
    (steps : Interleaved (fun u => u.identifier.version ≠ none) s t) {bucket key : String}
    {v u : Version} (hv : v ∈ s.world.remote.versionsAt bucket key)
    (hu : u ∈ t.world.remote.versionsAt bucket key) (same : u.number = v.number)
    (fixed : v.retention.bind (·.mode) = some .compliance) : u.retention = v.retention := by
  induction steps generalizing u with
  | refl =>
      obtain ⟨_, _, rfl⟩ := sound.remote.versions.unique hu hv same
      rfl
  | @tail t t' chain step ih =>
      obtain ⟨written, step, named⟩ := step
      have issued : u.number < t.world.remote.nextNumber := by
        rw [same]
        exact Nat.lt_of_lt_of_le (sound.remote.versions.issued _ _ v hv)
          (grown_of_interleaved sound chain).next
      have sound_then := sound.interleaved chain
      have grown := grown_of_interleaved sound_then (.single ⟨written, step, named⟩)
      rcases grown.mem hu with ⟨x, hx, bare⟩ | new
      · have number := Version.number_of_bare bare
        have before := ih hx (number.trans same)
        rcases step.retention sound_then hx hu number.symm (before ▸ fixed) with
          kept | ⟨y, is, unnamed, _⟩
        · exact kept.trans before
        · exact absurd unnamed (named y is)
      · exact absurd issued (Nat.not_lt.mpr new)

/-- Steps lead from one world to the other, whatever updates are under way. -/
def Passes (w w' : World Backend) : Prop :=
  ∀ updates, Interleaved (fun _ => True) ⟨w, updates⟩ ⟨w', updates⟩

instance : Std.Refl Passes := ⟨fun _ _ => .refl⟩

instance : IsTrans (World Backend) Passes := ⟨fun _ _ _ h k updates => (h updates).trans (k updates)⟩

theorem passes_of_same {w w' : World Backend} (same : SameRemote w w') : Passes w w' :=
  fun _ => (Step.surround same).alone

theorem passes_of_leads {call : Call}
    (other : ∀ caller i retainUntil, call ≠ .perform caller (.setRetention i retainUntil))
    {w w' : World Backend} (leads : Leads call.Makes w w') : Passes w w' := by
  intro updates
  have chain : Interleaved (fun _ => True) ⟨w, updates⟩ ⟨{ w with remote := w'.remote }, updates⟩ := by
    refine Relation.ReflTransGen.lift (fun b => (⟨{ w with remote := b }, updates⟩ : Shared)) ?_ _ _
      leads
    rintro b b' ⟨c, may, made⟩
    exact ⟨none, .call other may made, by simp⟩
  have rest : SameRemote { w with remote := w'.remote } w' := rfl
  exact chain.trans (passes_of_same rest updates)

/-- An update that nothing comes between is its two steps. -/
theorem passes_setRetention (c : Caller) (i : Identifier) (retainUntil : Option Moment) :
    (BlobStorage.Store.setRetention c.adapter i retainUntil).Keeps Passes := by
  intro w updates
  rw [BlobStorage.Store.setRetention_eq, Action.runFrom_bind]
  rcases read : (BlobStorage.Store.readMode c.adapter i).runFrom w with ⟨e | mode, w₁⟩
  · exact (Step.refuse read).alone
  · obtain ⟨_, _, v, chosen, _⟩ := (atomic_readMode (harmless_guardOf c.plans) i).of_ok read
    let u : Update := { caller := c, identifier := i, mode, retainUntil, seen := v.number }
    have first : Step ⟨w, updates⟩ none ⟨w₁, u :: updates⟩ := .read read chosen rfl
    have second : Step ⟨w₁, [] ++ u :: updates⟩ (some u) ⟨_, [] ++ updates⟩ := .write rfl
    exact first.alone.tail ⟨some u, second, fun _ _ => trivial⟩

theorem passes_call (call : Call) : call.run.Keeps Passes := by
  by_cases update : ∃ caller i retainUntil, call = .perform caller (.setRetention i retainUntil)
  · obtain ⟨caller, i, retainUntil, rfl⟩ := update
    refine BucketClient.keeps_call (fun f => ?_) _ ?_
    · exact Action.Keeps.mono ((readsQuietly caller).classify f) fun _ _ => passes_of_same
    · exact Action.Keeps.bind (passes_setRetention caller i retainUntil) fun _ => Action.Keeps.pure _
  · refine (makes_call call).mono fun _ _ => passes_of_leads ?_
    exact fun caller i retainUntil is => update ⟨caller, i, retainUntil, is⟩

/-- A run of calls one after another is one of the orders in which their steps may come. -/
theorem passes_after (w : World Backend) (calls : List Call) : Passes w (after w calls) := by
  induction calls generalizing w with
  | nil => exact fun _ => .refl
  | cons call rest ih => exact fun updates => (passes_call call w updates).trans (ih _ updates)

end Runs

section Overtaken
variable {c : Caller} {i : Identifier} {w : World Backend} {v : Version}

theorem runFrom_readMode (plain : c.plans = none) (named : i.key ≠ "")
    (chosen : Version.chosen? (w.remote.versionsAt c.store.bucket i.key) i.version = some v)
    (governed : v.retention.bind (·.mode) = some .governance) :
    (BlobStorage.Store.readMode c.adapter i).runFrom w = (.ok .governance, w) := by
  have looked : (c.adapter.getRetention i).runFrom w =
      (.ok (v.retention.map Retention.lockInfo), w) := by
    change (guardOf c.plans .getRetention i.key >>= fun _ => Store.see _).runFrom w = _
    rw [Action.runFrom_bind_ok (runFrom_guardOf (spared_of_plain plain _ w) _), Store.runFrom_see,
      (Backend.version_eq_ok_iff ..).mpr chosen]
    rfl
  have movable : BlobStorage.Store.movableMode i.key (v.retention.map Retention.lockInfo) =
      .ok .governance := by
    refine (BlobStorage.Store.movableMode_eq_ok_iff ..).mpr ⟨?_, rfl⟩
    rw [Option.bind_map]
    exact governed
  unfold BlobStorage.Store.readMode
  rw [BlobStorage.Store.runFrom_check_bind_ok ((Check.key_eq_ok_iff _).mpr named),
    Action.runFrom_bind_ok looked, movable]
  rfl

theorem runFrom_putRetention (tidy : w.remote.Tidy) (plain : c.plans = none) (mode : RetentionMode)
    (retainUntil : Option Moment)
    (chosen : Version.chosen? (w.remote.versionsAt c.store.bucket i.key) i.version = some v) :
    ∃ b, (c.adapter.putRetention i mode retainUntil).runFrom w = (.ok (), { w with remote := b }) ∧
      { v with retention := some ⟨mode, retainUntil⟩ } ∈ b.versionsAt c.store.bucket i.key := by
  let move (v : Version) : Version := { v with retention := some ⟨mode, retainUntil⟩ }
  have hv := Version.chosen?_mem chosen
  obtain ⟨b, found⟩ := Backend.found_of_mem hv
  obtain ⟨t, made⟩ : ∃ t, w.remote.amend c.store.bucket i.key i.version move = .ok t := by
    rw [Backend.versionsAt_of_get? found] at chosen
    exact ⟨_, (Backend.amend_eq_ok_iff ..).mpr ⟨b, v, found, chosen, rfl⟩⟩
  refine ⟨t, ?_, ?_⟩
  · change (guardOf c.plans .putRetention i.key >>= fun _ => Store.update _).runFrom w = _
    rw [Action.runFrom_bind_ok (runFrom_guardOf (spared_of_plain plain _ w) _),
      Store.runFrom_update_ok made]
  · obtain ⟨u, chosen', rewritten⟩ := Backend.rewritten_of_amend tidy made
    cases chosen.symm.trans chosen'
    rw [rewritten, if_pos ⟨rfl, rfl⟩]
    exact List.mem_map.mpr ⟨v, hv, if_pos rfl⟩

/-- An upload to a bucket that is there becomes the newest version, under the lock that it asks for. -/
theorem newest_of_upload {s : Backend} (tidy : s.Tidy) {bucket : String} {b : Bucket}
    (found : s.buckets.get? bucket = some b) (key : String) (request : UploadRequest)
    (content : Content) : ∃ t u,
      Change.apply (.store bucket key (Store.draftOf request content)) s = .ok t ∧
      Version.chosen? (t.versionsAt bucket key) none = some u ∧
      u.retention = request.lock.map fun l => ⟨l.mode, l.retainUntil⟩ := by
  obtain ⟨u, t, stored⟩ : ∃ u t, s.store bucket key (Store.draftOf request content) = .ok (u, t) :=
    ⟨_, _, (Backend.store_eq_ok_iff ..).mpr ⟨b, found, rfl, rfl⟩⟩
  refine ⟨t, u, map_eq_ok_iff.mpr ⟨_, stored, rfl⟩, ?_,
    congrArg Draft.retention (Backend.toDraft_of_store stored)⟩
  rw [(Backend.appended_of_store tidy stored).rewritten, if_pos ⟨rfl, rfl⟩]
  exact List.getLast?_concat

/-- The exception is real: if an upload comes between the two steps of an update that names no version,
it is the retention of the upload that is moved, also if it is for compliance. -/
theorem overtaken {s : Shared} (sound : s.Sound) (plain : c.plans = none) (unnamed : i.version = none)
    (newest : Version.chosen? (s.world.remote.versionsAt c.store.bucket i.key) none = some v)
    (governed : v.retention.bind (·.mode) = some .governance) {request : UploadRequest}
    (there : request.key = i.key) {lock : LockSettings} (asked : request.lock = some lock)
    (content : Content) (retainUntil : Option Moment) :
    ∃ t t' x u u', Interleaved (fun _ => False) s t ∧ Step t (some x) t' ∧
      x.caller = c ∧ x.identifier = i ∧
      u ∈ t.world.remote.versionsAt c.store.bucket i.key ∧
      u.retention = some ⟨lock.mode, lock.retainUntil⟩ ∧
      u' ∈ t'.world.remote.versionsAt c.store.bucket i.key ∧ u'.number = u.number ∧
      u'.retention = some ⟨RetentionMode.governance, retainUntil⟩ := by
  obtain ⟨w, updates⟩ := s
  have tidy := sound.remote.tidy
  have hv := Version.chosen?_mem newest
  have named := sound.remote.versions.keyed _ _ v hv
  obtain ⟨b, found⟩ := Backend.found_of_mem hv
  let x : Update :=
    { caller := c, identifier := i, mode := .governance, retainUntil, seen := v.number }
  have read : Step ⟨w, updates⟩ none ⟨w, x :: updates⟩ :=
    .read (runFrom_readMode plain named (unnamed ▸ newest) governed) (unnamed ▸ newest) rfl
  obtain ⟨remote, u, made, last, locked⟩ := newest_of_upload tidy found i.key request content
  have may : (Call.perform c (.upload request (.bytes content))).Makes w.remote
      (.store c.store.bucket i.key (Store.draftOf request content)) :=
    there ▸ .upload content (there ▸ named)
  have upload : Step ⟨w, x :: updates⟩ none ⟨{ w with remote }, x :: updates⟩ :=
    .call (by simp) may made
  obtain ⟨remote', run, moved⟩ := runFrom_putRetention (w := { w with remote })
    (Backend.tidy_of_apply tidy made) plain .governance retainUntil (unnamed ▸ last)
  have write : Step ⟨{ w with remote }, [] ++ x :: updates⟩ (some x)
      ⟨{ w with remote := remote' }, [] ++ updates⟩ := .write run
  refine ⟨_, _, x, u, _, read.alone.trans upload.alone, write, rfl, rfl,
    Version.chosen?_mem last, ?_, moved, rfl, rfl⟩
  rw [locked, asked]
  rfl

end Overtaken

end BlobStorage.Memory
