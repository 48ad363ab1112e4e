import BlobStorage.Proofs.Client
import BlobStorage.Proofs.Memory.Command

/-!
Runs: calls that follow one another, of any number of callers who work on one backend, each through a
store of their own. Whatever a run does, it leads along a chain of changes.
-/
namespace BlobStorage.Memory

/-- Someone with a store on the backend. -/
structure Caller where
  store : Store
  /-- The number under which failures are planned for the store, if any are to be. -/
  plans : Option Nat := none
  style : CallStyle := .blocking
  categorizes : Bool := true

/-- The guard of a store for which failures are planned under a number, or of one that is let alone. -/
def guardOf : Option Nat → Guard Backend
  | some store => World.guard store
  | none => World.unguarded

namespace Caller

def adapter (c : Caller) : Adapter Backend := c.store.adapter (guardOf c.plans)

def client (c : Caller) : BucketClient Backend :=
  { adapter := c.adapter, style := c.style, categorizes := c.categorizes }

end Caller

inductive Call where
  | perform (caller : Caller) (command : Command)
  /-- A bucket is created through the client for the whole account. -/
  | createBucket (config : Config) (plans : Option Nat) (categorizes : Bool)
      (bucket : Option String)
  /-- A store is built, which makes sure of its bucket. -/
  | build (bucket : String) (region : Option String)
  | deleteBucket (bucket : String)
  | setClock (now : Moment)
  /-- The local files change, or the failures that are planned. -/
  | surround (files : FileTree) (interceptions : List Interception)

namespace Call

def run : Call → Op Backend Answer
  | perform caller command => caller.client.perform command
  | createBucket config plans categorizes bucket => do
      ServiceClient.createBucket
        { adapter := serviceAdapter config (guardOf plans), categorizes } bucket
      return .done
  | build bucket region => do
      modify fun w => { w with remote := w.remote.ensureBucket bucket region }
      return .done
  | deleteBucket bucket => do
      modify fun w => { w with remote := w.remote.deleteBucket bucket }
      return .done
  | setClock now => do
      modify fun w => { w with remote := { w.remote with now } }
      return .done
  | surround files interceptions => do
      modify fun w => { w with files, interceptions }
      return .done

/-- What a call may do. -/
def roles : Call → List Role
  | perform _ command => Memory.roles command
  | _ => [.other]

/-- The changes that a call may make to a backend. -/
def Makes : Call → Backend → Change → Prop
  | perform caller command => Memory.Makes caller.store command
  | createBucket _ _ _ _ => fun _ c => ∃ name region, c = .createBucket name region
  | build bucket region => fun _ c => c = .ensureBucket bucket region
  | deleteBucket bucket => fun _ c => c = .deleteBucket bucket
  | setClock now => fun _ c => c = .setClock now
  | surround _ _ => fun _ _ => False

/-- The changes of the kinds that a call may make. -/
def Kinds (call : Call) (c : Change) : Prop := c.Checked ∧ c.role ∈ call.roles

theorem kind_of_makes {call : Call} {b : Backend} {c : Change} (made : call.Makes b c) :
    call.Kinds c := by
  cases call with
  | perform => exact Memory.Makes.kind made
  | createBucket =>
      obtain ⟨_, _, rfl⟩ := made
      exact ⟨trivial, List.mem_cons_self ..⟩
  | build | deleteBucket | setClock =>
      cases made
      exact ⟨trivial, List.mem_cons_self ..⟩
  | surround => exact made.elim

end Call

/-- The world after calls. -/
def after (w : World Backend) (calls : List Call) : World Backend :=
  calls.foldl (fun w call => (call.run.runFrom w).2) w

/-- The backend after so many of the calls. -/
def moment (w : World Backend) (calls : List Call) (i : Nat) : Backend :=
  (after w (calls.take i)).remote

theorem harmless_guardOf (plans : Option Nat) : Store.Harmless (guardOf plans) := by
  intro p key
  cases plans with
  | none => exact quiet_unguarded p key
  | some store => exact quiet_guard store p key

theorem remote_guardOf (plans : Option Nat) (p : Primitive) (key : Option String)
    (w : World Backend) : ((guardOf plans p key).runFrom w).2.remote = w.remote :=
  harmless_guardOf plans p key w

/-- No failure is planned for a primitive of the caller's store. -/
def Caller.Spared (c : Caller) (p : Primitive) (w : World Backend) : Prop :=
  ∀ store ∈ c.plans, w.Spares store p

theorem spared_of_plain {c : Caller} (plain : c.plans = none) (p : Primitive) (w : World Backend) :
    c.Spared p w := by
  intro store planned
  rw [plain] at planned
  cases planned

theorem runFrom_guardOf {c : Caller} {p : Primitive} {w : World Backend} (spared : c.Spared p w)
    (key : Option String) : (guardOf c.plans p key).runFrom w = (.ok (), w) := by
  cases planned : c.plans with
  | none => rfl
  | some store => exact runFrom_guard_of_spared (spared store planned)

theorem samePlans_guardOf (plans : Option Nat) (p : Primitive) (key : Option String) :
    (guardOf plans p key).Keeps SamePlans := by
  cases plans with
  | none => exact Action.Keeps.pure ()
  | some store => exact samePlans_guard store p key

theorem readsQuietly (c : Caller) : BlobStorage.Store.ReadsQuietly c.adapter :=
  Store.readsQuietly_adapter (harmless_guardOf c.plans)

theorem makes_call (call : Call) : call.run.Keeps (Leads call.Makes) := by
  cases call with
  | perform c command =>
      refine BucketClient.keeps_call (fun f => leads_of_quiet ((readsQuietly c).classify f)) _ ?_
      exact makes_run (harmless_guardOf c.plans) c.style command
  | createBucket config plans categorizes bucket =>
      have guarded := harmless_guardOf plans
      refine Action.Keeps.bind (ServiceClient.keeps_call (fun f => ?_) ?_) fun _ => Action.Keeps.pure _
      · exact leads_of_quiet (Store.quiet_guarded guarded (Action.Keeps.pure _))
      · refine Action.Keeps.bind (Action.Keeps.ofExcept _) fun _ =>
          Action.Keeps.bind (leads_of_quiet (guarded _ _)) fun _ => ?_
        refine leads_of_atomic (Store.atomic_update _) ?_
        intro b x b' h
        exact ⟨.createBucket _ _, ⟨_, _, rfl⟩, h⟩
  | build bucket region =>
      refine Action.Keeps.bind (Action.Keeps.modify fun w => ?_) fun _ => Action.Keeps.pure _
      exact Relation.ReflTransGen.single ⟨_, rfl, rfl⟩
  | deleteBucket bucket =>
      refine Action.Keeps.bind (Action.Keeps.modify fun w => ?_) fun _ => Action.Keeps.pure _
      exact Relation.ReflTransGen.single ⟨_, rfl, rfl⟩
  | setClock now =>
      refine Action.Keeps.bind (Action.Keeps.modify fun w => ?_) fun _ => Action.Keeps.pure _
      exact Relation.ReflTransGen.single ⟨_, rfl, rfl⟩
  | surround files interceptions =>
      exact Action.Keeps.bind (Action.Keeps.modify fun w => Relation.ReflTransGen.refl)
        fun _ => Action.Keeps.pure _

theorem leads_call (call : Call) : call.run.Keeps (Leads fun _ => call.Kinds) :=
  (makes_call call).mono fun _ _ => Backend.Proceeds.mono fun _ _ => Call.kind_of_makes

theorem after_append (w : World Backend) (first second : List Call) :
    after w (first ++ second) = after (after w first) second :=
  List.foldl_append ..

theorem evolves_after (w : World Backend) (calls : List Call) :
    Backend.Evolves Change.Checked w.remote (after w calls).remote := by
  induction calls generalizing w with
  | nil => exact Relation.ReflTransGen.refl
  | cons call rest ih =>
      refine Relation.ReflTransGen.trans ?_ (ih _)
      exact Backend.Evolves.mono (fun c kind => kind.1) (leads_call call w)

theorem sound_after {w : World Backend} (sound : w.remote.Sound) (calls : List Call) :
    (after w calls).remote.Sound :=
  sound.evolves (evolves_after w calls)

theorem evolves_moment (w : World Backend) (calls : List Call) {i j : Nat} (le : i ≤ j) :
    Backend.Evolves Change.Checked (moment w calls i) (moment w calls j) := by
  obtain ⟨more, split⟩ := List.take_prefix_take_left (l := calls) le
  unfold moment
  rw [← split, after_append]
  exact evolves_after _ more

/-- The world in which a call is made, and the one that it leaves. -/
theorem after_take_succ (w : World Backend) {calls : List Call} {i : Nat} {call : Call}
    (h : calls[i]? = some call) :
    after w (calls.take (i + 1)) = (call.run.runFrom (after w (calls.take i))).2 := by
  rw [List.take_add_one, h, after_append]
  rfl

end BlobStorage.Memory
