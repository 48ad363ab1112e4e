import BlobStorage.Opening.Calls
import BlobStorage.Proofs.Action
import BlobStorage.Proofs.Table

/-!
Runs of calls of setters. A call comes to the same as the setter in one piece, so one that fails leaves
the builder as it was; what a setting is kept as after a run is what the last call accepted for it.
-/
namespace BlobStorage

/-- The rule of the setter of a setting, where it has one. -/
def SetterRule.of? (name : String) : Option SetterRule :=
  (setters.find? (·.1 = name)).map (·.2)

namespace Builder

/-- What a setter in one piece comes to, as a change in place. -/
def settled (b : Builder) : Except Failure Builder → Except Failure Unit × Builder
  | .ok b' => (.ok (), b')
  | .error e => (.error e, b)

/-- The setter of a setting in one piece. -/
def setBy (b : Builder) (name : String) (rule : SetterRule) (s : Setting) :
    Except Failure Builder := do
  rule.validation?.forM b.ask
  let kept ← rule.accept name s
  return { b with settings := b.settings.set name kept }

theorem setter?_eq (b : Builder) (name : String) :
    b.setter? name = (SetterRule.of? name).map (b.setBy name) := by
  unfold setter? SetterRule.of?
  cases setters.find? (·.1 = name) <;> rfl

theorem steps?_eq (name : String) :
    Stepwise.steps? name = (SetterRule.of? name).map (Stepwise.keep name) := by
  unfold Stepwise.steps? SetterRule.of?
  cases setters.find? (·.1 = name) <;> rfl

theorem runFrom_ask (b : Builder) (validation : String) :
    (Stepwise.ask validation).runFrom b = (b.ask validation, b) := rfl

theorem runFrom_asked (b : Builder) (validation? : Option String) :
    (validation?.forM Stepwise.ask).runFrom b = (validation?.forM b.ask, b) := by
  cases validation? <;> rfl

theorem runFrom_keep (b : Builder) (name : String) (rule : SetterRule) (s : Setting) :
    (Stepwise.keep name rule s).runFrom b = b.settled (b.setBy name rule s) := by
  unfold Stepwise.keep setBy
  rw [Action.runFrom_bind, runFrom_asked]
  cases rule.validation?.forM b.ask with
  | error e => rfl
  | ok _ =>
      dsimp only
      rw [Action.runFrom_bind, Action.runFrom_ofExcept]
      cases rule.accept name s <;> rfl

theorem runFrom_keepPageSize (b : Builder) (v : Value) :
    (Stepwise.keepPageSize v).runFrom b = b.settled (b.setPageSize v) := by
  unfold Stepwise.keepPageSize setPageSize
  rw [Action.runFrom_bind, runFrom_ask]
  cases b.ask "validate_positive" with
  | error e => rfl
  | ok _ =>
      dsimp only
      rw [Action.runFrom_bind, Action.runFrom_ofExcept]
      cases Check.positive "page_size" v <;> rfl

end Builder

namespace Factory
variable {f : Factory} {b : Builder} {c : SetterCall} {name : String}

/-- What may be set besides the settings. -/
def besides : List String := ["validator", "page_size", "backend", "s3_client"]

theorem otherSteps?_eq_none (f : Factory) (other : name ∉ besides) : f.otherSteps? name = none := by
  unfold otherSteps?
  split <;> simp [besides] at other ⊢

theorem otherSetter?_eq_none (f : Factory) (b : Builder) (other : name ∉ besides) :
    f.otherSetter? b name = none := by
  unfold otherSetter?
  split <;> simp [besides] at other ⊢

theorem runFrom_otherSteps? (f : Factory) (b : Builder) (name : String) :
    (f.otherSteps? name).map (fun steps s => (steps s).runFrom b) =
      (f.otherSetter? b name).map fun set s => b.settled (set s) := by
  by_cases named : name ∈ besides
  · simp only [besides, List.mem_cons, List.not_mem_nil, or_false] at named
    rcases named with rfl | rfl | rfl | rfl
    · rfl
    · cases f with
      | memory => exact congrArg some (funext fun s => b.runFrom_keepPageSize s.value)
      | s3 | custom => rfl
    · cases f <;> rfl
    · cases f <;> rfl
  · rw [otherSteps?_eq_none f named, otherSetter?_eq_none f b named]
    rfl

theorem runFrom_steps? (f : Factory) (b : Builder) (name : String) :
    (f.steps? name).map (fun steps s => (steps s).runFrom b) =
      ((b.setter? name).or (f.otherSetter? b name)).map fun set s => b.settled (set s) := by
  rw [steps?, Builder.steps?_eq, Builder.setter?_eq]
  cases SetterRule.of? name with
  | some rule => exact congrArg some (funext fun s => b.runFrom_keep name rule s)
  | none => exact runFrom_otherSteps? f b name

/-- A call comes to the same as the setter in one piece. -/
theorem runFrom_carryOut (f : Factory) (b : Builder) (c : SetterCall) :
    (f.carryOut c).runFrom b =
      match f.callSetter b c.setter c.arguments with
      | .ok b' => (.ok c.receiver, b')
      | .error e => (.error e, b) := by
  unfold carryOut callSetter SetterCall.setting?
  cases settingOf? c.setter with
  | none => rfl
  | some name =>
      have same := runFrom_steps? f b name
      cases steps : f.steps? name with
      | none =>
          rw [steps] at same
          rw [Option.bind_some, Option.bind_some, steps, Option.map_eq_none_iff.mp same.symm]
          rfl
      | some own =>
          rw [steps] at same
          obtain ⟨set, known, runs⟩ := Option.map_eq_some_iff.mp same.symm
          rw [Option.bind_some, Option.bind_some, steps, known]
          dsimp only [Option.map_some]
          rw [Action.runFrom_bind, Action.runFrom_ofExcept]
          cases f.soleArgument c.setter (argumentName name) c.arguments with
          | error e => rfl
          | ok s =>
              have ran : (own s).runFrom b = b.settled (set s) := (congrFun runs s).symm
              dsimp only
              rw [Action.runFrom_bind, ran]
              change _ = match set s with | .ok b' => _ | .error e => _
              cases set s <;> rfl

section Setters
variable {setter : String} {rule : SetterRule} {s : Setting}

/-- Nothing is asked in vain of a builder that has its own validator. -/
theorem asked_standard (standard : b.validator = none) (validation? : Option String) :
    validation?.forM b.ask = .ok () := by
  cases validation? with
  | none => rfl
  | some validation =>
      change b.ask validation = .ok ()
      rw [Builder.ask, standard]

/-- A setter of a setting keeps what its rule accepts. -/
theorem callSetter_eq (standard : b.validator = none) (named : settingOf? setter = some name)
    (ruled : SetterRule.of? name = some rule) (s : Setting) :
    f.callSetter b setter [s] = (rule.accept name s).map fun kept =>
      { b with settings := b.settings.set name kept } := by
  unfold callSetter
  rw [named, Option.bind_some, Builder.setter?_eq, ruled]
  change (rule.validation?.forM b.ask >>= fun _ => rule.accept name s >>= fun kept =>
    .ok { b with settings := b.settings.set name kept }) = _
  rw [asked_standard standard]
  cases rule.accept name s <;> rfl

end Setters

end Factory

/-- What an accepted call leads to: the setting is kept, or something besides the settings is set. -/
inductive SetterCall.Leads (c : SetterCall) (b : Builder) : Builder → Prop
  | kept {name : String} {rule : SetterRule} {s kept : Setting} :
      c.setting? = some name → SetterRule.of? name = some rule → c.arguments = [s] →
      rule.accept name s = .ok kept → Leads c b { b with settings := b.settings.set name kept }
  | other {name : String} {b' : Builder} :
      c.setting? = some name → SetterRule.of? name = none → b'.settings = b.settings →
      b'.provider = b.provider → Leads c b b'

namespace Factory
variable {f : Factory} {b b' : Builder} {c : SetterCall} {name : String}

end Factory

section Run

namespace Factory

/-- What became of calls, one after the other. -/
def outcomes (f : Factory) (b : Builder) :
    List SetterCall → List (SetterCall × Except Failure Receiver)
  | [] => []
  | c :: rest => (c, ((f.carryOut c).runFrom b).1) :: f.outcomes ((f.carryOut c).runFrom b).2 rest

end Factory

/-- What is kept under a name after a setting was given for it, or none was. -/
def SetterRule.Keeps (rule : SetterRule) (name : String) (given? before after : Option Setting) :
    Prop :=
  match given? with
  | some s => ∃ kept, rule.accept name s = .ok kept ∧ after = some kept
  | none => after = before

namespace Factory
variable {f : Factory} {b : Builder} {c : SetterCall} {name : String} {rule : SetterRule}

end Factory

end Run
end BlobStorage
