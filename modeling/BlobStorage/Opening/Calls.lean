import BlobStorage.Opening

/-!
Calls of setters on a builder, one after the other. A call looks at its argument before it writes, and
writes to the builder in place; a call that fails ends, and what it wrote before stays written. A call is
made on the builder itself or on a client builder that holds it and hands the call on.
-/
namespace BlobStorage

namespace Builder.Stepwise

def ask (validation : String) : Action Builder Unit := do
  Action.ofExcept ((← get).ask validation)

/-- Keeps a setting under its name, unless the rule rejects it. -/
def keep (name : String) (rule : SetterRule) (s : Setting) : Action Builder Unit := do
  rule.validation?.forM ask
  let kept ← Action.ofExcept (rule.accept name s)
  modify fun b => { b with settings := b.settings.set name kept }

def keepPageSize (v : Value) : Action Builder Unit := do
  ask "validate_positive"
  Action.ofExcept (Check.positive "page_size" v)
  let size := match v with
    | .whole n => some n.toNat
    | .flag _ => some 1
    | _ => none
  modify fun b => { b with pageSize := some size }

def steps? (name : String) : Option (Setting → Action Builder Unit) :=
  (setters.find? (·.1 = name)).map fun (_, rule) => keep name rule

end Builder.Stepwise

inductive Receiver where
  | builder
  | clientBuilder
  deriving DecidableEq, Repr

structure SetterCall where
  receiver : Receiver
  setter : String
  arguments : List Setting
  deriving Repr

namespace SetterCall

def setting? (c : SetterCall) : Option String := Factory.settingOf? c.setter

end SetterCall

namespace Factory

def otherSteps? (f : Factory) (name : String) : Option (Setting → Action Builder Unit) :=
  match name, f with
  | "validator", _ => some fun s => modify (·.setValidator s)
  | "page_size", memory _ => some fun s => Builder.Stepwise.keepPageSize s.value
  | "backend", memory _ => some fun s => modify fun b => { b with backend := some s.value }
  | "s3_client", s3 _ => some fun s => modify fun b => { b with client := some s.value }
  | _, _ => none

def steps? (f : Factory) (name : String) : Option (Setting → Action Builder Unit) :=
  (Builder.Stepwise.steps? name).or (f.otherSteps? name)

def carryOut (f : Factory) (c : SetterCall) : Action Builder Receiver := do
  match c.setting?.bind fun name => (f.steps? name).map fun steps => (name, steps) with
  | some (name, steps) => do
      let s ← Action.ofExcept (f.soleArgument c.setter (argumentName name) c.arguments)
      steps s
      return c.receiver
  | none => throw (.ambient (.noAttribute f.builderName c.setter))

/-- The builder after some calls, whether they succeeded or not. -/
def after (f : Factory) (b : Builder) : List SetterCall → Builder
  | [] => b
  | c :: rest => f.after ((f.carryOut c).runFrom b).2 rest

end Factory
end BlobStorage
