import BlobStorage.Settings.Slot
import BlobStorage.Validation
import BlobStorage.Value.Access

/-!
Collecting settings. A setter rejects a value that can never be right, and then changes nothing;
all else is kept as it was given and read when the configuration is made. Apart from settings, a
builder may be given what it would otherwise make or look for itself.
-/
namespace BlobStorage

def setters : List (String × SetterRule) :=
  SettingName.all.map fun n => (n.slot.name, n.slot.rule)

namespace SetterRule

/-- The setting that is kept, unless the rule rejects the value. -/
def accept (rule : SetterRule) (name : String) (s : Setting) : Except Failure Setting :=
  match rule with
  | anything => .ok s
  | endpoint proxy => do Check.endpoint proxy s.value; return s
  | connections => do Check.maxConnections s.value; return s
  | duration => do Check.duration name s.value; return s
  | positive => do Check.positive name s.value; return s
  | texts => do return .plain (.table (← s.value.entries.mapError Failure.ambient))

def validation? : SetterRule → Option String
  | anything | texts => none
  | endpoint _ => some "validate_endpoint"
  | connections => some "validate_max_connections"
  | duration => some "validate_duration"
  | positive => some "validate_positive"

end SetterRule

structure Builder where
  provider : String
  settings : Table String Setting := []
  /-- The page size of listings, where the provider has one to set. -/
  pageSize : Option (Option Nat) := none
  /-- What was given in the place of the validator, if anything but one was. -/
  validator : Option Value := none
  /-- What was given in the place of the state that memory stores share, if anything was. -/
  backend : Option Value := none
  /-- What was given in the place of the service's client, if anything was. -/
  client : Option Value := none
  deriving Repr

namespace Builder

/-- Goes on only if there is a validator to ask. -/
def ask (b : Builder) (validation : String) : Except Failure Unit :=
  match b.validator with
  | some v => .error (.ambient (.noAttribute v.fullTypeName validation))
  | none => .ok ()

/-- How a setting is kept under its name. Nothing is known about a name without a setter. -/
def setter? (b : Builder) (name : String) : Option (Setting → Except Failure Builder) :=
  (setters.find? (·.1 = name)).map fun (_, rule) s => do
    rule.validation?.forM b.ask
    let kept ← rule.accept name s
    return { b with settings := b.settings.set name kept }

/-- Keeps a setting that has a setter; any other is passed over. -/
def set (b : Builder) (name : String) (s : Setting) : Except Failure Builder :=
  match b.setter? name with
  | some set => set s
  | none => .ok b

def setPageSize (b : Builder) (v : Value) : Except Failure Builder := do
  b.ask "validate_positive"
  Check.positive "page_size" v
  let size := match v with
    | .whole n => some n.toNat
    | .flag _ => some 1
    | _ => none
  return { b with pageSize := some size }

/-- Takes a validator, or whatever is given in its place. -/
def setValidator (b : Builder) (s : Setting) : Builder :=
  match s with
  | .validator => { b with validator := none }
  | s => { b with validator := some s.value }

def get? (b : Builder) (name : String) : Option Setting := b.settings.get? name

def config (b : Builder) : Except Failure Config :=
  Config.ofSettings (("provider_id", .plain (.text b.provider)) :: b.settings)

def bucketConfig (b : Builder) : Except Failure Config := do
  let config ← b.config
  b.ask "validate_bucket"
  Check.bucket config.bucket
  return config

end Builder
end BlobStorage
