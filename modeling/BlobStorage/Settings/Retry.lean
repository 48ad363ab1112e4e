import BlobStorage.Settings

/-!
The retry policy of a client: so many attempts, with a fixed delay between them or with delays
that grow.
-/
namespace BlobStorage

inductive RetryMode where
  | fixed
  | exponential
  deriving DecidableEq, Repr

namespace RetryMode

def name : RetryMode → String
  | fixed => "FIXED"
  | exponential => "EXPONENTIAL"

def value (m : RetryMode) : Value := .choice "RetryMode" m.name

def read (v : Value) : Settings.Read RetryMode :=
  match v with
  | .text "FIXED" => .ok fixed
  | .text "EXPONENTIAL" => .ok exponential
  | v => Settings.misfit (.oneOf ["FIXED", "EXPONENTIAL"]) v

end RetryMode

structure RetryPolicy where
  mode : RetryMode := .exponential
  maxAttempts : Int := 3
  fixedDelay : Option Duration := none
  initialDelay : Option Duration := none
  maxDelay : Option Duration := none
  multiplier : Binary64 := .ofInt 2
  attemptTimeout : Option Duration := none
  totalTimeout : Option Duration := none
  deriving DecidableEq, Repr

namespace RetryPolicy

def value (p : RetryPolicy) : Value :=
  let delay (d : Option Duration) : Value := (d.map Value.duration).getD .null
  .record "RetryConfig" [("mode", p.mode.value), ("max_attempts", .whole p.maxAttempts),
    ("fixed_delay", delay p.fixedDelay), ("initial_delay", delay p.initialDelay),
    ("max_delay", delay p.maxDelay), ("multiplier", .real p.multiplier),
    ("attempt_timeout", delay p.attemptTimeout), ("total_timeout", delay p.totalTimeout)]

def negativeField? (p : RetryPolicy) : Option String :=
  let named := [("fixed_delay", p.fixedDelay), ("initial_delay", p.initialDelay),
    ("max_delay", p.maxDelay), ("attempt_timeout", p.attemptTimeout),
    ("total_timeout", p.totalTimeout)]
  (named.find? fun (_, d) => (d.map Duration.isNegative).getD false).map (·.1)

def broken? (p : RetryPolicy) : Option Refusal :=
  if p.maxAttempts < 1 then some .fewAttempts
  else if p.multiplier.ltInt 1 then some .smallMultiplier
  else
    match p.negativeField? with
    | some name => some (.negativeDuration name)
    | none =>
        if p.mode = .fixed ∧ p.fixedDelay.isNone then some .fixedDelayMissing
        else
          match p.initialDelay, p.maxDelay with
          | some initial, some limit =>
              if limit.micros < initial.micros then some .delaysReversed else none
          | _, _ => none

open Settings in
def read (fields : Fields) : Read RetryPolicy := do
  let optionalDuration (name : String) := defaulted fields name none (optional duration)
  let ((mode, maxAttempts), (fixedDelay, initialDelay), (maxDelay, multiplier),
      attemptTimeout, totalTimeout) ←
    both (both (defaulted fields "mode" .exponential RetryMode.read)
        (defaulted fields "max_attempts" 3 whole)) <|
      both (both (optionalDuration "fixed_delay") (optionalDuration "initial_delay")) <|
        both (both (optionalDuration "max_delay")
            (defaulted fields "multiplier" (.ofInt 2) real)) <|
          both (optionalDuration "attempt_timeout") (optionalDuration "total_timeout")
  let p : RetryPolicy :=
    { mode, maxAttempts, fixedDelay, initialDelay, maxDelay, multiplier, attemptTimeout,
      totalTimeout }
  match p.broken? with
  | some reason => .error (.broken (.refused reason))
  | none => .ok p

def ofFields (fields : Settings.Fields) : Except Failure RetryPolicy :=
  (read fields).mapError (Settings.fault "RetryConfig")

end RetryPolicy
end BlobStorage
