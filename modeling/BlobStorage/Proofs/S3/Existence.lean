import BlobStorage.Proofs.S3.Exchange

/-!
Checks whether an object or a bucket exists, against the classification of error replies. A reply of
status 404 is a plain no, whatever its code says. Any other reply is a plain no where it is classified as
something missing, and is raised where it is not, unless its code is one that the two go by differently.
-/
namespace BlobStorage.S3

namespace ErrorReply
variable {e : ErrorReply}

/-- A reply that was made before the service handled the request. -/
def Unhandled (e : ErrorReply) : Prop :=
  e.statusNumber? = some 403 ∧ (e.requestId.getD .null).isGiven = false

/-- The codes that are classified as something missing. -/
def missingCodes : List String :=
  ["NoSuchKey", "NoSuchBucket", "NoSuchUpload", "NoSuchVersion", "NotFound", "404"]

/-- A reply whose code says that something is missing, but to the classification only, because the checks
do not look for this code, or to the checks only, because the classification does not look at the code. -/
def Disputed (e : ErrorReply) : Prop :=
  ∃ code, e.codeText? = some code ∧
    ((¬ e.Unhandled ∧ code ∈ ["NoSuchUpload", "NoSuchVersion"]) ∨
      (e.Unhandled ∧ code ∈ ["404", "NoSuchKey", "NoSuchBucket", "NotFound"]))

theorem codeKind?_eq_notFound_iff (code : String) :
    codeKind? code = some .notFound ↔ code ∈ missingCodes := by
  constructor
  · intro found
    obtain ⟨entry, first, kind⟩ := Option.map_eq_some_iff.mp found
    have own : entry.1 = code := by simpa using List.find?_some first
    have listed : entry ∈ codeKinds.filter (·.2 = .notFound) :=
      List.mem_filter.mpr ⟨List.mem_of_find?_eq_some first, decide_eq_true kind⟩
    rw [← own]
    exact List.mem_map_of_mem listed
  · intro listed
    simp only [missingCodes, List.mem_cons, List.not_mem_nil, or_false] at listed
    rcases listed with rfl | rfl | rfl | rfl | rfl | rfl <;> rfl

theorem statusKind?_eq_notFound_iff (n : Int) : statusKind? n = some .notFound ↔ n = 404 := by
  unfold statusKind?
  split <;> simp_all

theorem kind_of_unhandled (unhandled : e.Unhandled) : e.kind = .unauthorized := by
  rw [kind, if_pos ⟨unhandled.1, by simp [unhandled.2]⟩]

/-- The category where the code does not decide. -/
def kindOfStatus (e : ErrorReply) : ErrorKind :=
  if isStrange e.status then .unknown else (e.statusNumber?.bind statusKind?).getD .unknown

/-- The code decides unless the service did not handle the request, and the status if it does not. -/
theorem kind_of_text {code : String} (handled : ¬ e.Unhandled) (text : e.codeText? = some code) :
    e.kind = (codeKind? code).getD e.kindOfStatus := by
  have looked : ¬ (e.statusNumber? = some 403 ∧ (!(e.requestId.getD .null).isGiven) = true) := by
    simpa [Unhandled] using handled
  have plain : isStrange e.code = false := by
    unfold codeText? at text
    split at text
    · rename_i is
      rw [is]
      rfl
    · cases text
  rw [kind, if_neg looked, plain, if_neg Bool.false_ne_true, text, Option.bind_some]
  cases codeKind? code <;> rfl

/-- Without a code that can be read, nothing but the status decides. -/
theorem kind_of_no_text (handled : ¬ e.Unhandled) (text : e.codeText? = none) :
    e.kind = .unknown ∨ e.kind = e.kindOfStatus := by
  have looked : ¬ (e.statusNumber? = some 403 ∧ (!(e.requestId.getD .null).isGiven) = true) := by
    simpa [Unhandled] using handled
  rw [kind, if_neg looked, text]
  split
  · exact .inl rfl
  · exact .inr rfl

theorem kindOfStatus_ne (other : e.statusNumber? ≠ some 404) : e.kindOfStatus ≠ .notFound := by
  unfold kindOfStatus
  split
  · nofun
  · cases status : e.statusNumber? with
    | none => nofun
    | some n =>
        have unlike : statusKind? n ≠ some .notFound := fun same =>
          other (status.trans (congrArg some ((statusKind?_eq_notFound_iff n).mp same)))
        rw [Option.bind_some]
        cases told : statusKind? n with
        | none => nofun
        | some k => exact fun same => unlike (told.trans (congrArg some same))

/-- Where the status does not say so, it is the code that tells of something missing. -/
theorem kind_eq_notFound_iff (handled : ¬ e.Unhandled) (other : e.statusNumber? ≠ some 404) :
    e.kind = .notFound ↔ ∃ code ∈ missingCodes, e.codeText? = some code := by
  have untold := kindOfStatus_ne other
  cases text : e.codeText? with
  | none =>
      have unlike : e.kind ≠ .notFound := by
        rcases kind_of_no_text handled text with unknown | status
        · rw [unknown]
          nofun
        · rwa [status]
      simpa using unlike
  | some code =>
      have spelled : (∃ c ∈ missingCodes, some code = some c) ↔ code ∈ missingCodes := by simp
      rw [kind_of_text handled text, spelled, ← codeKind?_eq_notFound_iff]
      cases codeKind? code with
      | some k => exact Option.some_inj.symm
      | none => simpa using untold

/-- A code that names a category decides, unless the service did not handle the request. -/
theorem kind_of_code {code : String} {k : ErrorKind} (handled : ¬ e.Unhandled)
    (text : e.codeText? = some code) (known : codeKind? code = some k) : e.kind = k := by
  rw [kind_of_text handled text, known, Option.getD_some]

theorem isNotFound_of_gone (gone : e.statusNumber? = some 404) : e.isNotFound = true := by
  simp [isNotFound, gone]

theorem isNotFound_iff (other : e.statusNumber? ≠ some 404) :
    e.isNotFound = true ↔
      ∃ code ∈ ["404", "NoSuchKey", "NoSuchBucket", "NotFound"], e.codeText? = some code := by
  rw [isNotFound, decide_eq_false other, Bool.false_or]
  cases e.codeText? with
  | none => simp
  | some code => simp

/-- Apart from the codes that are disputed, the checks and the classification agree. -/
theorem isNotFound_iff_kind (other : e.statusNumber? ≠ some 404) (clear : ¬ e.Disputed) :
    e.isNotFound = true ↔ e.kind = .notFound := by
  rw [isNotFound_iff other]
  by_cases unhandled : e.Unhandled
  · rw [kind_of_unhandled unhandled]
    refine iff_of_false ?_ nofun
    rintro ⟨code, listed, is⟩
    exact clear ⟨code, is, .inr ⟨unhandled, listed⟩⟩
  · rw [kind_eq_notFound_iff unhandled other]
    constructor
    · rintro ⟨code, listed, is⟩
      refine ⟨code, ?_, is⟩
      simp only [missingCodes, List.mem_cons, List.not_mem_nil, or_false] at listed ⊢
      tauto
    · rintro ⟨code, listed, is⟩
      have known : code ∉ ["NoSuchUpload", "NoSuchVersion"] := fun only =>
        clear ⟨code, is, .inl ⟨unhandled, only⟩⟩
      refine ⟨code, ?_, is⟩
      simp only [missingCodes, List.mem_cons, List.not_mem_nil, or_false] at listed known ⊢
      tauto

end ErrorReply

section Checks
variable {ρ α : Type}

/-- A check whether something exists. -/
inductive Presence where
  | object (i : Identifier)
  | bucket

namespace Presence

def command : Presence → Command
  | object i => .objectExists i
  | bucket => .bucketExists

/-- What the service is asked. -/
def ask (s : Store ρ) : Presence → Op ρ Reply
  | object i => s.client.request .headObject (s.place i)
  | bucket => s.client.request .headBucket (Parameters.text "Bucket" s.bucket)

/-- A check that nothing is wrong with before the service is asked. -/
def Named : Presence → Prop
  | object i => i.key ≠ ""
  | bucket => True

end Presence

namespace Store
variable {call : Op ρ Reply} {w w' : World ρ}

theorem runFrom_presence_found {reply : Reply} (answered : call.runFrom w = (.ok reply, w')) :
    (presence call).runFrom w = (.ok true, w') := by
  refine (Action.runFrom_bind_ok (x := .ok reply) (t := w') ?_ _).trans rfl
  rw [Action.runFrom_outcome, answered]

theorem runFrom_presence_failed {f : Failure} (answered : call.runFrom w = (.error f, w')) :
    (presence call).runFrom w = (if isNotFound f then .ok false else .error f, w') := by
  refine (Action.runFrom_bind_ok (x := .error f) (t := w') ?_ _).trans ?_
  · rw [Action.runFrom_outcome, answered]
  · dsimp only
    split <;> rfl

variable {s : Store ρ} {p : Presence}

theorem runFrom_check (named : p.Named) (style : CallStyle) (w : World ρ) :
    (p.command.run (s.adapter World.unguarded) style).runFrom w =
      Action.runFrom (Answer.yes <$> presence (p.ask s)) w := by
  cases p with
  | bucket => rfl
  | object i =>
      have passed : (BlobStorage.Store.objectExists (s.adapter World.unguarded) i).runFrom w =
          (presence ((Presence.object i).ask s)).runFrom w :=
        BlobStorage.Store.runFrom_check_bind_ok ((Check.key_eq_ok_iff _).mpr named) _ w
      change Action.runFrom (Answer.yes <$> BlobStorage.Store.objectExists _ i) w = _
      rw [Action.runFrom_map, Action.runFrom_map, passed]

end Store
end Checks

/-- What it means for the checks of a store to tell what is missing from what fails. -/
structure ExistenceLaws {ρ : Type} (s : Store ρ) : Prop where
  /-- What the service knows exists. -/
  found : ∀ {p : Presence} {style categorizes w w' reply}, p.Named →
    (p.ask s).runFrom w = (.ok reply, w') →
    ((s.held style categorizes).perform p.command).runFrom w = (.ok (.yes true), w')
  /-- A reply of status 404 is a plain no, whatever its code. -/
  gone : ∀ {p : Presence} {style categorizes w w' e}, p.Named →
    (p.ask s).runFrom w = (.error (.reply e), w') → e.statusNumber? = some 404 →
    ((s.held style categorizes).perform p.command).runFrom w = (.ok (.yes false), w')
  /-- Any other is one just if it is classified as something missing. -/
  agrees : ∀ {p : Presence} {style categorizes w w' e}, p.Named →
    (p.ask s).runFrom w = (.error (.reply e), w') → e.statusNumber? ≠ some 404 → ¬ e.Disputed →
    (((s.held style categorizes).perform p.command).runFrom w = (.ok (.yes false), w') ↔
      e.kind = .notFound)
  /-- Otherwise the reply itself is raised, or is the cause of what is raised in its category. -/
  raised : ∀ {p : Presence} {style categorizes w w' e}, p.Named →
    (p.ask s).runFrom w = (.error (.reply e), w') → e.statusNumber? ≠ some 404 → ¬ e.Disputed →
    e.kind ≠ .notFound →
    ((s.held style categorizes).perform p.command).runFrom w =
      (.error (if categorizes then .categorized e.kind p.command.subject (.reply e) true
        else .reply e), w')
  /-- So no check raises that something is missing. -/
  never_missing : ∀ {p : Presence} {style categorizes w w' e f w₁}, p.Named →
    (p.ask s).runFrom w = (.error (.reply e), w') → ¬ e.Disputed →
    ((s.held style categorizes).perform p.command).runFrom w = (.error f, w₁) →
    f.category? ≠ some .notFound
  /-- And a plain no is about a reply of this category or of status 404. -/
  no_less : ∀ {p : Presence} {style categorizes w w' e w₁}, p.Named →
    (p.ask s).runFrom w = (.error (.reply e), w') → ¬ e.Disputed →
    ((s.held style categorizes).perform p.command).runFrom w = (.ok (.yes false), w₁) →
    e.kind = .notFound ∨ e.statusNumber? = some 404

section Laws
variable {ρ : Type} {s : Store ρ} {p : Presence} {style : CallStyle} {categorizes : Bool}
  {w w' : World ρ} {e : ErrorReply} (named : p.Named)
  (answered : (p.ask s).runFrom w = (.error (.reply e), w'))
include named answered

theorem perform_missing (missing : e.isNotFound = true) :
    ((s.held style categorizes).perform p.command).runFrom w = (.ok (.yes false), w') := by
  refine (BucketClient.runFrom_call_ok_iff ..).mpr ((Store.runFrom_check named style w).trans ?_)
  rw [Action.runFrom_map, Store.runFrom_presence_failed answered, isNotFound, missing]
  rfl

theorem perform_failed (failed : e.isNotFound = false) :
    ((s.held style categorizes).perform p.command).runFrom w =
      (.error (if categorizes then .categorized e.kind p.command.subject (.reply e) true
        else .reply e), w') := by
  have own : (p.command.run (s.adapter World.unguarded) style).runFrom w =
      (.error (.reply e), w') := by
    rw [Store.runFrom_check named style w, Action.runFrom_map,
      Store.runFrom_presence_failed answered, isNotFound, failed]
    rfl
  have about : Failure.pickKey p.command.subject none = p.command.subject := by
    cases p with
    | bucket => rfl
    | object i => simp [Presence.command, Command.subject, Failure.pickKey, show i.key ≠ "" from named]
  rw [← about, ← Store.raised_reply]
  exact Store.runFrom_held_error own

end Laws

/-- Checks of any store, whatever the service answers. -/
theorem existence_of_replies {ρ : Type} (s : Store ρ) : ExistenceLaws s where
  found {p style categorizes w w' reply} named answered := by
    refine (BucketClient.runFrom_call_ok_iff ..).mpr ((Store.runFrom_check named style w).trans ?_)
    rw [Action.runFrom_map, Store.runFrom_presence_found answered]
    rfl
  gone named answered gone :=
    perform_missing named answered (ErrorReply.isNotFound_of_gone gone)
  agrees {p style categorizes w w' e} named answered other clear := by
    rw [← ErrorReply.isNotFound_iff_kind other clear]
    constructor
    · intro ran
      by_contra failed
      rw [perform_failed named answered (Bool.eq_false_iff.mpr failed)] at ran
      cases ran
    · exact perform_missing named answered
  raised named answered other clear unlike :=
    perform_failed named answered
      (Bool.eq_false_iff.mpr fun missing => unlike ((ErrorReply.isNotFound_iff_kind other clear).mp missing))
  never_missing {p style categorizes w w' e f w₁} named answered clear ran := by
    cases missing : e.isNotFound with
    | true =>
        rw [perform_missing named answered missing] at ran
        cases ran
    | false =>
        have other : e.statusNumber? ≠ some 404 := fun gone =>
          Bool.false_ne_true (missing.symm.trans (ErrorReply.isNotFound_of_gone gone))
        have unlike : e.kind ≠ .notFound := fun same =>
          Bool.false_ne_true
            (missing.symm.trans ((ErrorReply.isNotFound_iff_kind other clear).mpr same))
        rw [perform_failed named answered missing] at ran
        cases ran
        cases categorizes with
        | true => exact fun same => unlike (Option.some.inj same)
        | false => nofun
  no_less {p style categorizes w w' e w₁} named answered clear ran := by
    by_cases gone : e.statusNumber? = some 404
    · exact .inr gone
    · left
      rw [← ErrorReply.isNotFound_iff_kind gone clear]
      by_contra failed
      rw [perform_failed named answered (Bool.eq_false_iff.mpr failed)] at ran
      cases ran

/-- A reply whose status says that something is gone, and whose code that it may not be seen. -/
def deniedButGone : ErrorReply where
  operation := "HeadObject"
  code := some (.text "AccessDenied")
  message := some (.text "m")
  status := some (.whole 404)
  requestId := some (.text "r")
  retries := none

/-- It is classified as unauthorized, and is a plain no all the same. -/
theorem unauthorized_but_gone :
    let s : Store Exchange :=
      { client := Exchange.client, config := { provider := "aws" }, bucket := "test-bucket" }
    let w : World Exchange :=
      { remote := { replies := [(.headObject, .error (.reply deniedButGone))] } }
    let asked : World Exchange :=
      Exchange.played w [{ method := .headObject, named := Parameters.place "test-bucket" "k" }]
    deniedButGone.kind = .unauthorized ∧
    ((Presence.object ⟨"k", none⟩).ask s).runFrom w = (.error (.reply deniedButGone), asked) ∧
    ((s.held .blocking true).perform (.objectExists ⟨"k", none⟩)).runFrom w =
      (.ok (.yes false), asked) :=
  ⟨rfl, rfl, rfl⟩

end BlobStorage.S3
