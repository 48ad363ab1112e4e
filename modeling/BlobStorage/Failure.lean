import BlobStorage.Failure.Ambient
import BlobStorage.Failure.Refusal
import BlobStorage.Failure.SettingsFault
import BlobStorage.Memory.Fault
import BlobStorage.S3.Fault

/-!
Failures. Those of the taxonomy have a category and may name a key; the others are native to a
provider or to the surroundings. A native failure becomes one of the taxonomy by being put into a
category, which keeps it as the cause. Categorizing a failure that is already of its category
changes nothing.
-/
namespace BlobStorage

/-- A failure of a class that this library does not know. Its class may be derived from one that has a
category. -/
structure Foreign where
  label : String
  text : String
  /-- The key that it names. -/
  key : Option String := none
  /-- The category of a class of the taxonomy. -/
  category : Option ErrorKind := none
  /-- The category of another class, where it is the same for every provider. -/
  common : Option ErrorKind := none
  deriving Repr

inductive Failure where
  /-- Refused by this library. -/
  | refusal (reason : Refusal) (key : Option String)
  /-- Of the taxonomy, as described from outside; without a category it is of none in
  particular. -/
  | stated (category : Option ErrorKind) (message : String) (key : Option String)
  /-- A native failure put into a category; `chained` says whether it was also the failure being
  handled when this one was raised. -/
  | categorized (category : ErrorKind) (key : Option String) (cause : Failure) (chained : Bool)
  | memory (fault : Memory.Fault)
  | reply (error : S3.ErrorReply)
  | client (fault : S3.ClientFault)
  | ambient (a : Ambient)
  | settings (fault : SettingsFault)
  | foreign (own : Foreign)
  deriving Repr

namespace Failure

/-- A refusal that is about no key. -/
def refused (reason : Refusal) : Failure := refusal reason none

def label : Failure → String
  | refusal reason _ => reason.kind.label
  | stated (some category) _ _ => category.label
  | stated none _ _ => "BlobStoreError"
  | categorized category _ _ _ => category.label
  | memory _ => "MemoryStoreError"
  | reply _ => "ClientError"
  | client fault => fault.kind.label
  | ambient a => a.label
  | settings _ => "ValidationError"
  | foreign own => own.label

/-- What the failure says. A categorized failure says what its cause says, or names the cause's
class if that says nothing. -/
def text : Failure → String
  | refusal reason _ => reason.message
  | stated _ message _ => message
  | categorized _ _ cause _ => if cause.text.isEmpty then cause.label else cause.text
  | memory fault => fault.message
  | reply error => error.text
  | client fault => fault.text
  | ambient a => a.text
  | settings fault => fault.text
  | foreign own => own.text

def key? : Failure → Option String
  | refusal _ key | stated _ _ key | categorized _ key _ _ => key
  | foreign own => own.key
  | _ => none

/-- The category of a failure of the taxonomy; one of no particular category is unknown. -/
def category? : Failure → Option ErrorKind
  | refusal reason _ => some reason.kind
  | stated category _ _ => some (category.getD .unknown)
  | categorized category _ _ _ => some category
  | foreign own => own.category
  | _ => none

def isExactly (f : Failure) (category : ErrorKind) : Bool :=
  match f with
  | refusal reason _ => reason.kind = category
  | stated own _ _ => own = some category
  | categorized own _ _ _ => own = category
  | _ => false

def commonKind? (f : Failure) : Option ErrorKind :=
  match f with
  | client fault => fault.kind.commonKind?
  | ambient a => a.kind?
  | settings _ => some .invalidArgument
  | foreign own => own.category <|> own.common
  | _ => f.category?

def pickKey (key own : Option String) : Option String :=
  match key with
  | some k => if k.isEmpty then own else some k
  | none => own

/-- Puts a failure into a category, about a key or else the key it already names. One that is of
that category already stays as it is. -/
def categorize (f : Failure) (category : ErrorKind) (key : Option String) (chained : Bool) :
    Failure :=
  if f.isExactly category then f else categorized category (pickKey key f.key?) f chained

/-- The failure as it comes out of work that hands over items one by one. -/
def within (source : ItemSource) (f : Failure) : Failure :=
  match f with
  | ambient (.described d) => if d.endsItems then ambient (.itemsEnded source) else f
  | f => f

/-- The failure as those get it who awaited it from a worker: a timeout is built again, and any other
failure is the same. That there are no more items is never told to them. -/
def handed (f : Failure) : Failure :=
  match f with
  | ambient (.described d) => if d.label = "TimeoutError" then ambient (.described d.rebuilt) else f
  | f => f

/-- A failure to build a client, where no provider is there to classify it. -/
def categorizeBuild (f : Failure) (chained : Bool) : Failure :=
  f.categorize (f.commonKind?.getD .unknown) none chained

end Failure

def ErrorKind.ofValue (v : Value) : Except Failure ErrorKind :=
  let found := match v with
    | .text name => ErrorKind.ofName? name
    | _ => none
  match found with
  | some category => .ok category
  | none => .error (.ambient (.notMember v "ErrorKind"))

def Memory.classify (f : Failure) : ErrorKind :=
  match f with
  | .memory fault => fault.kind
  | _ => f.commonKind?.getD .unknown

def S3.isNotFound (f : Failure) : Bool :=
  match f with
  | .reply error => error.isNotFound
  | _ => false

/-- How the S3 provider classifies: a failure of the client is more specific than its common
category. -/
def S3.classify (f : Failure) : ErrorKind :=
  match f with
  | .reply error => error.kind
  | .client fault => fault.kind.kind
  | _ => f.commonKind?.getD .unknown

end BlobStorage
