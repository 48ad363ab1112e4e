import BlobStorage.Proofs.S3.Exchange
import BlobStorage.Proofs.Store

/-!
Uploads to the S3 service, plain and managed. Both are for the same key, offer the same bytes and have
the same wishes for what is stored. But only a plain upload hands on how many of the bytes were declared;
a managed one stores all of them, whatever was declared.
-/
namespace BlobStorage.S3

namespace Parameters

/-- The names of what says where an object goes, what it is made of, and how long it is. -/
def framing : List String := ["Bucket", "Key", "Body", "ContentLength"]

/-- Parameters that are about none of it. -/
def Free (named : Parameters) : Prop := ∀ p ∈ named, p.1 ∉ framing

section Free
variable {name : String} {first second : Parameters}

theorem free_nil : Free [] := nofun

theorem free_append : Free (first ++ second) ↔ Free first ∧ Free second := List.forall_mem_append

theorem free_one (v : Value) (h : name ∉ framing) : Free [(name, v)] := by
  simpa [Free] using h

theorem free_givenText (s : Option String) (h : name ∉ framing) : Free (givenText name s) := by
  unfold givenText
  split
  · split
    · exact free_nil
    · exact free_one _ h
  · exact free_nil

theorem free_metadata (a : Attributes) : Free (metadata a) := by
  unfold metadata
  split
  · exact free_nil
  · exact free_one _ (by decide)

theorem free_tagging (tags : Attributes) : Free (tagging tags) := by
  unfold tagging
  split
  · exact free_nil
  · exact free_one _ (by decide)

theorem free_encryption (key : Option String) : Free (encryption key) := by
  unfold encryption
  split
  · exact free_nil
  · exact free_append.mpr ⟨free_one _ (by decide), free_givenText _ (by decide)⟩

/-- Where neither a lock nor a checksum is asked for, the wishes are free. -/
theorem upload_free {r : UploadRequest} (unlocked : r.lock = none)
    (unchecked : r.checksum.getD "" = "") : ∃ wishes, upload r = .ok wishes ∧ Free wishes := by
  have none_given : givenText "ChecksumCRC32C" r.checksum = [] := by
    cases checksum : r.checksum with
    | none => rfl
    | some text =>
        rw [checksum] at unchecked
        simp [givenText, show text = "" from unchecked]
  refine ⟨metadata r.metadata ++ tagging r.tags ++ givenText "ContentType" r.contentType ++
    encryption r.kmsKey ++ givenText "StorageClass" r.storageClass ++ [] ++ [], ?_, ?_⟩
  · simp only [upload, none_given, unlocked]
    rfl
  · simp only [free_append, free_metadata, free_tagging, free_encryption, free_nil, and_true,
      true_and]
    exact ⟨free_givenText _ (by decide), free_givenText _ (by decide)⟩

end Free
end Parameters

/-- What a call asks the service to store. -/
structure Wanted where
  bucket : Value
  key : Value
  wishes : Parameters
  offered : Content
  /-- How many of the bytes that are offered are to be stored. -/
  length : Int

namespace Wanted

def bytesOf : Value → Option Content
  | .bytes content | .stream content => some content
  | _ => none

/-- Values under texts, read back. -/
def entriesOf : Value → Parameters
  | .table entries => entries.filterMap fun
      | (.text name, v) => some (name, v)
      | _ => none
  | _ => []

def lengthOf (named : Parameters) (offered : Content) : Int :=
  match Table.get? named "ContentLength" with
  | some (.whole n) => n
  | _ => offered.length

/-- The object that a call asks to be stored, if it asks for one. A managed upload has no parameter for
a length, and takes all that it is given. -/
def ofCall? (call : Call) : Option Wanted :=
  match call.method, call.positional with
  | .putObject, [] =>
      match Table.get? call.named "Bucket", Table.get? call.named "Key",
        (Table.get? call.named "Body").bind bytesOf with
      | some bucket, some key, some offered =>
          some { bucket, key, offered, length := lengthOf call.named offered
                 wishes := call.named.filter fun p => decide (p.1 ∉ Parameters.framing) }
      | _, _, _ => none
  | .uploadStream, [.stream offered, bucket, key] =>
      some { bucket, key, offered, length := offered.length
             wishes := entriesOf ((Table.get? call.named "ExtraArgs").getD .null) }
  | _, _ => none

end Wanted

section Calls
variable {s : Store Exchange} {request : UploadRequest} {wishes : Parameters} {content : Content}

def plainCall (s : Store Exchange) (request : UploadRequest) (wishes : Parameters)
    (content : Content) : Call where
  method := .putObject
  named := Parameters.place s.bucket request.key ++ wishes ++ [("Body", .stream content)] ++
    Parameters.length request.contentLength

def managedCall (s : Store Exchange) (transfer : Transfer) (request : UploadRequest)
    (wishes : Parameters) (content : Content) : Call where
  method := .uploadStream
  positional := [.stream content, .text s.bucket, .text request.key]
  named := [("ExtraArgs", Store.extra wishes), ("Config", transfer.value)]

theorem get?_append_free {named : Parameters} {name : String} (free : Parameters.Free named)
    (own : name ∈ Parameters.framing) (more : Parameters) :
    Table.get? (named ++ more) name = Table.get? more name := by
  induction named with
  | nil => rfl
  | cons p rest ih =>
      obtain ⟨k, v⟩ := p
      obtain ⟨here, later⟩ := List.forall_mem_cons.mp free
      have other : k ≠ name := fun same => here (same ▸ own)
      rw [List.cons_append, Table.get?, if_neg other]
      exact ih later

theorem filter_free {named : Parameters} (free : Parameters.Free named) :
    named.filter (fun p => decide (p.1 ∉ Parameters.framing)) = named :=
  List.filter_eq_self.mpr fun p hp => decide_eq_true (free p hp)

/-- A plain upload asks for as many bytes as were declared, or for all. -/
theorem wanted_plainCall (free : Parameters.Free wishes) :
    Wanted.ofCall? (plainCall s request wishes content) =
      some { bucket := .text s.bucket, key := .text request.key, wishes, offered := content
             length := request.contentLength.getD content.length } := by
  have named : (plainCall s request wishes content).named =
      ("Bucket", .text s.bucket) :: ("Key", .text request.key) ::
        (wishes ++ ("Body", .stream content) :: Parameters.length request.contentLength) := by
    simp [plainCall, Parameters.place, Parameters.text, Parameters.givenText]
  have body : Table.get? (plainCall s request wishes content).named "Body" =
      some (.stream content) := by
    rw [named]
    exact get?_append_free free (by decide) _
  have length : Wanted.lengthOf (plainCall s request wishes content).named content =
      request.contentLength.getD content.length := by
    have found : Table.get? (plainCall s request wishes content).named "ContentLength" =
        Table.get? (Parameters.length request.contentLength) "ContentLength" := by
      rw [named]
      exact get?_append_free free (by decide) _
    rw [Wanted.lengthOf, found]
    cases request.contentLength <;> rfl
  have kept : (plainCall s request wishes content).named.filter
      (fun p => decide (p.1 ∉ Parameters.framing)) = wishes := by
    have sized : (Parameters.length request.contentLength).filter
        (fun p => decide (p.1 ∉ Parameters.framing)) = [] := by
      cases request.contentLength <;> rfl
    rw [named]
    simp only [List.filter_cons, List.filter_append, filter_free free, sized]
    exact List.append_nil wishes
  have bucket : Table.get? (plainCall s request wishes content).named "Bucket" =
      some (.text s.bucket) := by
    rw [named]
    rfl
  have key : Table.get? (plainCall s request wishes content).named "Key" =
      some (.text request.key) := by
    rw [named]
    rfl
  unfold Wanted.ofCall?
  rw [show (plainCall s request wishes content).method = .putObject from rfl,
    show (plainCall s request wishes content).positional = [] from rfl]
  simp only [bucket, key, body, Option.bind_some, Wanted.bytesOf, kept, length]

theorem entriesOf_extra (named : Parameters) : Wanted.entriesOf (Store.extra named) = named := by
  unfold Store.extra
  split
  · rename_i none
    exact (List.isEmpty_iff.mp none).symm
  · change List.filterMap _ (named.map _) = named
    rw [List.filterMap_map]
    exact List.filterMap_some

/-- A managed upload asks for all bytes. -/
theorem wanted_managedCall (transfer : Transfer) :
    Wanted.ofCall? (managedCall s transfer request wishes content) =
      some { bucket := .text s.bucket, key := .text request.key, wishes, offered := content
             length := content.length } := by
  have same : Wanted.entriesOf (Store.extra wishes) = wishes := entriesOf_extra wishes
  change some (Wanted.mk _ _ (Wanted.entriesOf (Store.extra wishes)) _ _) = _
  rw [same]

end Calls

namespace Exchange
variable {α : Type} {w : World Exchange} {calls : List Call}

/-- After an action these calls were made. -/
def Makes (a : Op Exchange α) (w : World Exchange) (calls : List Call) : Prop :=
  (a.runFrom w).2.remote.calls = w.remote.calls ++ calls

theorem makes_congr {a b : Op Exchange α} (same : a.runFrom w = b.runFrom w) :
    Makes a w calls ↔ Makes b w calls := by
  rw [Makes, Makes, same]

theorem makes_send (call : Call) (w : World Exchange) : Makes (send call) w [call] := by
  rw [Makes, runFrom_send, calls_played]

theorem makes_of_quiet {a : Op Exchange α} (quiet : Quiet a) (w : World Exchange) : Makes a w [] := by
  unfold Makes
  rw [show (a.runFrom w).2.remote = w.remote from quiet w, List.append_nil]

/-- What comes after some calls adds its own to them, unless they failed. -/
theorem makes_bind {β : Type} {a : Op Exchange α} {f : α → Op Exchange β} (first : Makes a w calls)
    {more : List Call} (later : ∀ x w', Makes (f x) w' more) :
    Makes (a >>= f) w calls ∨ Makes (a >>= f) w (calls ++ more) := by
  rcases ran : a.runFrom w with ⟨e | x, w'⟩
  · left
    unfold Makes at first ⊢
    rw [Action.runFrom_bind_error ran, ← first, ran]
  · right
    unfold Makes at first later ⊢
    rw [Action.runFrom_bind_ok ran, later x w', ← List.append_assoc, ← first, ran]

/-- Reading the reply to a call makes no more calls. -/
theorem makes_read (call : Call) (read : Reply → Except Ambient α) (w : World Exchange) :
    Makes (send call >>= fun reply => Action.ofAmbient (read reply)) w [call] := by
  rcases makes_bind (makes_send call w) fun reply w' =>
    makes_of_quiet (BlobStorage.Store.quiet_ambient (read reply)) w' with made | made
  · exact made
  · exact made

end Exchange

section Sources
variable {files : FileTree} {request : UploadRequest} {content : Content} {source : UploadSource}

/-- A stream or a file that holds these bytes. -/
inductive Streamed (files : FileTree) (content : Content) : UploadSource → Prop
  | stream : Streamed files content (.stream content)
  | file {path : Path} (found : files.read? path = .ok (some content)) :
      Streamed files content (.file path)

/-- An upload that nothing is wrong with before the service is asked. -/
structure Accepted (files : FileTree) (request : UploadRequest) (source : UploadSource)
    (content : Content) : Prop where
  named : request.key ≠ ""
  tagged : Check.tags request.tags = .ok ()
  streamed : Streamed files content source

/-- An upload that asks for a lock or a checksum. -/
def Guarded (request : UploadRequest) : Prop :=
  request.lock ≠ none ∨ request.checksum.getD "" ≠ ""

theorem not_guarded_iff :
    ¬ Guarded request ↔ request.lock = none ∧ request.checksum.getD "" = "" := by
  simp [Guarded]

end Sources

namespace Store
variable {ρ : Type} (s : Store ρ)

/-- The store with managed uploads switched on or off. -/
def switch (managed : Bool) : Store ρ :=
  { s with config := { s.config with parallelUploads := some managed } }

/-- An upload with managed uploads switched on or off. -/
def uploadSwitched (managed : Bool) (request : UploadRequest) (source : UploadSource) :
    Op ρ UploadReceipt :=
  BlobStorage.Store.upload ((s.switch managed).adapter World.unguarded) request source

variable {s} {managed : Bool} {request : UploadRequest} {source : UploadSource} {content : Content}
  {w : World ρ}

/-- Whether a stream or a file, the same bytes go to the service. A file declares its own length
where none was declared. -/
theorem runFrom_uploadSwitched (accepted : Accepted w.files request source content) :
    ∃ declared, declared.getD (content.length : Int) = request.contentLength.getD content.length ∧
      ∀ managed, (s.uploadSwitched managed request source).runFrom w =
        ((s.switch managed).uploadStream World.unguarded
          { request with contentLength := declared } content).runFrom w := by
  obtain ⟨named, tagged, streamed⟩ := accepted
  cases streamed with
  | stream =>
      exact ⟨request.contentLength, rfl, fun managed =>
        BlobStorage.Store.runFrom_upload_stream named tagged⟩
  | @file path found =>
      refine ⟨some (request.contentLength.getD content.length), rfl, fun managed => ?_⟩
      exact (BlobStorage.Store.runFrom_upload_file named tagged found).trans
        (BlobStorage.Store.runFrom_fileUpload found rfl _)

theorem uploadStream_off (request : UploadRequest) (content : Content) (w : World ρ) :
    ((s.switch false).uploadStream World.unguarded request content).runFrom w =
      ((s.switch false).putObject request (.stream content)).runFrom w :=
  World.runFrom_unguarded _ _ _ w

theorem uploadStream_on (request : UploadRequest) (free : ¬ Guarded request) {transfer : Transfer}
    (able : s.transfer = some transfer) (content : Content) (w : World ρ) :
    ((s.switch true).uploadStream World.unguarded request content).runFrom w =
      ((s.switch true).managedUpload transfer request content).runFrom w := by
  obtain ⟨unlocked, unchecked⟩ := not_guarded_iff.mp free
  have on : (s.switch true).managedUploads = some transfer := able
  refine (World.runFrom_unguarded _ _ _ w).trans ?_
  rw [on]
  simp [unlocked, unchecked]

/-- An upload with something to guard is a plain one, whatever is switched on. -/
theorem uploadStream_guarded (managed : Bool) (request : UploadRequest) (guarded : Guarded request)
    (content : Content) : (s.switch managed).uploadStream World.unguarded request content =
      (World.unguarded .uploadStream request.key >>= fun _ =>
        s.putObject request (.stream content)) := by
  have decided : (request.lock.isNone && (request.checksum.getD "").isEmpty) = false := by
    rcases guarded with locked | checked
    · simp [Option.isNone_eq_false_iff.mpr (Option.ne_none_iff_isSome.mp locked)]
    · simp [checked]
  unfold uploadStream
  rw [decided]
  cases (s.switch managed).managedUploads <;> rfl

theorem uploadSwitched_guarded (guarded : Guarded request) :
    s.uploadSwitched true request source = s.uploadSwitched false request source := by
  have streams : ∀ declared content, (s.switch true).uploadStream World.unguarded
        { request with contentLength := declared } content =
      (s.switch false).uploadStream World.unguarded
        { request with contentLength := declared } content := by
    intro declared content
    let sized := { request with contentLength := declared }
    have guarded : Guarded sized := guarded
    exact (uploadStream_guarded true sized guarded content).trans
      (uploadStream_guarded false sized guarded content).symm
  unfold uploadSwitched BlobStorage.Store.upload
  cases source with
  | bytes content => rfl
  | unsupported typeName => rfl
  | stream content =>
      have same := streams request.contentLength content
      simp only [adapter, same]
  | file path => simp only [adapter, Adapter.fileUpload, streams]

end Store

/-- A store whose client keeps a record of its calls, and which can manage uploads. -/
def recorded (config : Config) (bucket : String) (transfer : Transfer) (closable : Bool) :
    Store Exchange where
  client := Exchange.client closable
  config := config
  bucket := bucket
  transfer := some transfer

/-- What an action asks to be stored. -/
def asked {α : Type} (a : Op Exchange α) (w : World Exchange) : List Wanted :=
  ((a.runFrom w).2.remote.calls.drop w.remote.calls.length).filterMap Wanted.ofCall?

theorem asked_of_makes {α : Type} {a : Op Exchange α} {w : World Exchange} {calls : List Call}
    (made : Exchange.Makes a w calls) : asked a w = calls.filterMap Wanted.ofCall? := by
  rw [asked, made, List.drop_left]

section Recorded
variable {s : Store Exchange} {request : UploadRequest} {wishes : Parameters} (transfer : Transfer)
  (content : Content) (recording : s.client.send = Exchange.send)
  (wished : Parameters.upload request = .ok wishes)
include recording wished

theorem makes_putObject (w : World Exchange) :
    Exchange.Makes (s.putObject request (.stream content)) w
      [plainCall s request wishes content] := by
  unfold Store.putObject
  rw [wished]
  change Exchange.Makes (s.client.send (plainCall s request wishes content) >>= _) w _
  rw [recording]
  exact Exchange.makes_read _ _ w

/-- A managed upload may be followed by a look at what was stored. -/
theorem makes_managedUpload (w : World Exchange) :
    ∃ more, Exchange.Makes (s.managedUpload transfer request content) w
        (managedCall s transfer request wishes content :: more) ∧
      ∀ call ∈ more, call.method = .headObject := by
  unfold Store.managedUpload
  rw [wished]
  change ∃ more, Exchange.Makes
    (s.client.send (managedCall s transfer request wishes content) >>= _) w _ ∧ _
  simp only [Client.request, recording]
  rcases Exchange.makes_bind (Exchange.makes_send _ w) fun _ w' =>
    Exchange.makes_read ⟨.headObject, [], Parameters.place s.bucket request.key⟩ _ w' with made | made
  · exact ⟨[], made, nofun⟩
  · exact ⟨_, made, by simp⟩

end Recorded

def Store.wanted {ρ : Type} (s : Store ρ) (request : UploadRequest) (wishes : Parameters)
    (content : Content) (length : Int) : Wanted where
  bucket := .text s.bucket
  key := .text request.key
  wishes := wishes
  offered := content
  length := length

/-- What it means for uploads to switch between plain and managed ones. -/
structure UploadLaws (s : Store Exchange) : Prop where
  /-- With no lock and no checksum, either upload of a stream or a file makes one call that stores
  anything. Both are for the same key, with the same wishes, and offer the same bytes. The plain one asks
  for as many of them as were declared, or for all; the managed one asks for all. -/
  alike : ∀ {request source content} {w : World Exchange}, ¬ Guarded request →
    Accepted w.files request source content → ∃ wishes plain managed more,
      Parameters.upload request = .ok wishes ∧
      Exchange.Makes (s.uploadSwitched false request source) w [plain] ∧
      Exchange.Makes (s.uploadSwitched true request source) w (managed :: more) ∧
      (∀ call ∈ more, call.method = .headObject) ∧
      Wanted.ofCall? plain = some (s.wanted request wishes content
        (request.contentLength.getD content.length)) ∧
      Wanted.ofCall? managed = some (s.wanted request wishes content content.length)
  /-- So the switch changes what is to be stored just where a length is declared that is not that of the
  bytes. -/
  same_iff : ∀ {request source content} {w : World Exchange}, ¬ Guarded request →
    Accepted w.files request source content →
      (asked (s.uploadSwitched true request source) w =
          asked (s.uploadSwitched false request source) w ↔
        ∀ n ∈ request.contentLength, n = content.length)
  /-- With a lock or a checksum, and for bytes at hand, the switch makes no difference at all. -/
  plainly : ∀ {request source}, Guarded request ∨ (∃ content, source = .bytes content) →
    s.uploadSwitched true request source = s.uploadSwitched false request source
  /-- What is no stream and no file, and what is asked for wrongly, is refused either way and the service
  is asked for nothing. -/
  refused : ∀ {request source} {w : World Exchange}, (∀ content, source ≠ .bytes content) →
    (∀ content, ¬ Accepted w.files request source content) →
      ∃ e, ∀ managed, (s.uploadSwitched managed request source).runFrom w = (.error e, w)

section Laws
variable {s : Store Exchange} {request : UploadRequest} {source : UploadSource} {content : Content}
  {w : World Exchange}

theorem alike_of_recording {transfer : Transfer} (recording : s.client.send = Exchange.send)
    (able : s.transfer = some transfer) (free : ¬ Guarded request)
    (accepted : Accepted w.files request source content) : ∃ wishes plain managed more,
      Parameters.upload request = .ok wishes ∧
      Exchange.Makes (s.uploadSwitched false request source) w [plain] ∧
      Exchange.Makes (s.uploadSwitched true request source) w (managed :: more) ∧
      (∀ call ∈ more, call.method = .headObject) ∧
      Wanted.ofCall? plain = some (s.wanted request wishes content
        (request.contentLength.getD content.length)) ∧
      Wanted.ofCall? managed = some (s.wanted request wishes content content.length) := by
  obtain ⟨unlocked, unchecked⟩ := not_guarded_iff.mp free
  obtain ⟨declared, length, ran⟩ := s.runFrom_uploadSwitched accepted
  obtain ⟨wishes, wished, own⟩ := Parameters.upload_free unlocked unchecked
  -- The wishes say nothing of the length.
  let sized := { request with contentLength := declared }
  have wished' : Parameters.upload sized = .ok wishes := wished
  obtain ⟨more, made, looks⟩ :=
    makes_managedUpload (s := s.switch true) transfer content recording wished' w
  have plain := makes_putObject (s := s.switch false) content recording wished' w
  refine ⟨wishes, plainCall s sized wishes content, managedCall s transfer sized wishes content, more,
    wished, ?_, ?_, looks, ?_, wanted_managedCall transfer⟩
  · exact (Exchange.makes_congr
      ((ran false).trans (Store.uploadStream_off sized content w))).mpr plain
  · exact (Exchange.makes_congr
      ((ran true).trans (Store.uploadStream_on sized free able content w))).mpr made
  · rw [wanted_plainCall own, ← length]
    rfl

theorem filterMap_of_looks {more : List Call} (looks : ∀ call ∈ more, call.method = .headObject) :
    more.filterMap Wanted.ofCall? = [] := by
  rw [List.filterMap_eq_nil_iff]
  intro call listed
  rw [Wanted.ofCall?, looks call listed]

theorem refused_of_source (not_bytes : ∀ content, source ≠ .bytes content)
    (wrong : ∀ content, ¬ Accepted w.files request source content) :
    ∃ e, ∀ managed, (s.uploadSwitched managed request source).runFrom w = (.error e, w) := by
  unfold Store.uploadSwitched BlobStorage.Store.upload
  cases checked : Check.key request.key with
  | error e => exact ⟨e, fun _ => BlobStorage.Store.runFrom_check_bind_error rfl _ w⟩
  | ok _ =>
  simp only [BlobStorage.Store.runFrom_check_bind_ok rfl]
  have named := (Check.key_eq_ok_iff _).mp checked
  cases tagged : Check.tags request.tags with
  | error e => exact ⟨e, fun _ => BlobStorage.Store.runFrom_check_bind_error rfl _ w⟩
  | ok _ =>
  simp only [BlobStorage.Store.runFrom_check_bind_ok rfl]
  cases source with
  | bytes content => exact absurd rfl (not_bytes content)
  | stream content => exact absurd ⟨named, tagged, .stream⟩ (wrong content)
  | unsupported typeName => exact ⟨_, fun _ => rfl⟩
  | file path =>
      simp only [Action.runFrom_bind_ok (Action.runFrom_get w)]
      cases found : w.files.isFile path with
      | error e => exact ⟨_, fun _ => Action.runFrom_ambient_bind_error rfl _ w⟩
      | ok there =>
          cases there with
          | false => exact ⟨_, fun _ => rfl⟩
          | true =>
              obtain ⟨content, read⟩ := FileTree.isFile_eq_true_iff.mp found
              exact absurd ⟨named, tagged, .file read⟩ (wrong content)

end Laws

/-- Uploads of any store, whatever replies it gets. -/
theorem uploads_of_switch (config : Config) (bucket : String) (transfer : Transfer)
    (closable : Bool) : UploadLaws (recorded config bucket transfer closable) where
  alike free accepted := alike_of_recording rfl rfl free accepted
  same_iff {request source content w} free accepted := by
    obtain ⟨wishes, plain, managed, more, -, off, on, looks, few, all⟩ :=
      alike_of_recording (s := recorded config bucket transfer closable) rfl rfl free accepted
    rw [asked_of_makes off, asked_of_makes on, List.filterMap_cons, all, filterMap_of_looks looks,
      List.filterMap_cons, few]
    cases request.contentLength <;> simp [Store.wanted, eq_comm]
  plainly := by
    rintro request source (guarded | ⟨content, rfl⟩)
    · exact Store.uploadSwitched_guarded guarded
    · rfl
  refused := refused_of_source

end BlobStorage.S3
