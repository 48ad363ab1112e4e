import BlobStorage.Proofs.Memory.Completion
import BlobStorage.Proofs.Memory.Looking
import BlobStorage.Proofs.Memory.Serving

/-!
What one upload does. The source and the declared length decide which bytes a store takes: bytes at
hand go whole, and a stream or a file must give as many as were declared. Where it takes any, the
upload writes them as the newest version of the key, in the same way for every source.
-/
namespace BlobStorage

namespace Content

/-- What a reader of these bytes gives under a declared length: the first so many of them, or all
where no length was declared. -/
def Cut (content : Content) : Option Int → Content → Prop
  | none, given => given = content
  | some n, given => given <+: content ∧ Int.ofNat given.length = n ∧ n ≤ 9223372036854775807

/-- A way of reading that gives all of the bytes, or as many as it is asked for. -/
structure Reads (read : Int → Except Ambient Content) (content : Content) : Prop where
  all : read (-1) = .ok content
  counted : ∀ n given,
    read n = .ok given ∧ Int.ofNat given.length = n ↔ content.Cut (some n) given

theorem read_eq_ok_iff (content given : Content) (n : Int) :
    content.read n = .ok given ↔ (-9223372036854775808 ≤ n ∧ n ≤ 9223372036854775807) ∧
      given = if n < 0 then content else content.take n.toNat := by
  unfold read
  split
  · rename_i far
    exact iff_of_false nofun fun near => by omega
  · rename_i near
    rw [Except.ok.injEq, eq_comm, and_iff_right]
    omega

theorem readFile_eq_ok_iff (content given : Content) (n : Int) :
    content.readFile n = .ok given ↔ -1 ≤ n ∧ content.read n = .ok given := by
  unfold readFile
  cases found : content.read n with
  | error e => exact iff_of_false nofun fun h => nomatch h.2
  | ok taken =>
      change (if n < -1 then Except.error Ambient.readLength else Except.ok taken) = .ok given ↔ _
      split
      · exact iff_of_false nofun fun h => absurd h.1 (by omega)
      · exact ⟨fun h => ⟨by omega, h⟩, And.right⟩

/-- The first so many bytes are those that a count which is not negative asks for. -/
theorem cut_iff_take (content given : Content) (n : Int) :
    content.Cut (some n) given ↔
      given = content.take n.toNat ∧ 0 ≤ n ∧ n ≤ content.length ∧ n ≤ 9223372036854775807 := by
  constructor
  · intro ⟨sub, long, few⟩
    have fits := sub.length_le
    rw [Int.ofNat_eq_natCast] at long
    refine ⟨?_, by omega, by omega, few⟩
    rw [← long, Int.toNat_natCast]
    exact List.prefix_iff_eq_take.mp sub
  · rintro ⟨rfl, positive, fits, few⟩
    refine ⟨List.take_prefix .., ?_, few⟩
    rw [List.length_take, Int.ofNat_eq_natCast]
    omega

theorem reads_read (content : Content) : Reads content.read content := by
  refine ⟨rfl, fun n given => ?_⟩
  rw [read_eq_ok_iff, cut_iff_take]
  constructor
  · rintro ⟨⟨⟨_, few⟩, rfl⟩, long⟩
    rw [Int.ofNat_eq_natCast] at long
    have positive : ¬ n < 0 := by omega
    rw [if_neg positive, List.length_take] at long
    exact ⟨if_neg positive, by omega, by omega, few⟩
  · rintro ⟨rfl, positive, fits, few⟩
    rw [if_neg (by omega), List.length_take, Int.ofNat_eq_natCast]
    exact ⟨⟨⟨by omega, few⟩, rfl⟩, by omega⟩

theorem reads_readFile (content : Content) : Reads content.readFile content := by
  refine ⟨rfl, fun n given => ?_⟩
  rw [readFile_eq_ok_iff, ← (reads_read content).counted]
  constructor
  · exact fun h => ⟨h.1.2, h.2⟩
  · refine fun h => ⟨⟨?_, h.1⟩, h.2⟩
    rw [← h.2, Int.ofNat_eq_natCast]
    omega

theorem Cut.whole {content : Content} {declared : Option Int}
    (fits : declared = none ∨ declared = some (Int.ofNat content.length))
    (short : content.length ≤ 9223372036854775807) : content.Cut declared content := by
  cases fits with
  | inl none => exact none ▸ rfl
  | inr own =>
      rw [own]
      refine ⟨List.prefix_refl _, rfl, ?_⟩
      rw [Int.ofNat_eq_natCast]
      omega

end Content

namespace UploadSource

/-- The bytes that a store takes from a source under a declared length. A file that has none is
read for as long as it is. -/
inductive Offers (files : FileTree) (declared : Option Int) : UploadSource → Content → Prop
  | bytes (content : Content) : Offers files declared (.bytes content) content
  | stream {content given : Content} :
      content.Cut declared given → Offers files declared (.stream content) given
  | file {path : Path} {content given : Content} :
      files.read? path = .ok (some content) →
      content.Cut (some (declared.getD (Int.ofNat content.length))) given →
      Offers files declared (.file path) given

/-- The source has these bytes, in whatever way. -/
inductive Holds (files : FileTree) (content : Content) : UploadSource → Prop
  | bytes : Holds files content (.bytes content)
  | stream : Holds files content (.stream content)
  | file {path : Path} : files.read? path = .ok (some content) → Holds files content (.file path)

/-- All that a source has is taken where its length is declared rightly or not at all. -/
theorem Holds.offers {files : FileTree} {content : Content} {source : UploadSource}
    {declared : Option Int} (holds : source.Holds files content)
    (fits : declared = none ∨ declared = some (Int.ofNat content.length))
    (short : content.length ≤ 9223372036854775807) : source.Offers files declared content := by
  cases holds with
  | bytes => exact .bytes content
  | stream => exact .stream (.whole fits short)
  | file found =>
      refine .file found (.whole (.inr ?_) short)
      cases fits with
      | inl none => rw [none, Option.getD_none]
      | inr own => rw [own, Option.getD_some]

theorem Offers.length_eq_iff {files : FileTree} {given : Content} {source : UploadSource} {n : Int}
    (offers : source.Offers files (some n) given) :
    Int.ofNat given.length = n ↔
      ∀ content, source = .bytes content → Int.ofNat content.length = n := by
  cases offers with
  | bytes content =>
      constructor
      · rintro long _ ⟨⟩
        exact long
      · exact fun all => all _ rfl
  | stream cut => exact iff_of_true cut.2.1 nofun
  | file found cut => exact iff_of_true cut.2.1 nofun

end UploadSource

namespace Memory

/-- No failure is planned for the caller's store. -/
def Caller.Unhindered (c : Caller) (w : World Backend) : Prop := ∀ p, c.Spared p w

theorem Caller.Unhindered.congr {c : Caller} {w w' : World Backend} (free : c.Unhindered w)
    (same : w'.interceptions = w.interceptions) : c.Unhindered w' := by
  intro p store planned i hi
  rw [same] at hi
  exact free p store planned i hi

theorem runFrom_classify {c : Caller} {w : World Backend} (free : c.Unhindered w) (f : Failure) :
    (c.adapter.classify f).runFrom w = (.ok (classify f), w) :=
  Action.runFrom_bind_ok (runFrom_guardOf (free .classify) none) _

/-- A failure comes out of the client as the caller hears it. -/
theorem call_error_of_unhindered {c : Caller} {α : Type} {key : Option String}
    {action : Op Backend α} {w w' : World Backend} {f : Failure} (free : c.Unhindered w')
    (failed : action.runFrom w = (.error f, w')) :
    (c.client.call key action).runFrom w = (.error (c.heard key f), w') :=
  BucketClient.runFrom_call_classified failed (runFrom_classify free _)

/-- What is let pass leaves the backend and the local files alone. -/
theorem ok_of_guard_bind {plans : Option Nat} {p : Primitive} {key : Option String} {α : Type}
    {f : Unit → Op Backend α} {w w' : World Backend} {y : α}
    (ran : (guardOf plans p key >>= f).runFrom w = (.ok y, w')) :
    ∃ w₁, w₁.remote = w.remote ∧ w₁.files = w.files ∧ (f ()).runFrom w₁ = (.ok y, w') := by
  obtain ⟨_, w₁, passed, ran⟩ := Action.ok_of_bind_ok ran
  have aside : Aside (On w.remote) w _ := aside_guardOf plans p key w
  rw [passed] at aside
  exact ⟨w₁, aside.2 rfl, aside.1, ran⟩

def Version.receipt (v : Version) (request : UploadRequest) : UploadReceipt :=
  { key := request.key, version := v.id, etag := v.etag, checksum := v.checksum.map .known }

theorem checkDeclared_eq_ok_iff (request : UploadRequest) (given : Content) :
    Store.checkDeclared request given = .ok () ↔
      ∀ n ∈ request.contentLength, Int.ofNat given.length = n := by
  unfold Store.checkDeclared
  split
  · rename_i undeclared
    exact iff_of_true rfl (by simp [undeclared])
  · rename_i n declared
    simp [declared]

/-- What is read and found to be as long as declared is what the reader gives. -/
theorem read_declared_iff {read : Int → Except Ambient Content} {content : Content}
    (reads : content.Reads read) (request : UploadRequest) (given : Content) :
    read (request.contentLength.getD (-1)) = .ok given ∧ Store.checkDeclared request given = .ok () ↔
      content.Cut request.contentLength given := by
  rw [checkDeclared_eq_ok_iff]
  cases declared : request.contentLength with
  | none =>
      rw [Option.getD_none, reads.all, Except.ok.injEq]
      exact ⟨fun h => h.1.symm, fun h => ⟨h.symm, nofun⟩⟩
  | some n =>
      rw [Option.getD_some, ← reads.counted]
      simp [Option.mem_def]

section Item
variable {c : Caller} {w w' : World Backend} {request : UploadRequest} {given content : Content}
  {v : Version} {t : Backend} {receipt : UploadReceipt}

/-- What has happened once these bytes have been uploaded. -/
def Writes (c : Caller) (request : UploadRequest) (given : Content) (w w' : World Backend)
    (receipt : UploadReceipt) : Prop :=
  ∃ v, w.remote.store c.store.bucket request.key (Store.draftOf request given) = .ok (v, w'.remote) ∧
    receipt = v.receipt request

section Runs
variable (free : c.Unhindered w)
  (stored : w.remote.store c.store.bucket request.key (Store.draftOf request given) = .ok (v, t))
include free stored

theorem runFrom_uploadBytes :
    (Store.uploadBytes c.store (guardOf c.plans) request given).runFrom w =
      (.ok (v.receipt request), { w with remote := t }) := by
  have changed : (Store.change fun b => b.store c.store.bucket request.key
      (Store.draftOf request given)).runFrom w = (.ok v, { w with remote := t }) :=
    Store.runFrom_change_ok stored
  exact (Action.runFrom_bind_ok (runFrom_guardOf (free .uploadBytes) _) _).trans
    (Action.runFrom_bind_ok changed _)

theorem runFrom_uploadRead {read : Int → Except Ambient Content} (reads : content.Reads read)
    (cut : content.Cut request.contentLength given) :
    (Store.uploadRead c.store (guardOf c.plans) read request).runFrom w =
      (.ok (v.receipt request), { w with remote := t }) := by
  obtain ⟨found, accepted⟩ := (read_declared_iff reads request given).mpr cut
  have checked : (Store.see fun _ => Store.checkDeclared request given).runFrom w = (.ok (), w) := by
    rw [Store.runFrom_see, accepted]
    rfl
  refine (Action.runFrom_bind_ok (runFrom_guardOf (free .uploadStream) _) _).trans ?_
  rw [Action.runFrom_ambient_bind_ok found, Action.runFrom_bind_ok checked]
  exact runFrom_uploadBytes free stored

theorem runFrom_upload {source : UploadSource} (named : request.key ≠ "")
    (tagged : Check.tags request.tags = .ok ())
    (offers : source.Offers w.files request.contentLength given) :
    (BlobStorage.Store.upload c.adapter request source).runFrom w =
      (.ok (v.receipt request), { w with remote := t }) := by
  cases offers with
  | bytes =>
      exact (BlobStorage.Store.runFrom_upload_bytes named tagged).trans (runFrom_uploadBytes free stored)
  | stream cut =>
      exact (BlobStorage.Store.runFrom_upload_stream named tagged).trans
        (runFrom_uploadRead free stored (Content.reads_read _) cut)
  | @file path content _ found cut =>
      -- What is written does not depend on the declared length.
      let sized := { request with
        contentLength := some (request.contentLength.getD (Int.ofNat content.length)) }
      have written : w.remote.store c.store.bucket sized.key (Store.draftOf sized given) =
        .ok (v, t) := stored
      have sent := runFrom_uploadRead free written (Content.reads_readFile content) cut
      refine (BlobStorage.Store.runFrom_upload_file named tagged found).trans ?_
      have passed := runFrom_guardOf (free .uploadFile) (some request.key)
      exact (BlobStorage.Store.runFrom_fileUpload found passed _).trans sent

end Runs

section Inversion

theorem writes_of_uploadBytes
    (ran : (Store.uploadBytes c.store (guardOf c.plans) request given).runFrom w = (.ok receipt, w')) :
    Writes c request given w w' receipt := by
  obtain ⟨w₁, same, _, ran⟩ := ok_of_guard_bind ran
  obtain ⟨v, w₂, changed, answered⟩ := Action.ok_of_bind_ok ran
  cases answered
  have stored := (Store.atomic_change _).of_ok changed
  exact ⟨v, same ▸ stored, rfl⟩

theorem writes_of_uploadRead {read : Int → Except Ambient Content} (reads : content.Reads read)
    (ran : (Store.uploadRead c.store (guardOf c.plans) read request).runFrom w = (.ok receipt, w')) :
    ∃ given, content.Cut request.contentLength given ∧ Writes c request given w w' receipt := by
  obtain ⟨w₁, same, _, ran⟩ := ok_of_guard_bind ran
  obtain ⟨given, found, ran⟩ := Action.ok_of_ambient_bind ran
  obtain ⟨_, w₂, seen, ran⟩ := Action.ok_of_bind_ok ran
  obtain ⟨unchanged, accepted⟩ := (Store.atomic_see _).of_ok seen
  obtain ⟨v, stored, told⟩ := writes_of_uploadBytes ran
  rw [unchanged, same] at stored
  exact ⟨given, (read_declared_iff reads request given).mp ⟨found, accepted⟩, v, stored, told⟩

/-- An upload that succeeds has written what its source offers. -/
theorem writes_of_upload {source : UploadSource}
    (ran : (BlobStorage.Store.upload c.adapter request source).runFrom w = (.ok receipt, w')) :
    request.key ≠ "" ∧ Check.tags request.tags = .ok () ∧
      ∃ given, source.Offers w.files request.contentLength given ∧
        Writes c request given w w' receipt := by
  obtain ⟨named, ran⟩ := BlobStorage.Store.ok_of_check_bind ran
  obtain ⟨tagged, ran⟩ := BlobStorage.Store.ok_of_check_bind ran
  refine ⟨(Check.key_eq_ok_iff _).mp named, tagged, ?_⟩
  cases source with
  | bytes content => exact ⟨content, .bytes content, writes_of_uploadBytes ran⟩
  | stream content =>
      obtain ⟨given, cut, writes⟩ := writes_of_uploadRead (Content.reads_read content) ran
      exact ⟨given, .stream cut, writes⟩
  | file path =>
      rw [Action.runFrom_bind_ok (Action.runFrom_get w)] at ran
      obtain ⟨there, _, ran⟩ := Action.ok_of_ambient_bind ran
      cases there with
      | false => cases ran
      | true =>
          obtain ⟨w₁, same, files, ran⟩ := ok_of_guard_bind ran
          rw [Action.runFrom_bind_ok (Action.runFrom_get w₁)] at ran
          obtain ⟨found, read, ran⟩ := Action.ok_of_ambient_bind ran
          cases found with
          | none => cases ran
          | some content =>
              obtain ⟨given, cut, v, stored, told⟩ :=
                writes_of_uploadRead (Content.reads_readFile content) ran
              exact ⟨given, .file (files ▸ read) cut, v, same ▸ stored, told⟩
  | unsupported typeName => cases ran

end Inversion
end Item

theorem Backend.exists_store {s : Backend} {bucket : String} (there : s.hasBucket bucket = true)
    (key : String) (draft : Draft) :
    ∃ v t, s.store bucket key draft = .ok (v, t) ∧ t.hasBucket bucket = true := by
  obtain ⟨b, found⟩ := there_of_hasBucket there
  refine ⟨_, _, (Backend.store_eq_ok_iff ..).mpr ⟨b, found, rfl, rfl⟩, ?_⟩
  simp only [hasBucket, Table.contains, get?_setBucket, found]
  split <;> rfl

end Memory
end BlobStorage
