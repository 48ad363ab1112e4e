import BlobStorage.Proofs.Directory.Serving
import BlobStorage.Proofs.S3.ByteRange
import BlobStorage.Proofs.S3.Service

/-!
Downloads from a store of versions while others write. What asks once, and what names a version, tells
of the very version whose bytes it delivers. But a managed download of the newest version looks at the
newest one twice, and tells of what it saw first while it delivers what it saw last.
-/
namespace BlobStorage.S3

/-- Metadata that tell of a version of which so many bytes were sent. -/
structure Tells (metadata : BlobMetadata) (o : ObjectVersion) (length : Nat) : Prop where
  etag : metadata.etag = some (.known o.etag)
  version : metadata.version = some (.known o.id)
  size : metadata.size = .known (length : Int)

theorem said?_of_part? {α : Type} [Sayable α] {v x : Value} {name : String}
    (has : v.part? name = .ok (some x)) :
    (Document.said? v name : Except Ambient (Option (Reported α))) = .ok (Reported.ofValue? x) := by
  rw [Document.said?, Value.partOr, has]
  rfl

theorem size_of_part? {v x : Value} {name : String} (has : v.part? name = .ok (some x)) :
    Document.size v name = .ok (Reported.ofValue x) := by
  rw [Document.size, Value.partOr, has]
  rfl

/-- Metadata tell of what the reply tells of. -/
theorem tells_of_metadataOf {key : String} {reply : Value} {o : ObjectVersion} {length : Nat}
    {metadata : BlobMetadata} (described : Describes reply o length)
    (read : Store.metadataOf key reply = .ok metadata) : Tells metadata o length := by
  unfold Store.metadataOf at read
  rw [said?_of_part? described.etag, size_of_part? described.size,
    said?_of_part? described.version] at read
  simp only [bind_eq_ok_iff] at read
  obtain ⟨_, ⟨⟩, _, ⟨⟩, _, ⟨⟩, _, -, _, -, _, -, _, -, _, -, _, -, told⟩ := read
  cases told
  exact ⟨rfl, rfl, rfl⟩

namespace Store
variable {ρ : Type} {s : Store ρ} {v : Versioned ρ} {request : DownloadRequest}
  {content : Content} {reply : DownloadReply} {w w' : World ρ}

theorem getObject_eq (s : Store ρ) (request : DownloadRequest) : s.getObject request =
    s.client.send { method := .getObject
                    named := Parameters.place s.bucket request.key request.version ++
                      rangeParameter request.rangeHeader } := rfl

theorem streamOf_of_part {reply : Reply} (has : reply.value.part "Body" = .ok (.stream content)) :
    streamOf reply = .ok { content, failure := reply.bodyFailure } := by
  rw [streamOf, bodyOf, has]
  rfl

section Answered
variable (answers : Answers s.client v)
include answers

theorem later_of_closeBody {u : Unit} (ran : s.closeBody.runFrom w = (.ok u, w')) :
    v.Later w.remote w'.remote := by
  obtain ⟨reply, w₁, sent, done⟩ := Action.ok_of_bind_ok ran
  cases done
  have later := answers.later ⟨.closeBody, [], []⟩ w
  rwa [show (s.client.send ⟨.closeBody, [], []⟩).runFrom w = _ from sent] at later

/-- A plain download is told of the version whose bytes it reads. -/
theorem sees_of_fetch (checked : Check.range request = .ok ())
    (ran : (s.fetch request).runFrom w = (.ok (content, reply), w')) :
    ∃ o, v.Sees w.remote w'.remote s.bucket request.key request.version o ∧
      content = request.cut o.content ∧ Tells reply.metadata o content.length := by
  unfold fetch at ran
  rw [getObject_eq] at ran
  obtain ⟨answer, w₁, sent, ran⟩ := Action.ok_of_bind_ok ran
  obtain ⟨o, part, ⟨now, before, after, seen⟩, cut, described, body⟩ := answers.get sent
  rw [Action.runFrom_ambient_bind_ok (streamOf_of_part body)] at ran
  obtain ⟨_, w₂, closed, ran⟩ := Action.ok_of_bind_ok ran
  have later := later_of_closeBody answers closed
  dsimp only at ran
  cases failure : answer.bodyFailure with
  | some f =>
      rw [failure] at ran
      cases ran
  | none =>
      rw [failure] at ran
      obtain ⟨metadata, read, done⟩ := Action.ok_of_ambient_bind ran
      cases done
      exact ⟨o, ⟨now, before, v.later_trans after later, seen⟩,
        ByteRange.cut_of_cut? checked cut, tells_of_metadataOf described read⟩

/-- A managed download is told of the version that it saw first, and is given the bytes of the one that
it saw after that. -/
theorem sees_of_managedDownload {transfer : Transfer}
    (ran : (s.managedDownload World.unguarded transfer request).runFrom w =
      (.ok (content, reply), w')) :
    ∃ between o o', v.Sees w.remote between s.bucket request.key request.version o ∧
      v.Sees between w'.remote s.bucket request.key request.version o' ∧
      content = o'.content ∧ Tells reply.metadata o o.content.length := by
  obtain ⟨metadata, w₁, looked, ran⟩ := Action.ok_of_bind_ok ran
  obtain ⟨answer, w₂, sent, done⟩ := Action.ok_of_bind_ok ran
  cases done
  unfold getMetadata at looked
  rw [World.runFrom_unguarded] at looked
  obtain ⟨head, w₃, asked, told⟩ := Action.ok_of_bind_ok looked
  obtain ⟨o, seen, described⟩ := answers.head asked
  obtain ⟨o', seen', bytes⟩ := answers.download sent
  obtain ⟨read, rfl⟩ := Action.runFrom_ambient_ok_iff.mp told
  exact ⟨_, o, o', seen, seen', bytes, tells_of_metadataOf described read⟩

end Answered

/-- Where the bytes of a download are put outside: a stream or a file. -/
inductive Outward : Destination → Prop
  | stream : Outward .stream
  | file (path : Path) : Outward (.file path)

/-- A download to the outside that succeeds has come through the adapter, for a range that was accepted. -/
theorem ok_of_outward {a : Adapter ρ} {destination : Destination} {d : Delivery}
    (outward : Outward destination)
    (ran : (BlobStorage.Store.download a request destination).runFrom w = (.ok d, w')) :
    Check.range request = .ok () ∧ ∃ content w₁ w₂,
      (a.downloadToStream request).runFrom w₁ = (.ok (content, d.reply), w₂) ∧
      d.delivered = some content ∧ w₁.remote = w.remote ∧ w₂.remote = w'.remote := by
  obtain ⟨-, ran⟩ := BlobStorage.Store.ok_of_check_bind ran
  obtain ⟨checked, ran⟩ := BlobStorage.Store.ok_of_check_bind ran
  refine ⟨checked, ?_⟩
  cases outward with
  | stream =>
      obtain ⟨⟨content, reply⟩, w₂, came, done⟩ := Action.ok_of_bind_ok ran
      cases done
      exact ⟨content, w, w', came, rfl, rfl, rfl⟩
  | file path =>
      obtain ⟨name, content, w₁, -, came, delivered, rfl⟩ := BlobStorage.Store.ok_of_downloadToFile ran
      exact ⟨content, _, w₁, came, delivered, rfl, rfl⟩

/-- A download that asks once, or for a version that it names. -/
def Settled (s : Store ρ) (request : DownloadRequest) : Prop :=
  s.managedDownloads = none ∨ request.hasRange = true ∨ request.version.getD "" ≠ ""

theorem cut_of_whole (whole : request.hasRange = false) (content : Content) :
    request.cut content = content := by
  obtain ⟨key, version, start, stop⟩ := request
  cases start <;> cases stop <;> first | rfl | cases whole

section Outside
variable (answers : Answers s.client v)
include answers

theorem sees_of_settled (settled : s.Settled request) (checked : Check.range request = .ok ())
    (ran : (s.downloadToStream World.unguarded request).runFrom w = (.ok (content, reply), w')) :
    ∃ o, v.Sees w.remote w'.remote s.bucket request.key request.version o ∧
      content = request.cut o.content ∧ Tells reply.metadata o content.length := by
  unfold downloadToStream at ran
  rw [World.runFrom_unguarded] at ran
  cases managed : s.managedDownloads with
  | none =>
      rw [managed] at ran
      exact sees_of_fetch answers checked ran
  | some transfer =>
      rw [managed] at ran
      dsimp only at ran
      cases ranged : request.hasRange with
      | true =>
          rw [ranged] at ran
          exact sees_of_fetch answers checked ran
      | false =>
          rw [ranged] at ran
          have named : request.version.getD "" ≠ "" := by
            simpa [Settled, managed, ranged] using settled
          obtain ⟨between, o, o', seen, seen', is, told⟩ := sees_of_managedDownload answers ran
          -- Both looks were for the version that is named.
          have same : o = o' := by
            refine Versioned.same_of_sees seen seen' (Option.some.inj ?_)
            exact (Versioned.id_of_sees seen named).symm.trans (Versioned.id_of_sees seen' named)
          rw [same.symm] at is
          refine ⟨o, Versioned.sees_of_later seen (Versioned.later_of_sees seen'), ?_, ?_⟩
          · rw [is, cut_of_whole ranged]
          · rwa [is]

theorem sees_of_unsettled (unsettled : ¬ s.Settled request)
    (ran : (s.downloadToStream World.unguarded request).runFrom w = (.ok (content, reply), w')) :
    ∃ between o o', v.Sees w.remote between s.bucket request.key none o ∧
      v.Sees between w'.remote s.bucket request.key none o' ∧
      Tells reply.metadata o o.content.length ∧ content = o'.content := by
  obtain ⟨managed, ranged, newest⟩ : s.managedDownloads ≠ none ∧ request.hasRange = false ∧
      request.version.getD "" = "" := by
    simpa [Settled, not_or] using unsettled
  obtain ⟨transfer, managed⟩ := Option.ne_none_iff_exists'.mp managed
  unfold downloadToStream at ran
  rw [World.runFrom_unguarded, managed] at ran
  dsimp only at ran
  rw [ranged] at ran
  obtain ⟨between, o, o', seen, seen', is, told⟩ := sees_of_managedDownload answers ran
  exact ⟨between, o, o', Versioned.sees_newest newest seen, Versioned.sees_newest newest seen', told, is⟩

/-- Downloading leaves the local files alone, apart from what is done with what comes. -/
theorem aside_downloadToStream (request : DownloadRequest) :
    (s.downloadToStream World.unguarded request).Keeps (Aside fun _ => True) := by
  have sends (call : Call) : (s.client.send call).Keeps (Aside fun _ => True) := fun w =>
    ⟨answers.files call w, id⟩
  have fetches : (s.fetch request).Keeps (Aside fun _ => True) := by
    refine Action.Keeps.bind (sends _) fun answer =>
      Action.Keeps.bind (Action.Keeps.ofAmbient _) fun body =>
      Action.Keeps.bind (Action.Keeps.bind (sends _) fun _ => Action.Keeps.pure _) fun _ => ?_
    cases body.failure with
    | some f => exact Action.Keeps.throw f
    | none => exact Action.Keeps.bind (Action.Keeps.ofAmbient _) fun _ => Action.Keeps.pure _
  refine Action.Keeps.bind (Action.Keeps.pure _) fun _ => ?_
  cases s.managedDownloads with
  | none => exact fetches
  | some transfer =>
      dsimp only
      split
      · exact fetches
      · have looks : (s.getMetadata World.unguarded ⟨request.key, request.version⟩).Keeps
            (Aside fun _ => True) :=
          Action.Keeps.bind (Action.Keeps.pure _) fun _ =>
            Action.Keeps.bind (sends _) fun _ => Action.Keeps.ofAmbient _
        exact Action.Keeps.bind looks fun _ =>
          Action.Keeps.bind (sends _) fun _ => Action.Keeps.pure _

end Outside
end Store

/-- What it means for downloads to a stream or a file to tell of what they deliver. -/
structure DownloadLaws {ρ : Type} (s : Store ρ) (v : Versioned ρ) : Prop where
  /-- What asks once, or names a version, tells of the version whose bytes, or part of them, it delivers.
  It is the one that was asked for, in an instant from the beginning of the download to its end. -/
  settled : ∀ {request destination} {d : Delivery} {w w'}, s.Settled request →
    Store.Outward destination →
    (BlobStorage.Store.download (s.adapter World.unguarded) request destination).runFrom w =
      (.ok d, w') →
    ∃ o, v.Sees w.remote w'.remote s.bucket request.key request.version o ∧
      d.delivered = some (request.cut o.content) ∧
      Tells d.reply.metadata o (request.cut o.content).length
  /-- What is managed and asks for the newest version tells of the one that was the newest in one instant,
  and delivers the bytes of the one that was the newest in a later instant. -/
  unsettled : ∀ {request destination} {d : Delivery} {w w'}, ¬ s.Settled request →
    Store.Outward destination →
    (BlobStorage.Store.download (s.adapter World.unguarded) request destination).runFrom w =
      (.ok d, w') →
    ∃ between o o', v.Sees w.remote between s.bucket request.key none o ∧
      v.Sees between w'.remote s.bucket request.key none o' ∧
      Tells d.reply.metadata o o.content.length ∧ d.delivered = some o'.content ∧
      (Tells d.reply.metadata o' o'.content.length ↔ o = o')
  /-- A file that is delivered to was not there before, and holds what was delivered. -/
  placed : ∀ {request path} {d : Delivery} {w w'},
    (BlobStorage.Store.download (s.adapter World.unguarded) request (.file path)).runFrom w =
      (.ok d, w') →
    w.files.exists? path = .ok false ∧ w'.files.read? path = .ok d.delivered

namespace Service

/-- A store at the service, with managed downloads. -/
def store (bucket : String) (transfer : Transfer) : Store Service where
  client := client
  config := { provider := "aws", parallelDownloads := some true }
  bucket := bucket
  transfer := some transfer

end Service

/-- Downloads of any store whose client is answered from versions. -/
theorem downloads_of_answers {ρ : Type} {s : Store ρ} {v : Versioned ρ}
    (answers : Answers s.client v) : DownloadLaws s v where
  settled {request destination d w w'} settled outward ran := by
    obtain ⟨checked, content, w₁, w₂, came, delivered, start, finish⟩ :=
      Store.ok_of_outward outward ran
    obtain ⟨o, seen, rfl, told⟩ := Store.sees_of_settled answers settled checked came
    rw [start, finish] at seen
    exact ⟨o, seen, delivered, told⟩
  unsettled {request destination d w w'} unsettled outward ran := by
    obtain ⟨-, content, w₁, w₂, came, delivered, start, finish⟩ := Store.ok_of_outward outward ran
    obtain ⟨between, o, o', seen, seen', told, rfl⟩ :=
      Store.sees_of_unsettled answers unsettled came
    rw [start] at seen
    rw [finish] at seen'
    refine ⟨between, o, o', seen, seen', told, delivered, fun told' => ?_, fun same => same ▸ told⟩
    have ids := told.version.symm.trans told'.version
    exact Versioned.same_of_sees seen seen' (Reported.known.inj (Option.some.inj ids))
  placed {request path d w w'} ran := by
    obtain ⟨-, ran⟩ := BlobStorage.Store.ok_of_check_bind ran
    obtain ⟨-, ran⟩ := BlobStorage.Store.ok_of_check_bind ran
    obtain ⟨name, content, w₁, vacant, came, delivered, rfl⟩ :=
      BlobStorage.Store.ok_of_downloadToFile ran
    have kept := (Store.aside_downloadToStream answers request
      { w with files := w.files.write name [] }).1
    rw [show (s.downloadToStream World.unguarded request).runFrom _ = _ from came] at kept
    refine ⟨FileTree.exists?_of_vacant vacant, ?_⟩
    dsimp only at kept ⊢
    rw [kept, FileTree.write_write, delivered]
    exact (FileTree.write_of_vacant vacant content).1

namespace Service

/-- A version that another client overwrites once it has been looked at. -/
def raced : World Service where
  remote := {
    log := [{ bucket := "b", key := "k", etag := "e", content := [1, 2] }]
    others := [[], [.put "b" "k" "f" [3]]] }

theorem downloads_of_service : Answers (store "b" {}).client versioned ∧ ∃ d w' o,
    (BlobStorage.Store.download ((store "b" {}).adapter World.unguarded)
      { key := "k", version := some "v0" } .stream).runFrom raced = (.ok d, w') ∧
    versioned.Sees raced.remote w'.remote "b" "k" (some "v0") o ∧
    d.delivered = some [1, 2] ∧ Tells d.reply.metadata o 2 := by
  have ran : (BlobStorage.Store.download ((store "b" {}).adapter World.unguarded)
    { key := "k", version := some "v0" } .stream).runFrom raced = (.ok _, _) := rfl
  have settled : (store "b" {}).Settled { key := "k", version := some "v0" } := by
    simp [Store.Settled]
  obtain ⟨o, seen, delivered, told⟩ := (downloads_of_answers answers).settled settled .stream ran
  rw [← Option.some.inj delivered] at told
  exact ⟨answers, _, _, o, ran, seen, rfl, told⟩

/-- Two looks at the newest version, and what a managed download makes of them. -/
theorem runFrom_download_stream {bucket key : String} (transfer : Transfer) {o o' : ObjectVersion}
    {w : World Service} (named : key ≠ "")
    (first : (w.remote.turn.versions bucket key).getLast? = some o)
    (second : (w.remote.turn.turn.versions bucket key).getLast? = some o') :
    ∃ d, (BlobStorage.Store.download ((store bucket transfer).adapter World.unguarded) { key }
        .stream).runFrom w = (.ok d, { w with remote := w.remote.turn.turn }) ∧
      Tells d.reply.metadata o o.content.length ∧ d.delivered = some o'.content := by
  let w₁ : World Service := { w with remote := w.remote.turn }
  have head : (client.send ⟨.headObject, [], Parameters.place bucket key⟩).runFrom w =
      (.ok { value := .map (described o o.content.length) }, w₁) :=
    runFrom_send (bind_eq_ok_iff.mpr ⟨o, look_newest first _, rfl⟩)
  have sent : (client.send { method := .downloadStream
                             positional := [.text bucket, .text key]
                             named := [("ExtraArgs", .null), ("Config", transfer.value)] }).runFrom w₁ =
      (.ok { written := o'.content }, { w with remote := w.remote.turn.turn }) :=
    runFrom_send (bind_eq_ok_iff.mpr ⟨o', look_newest second _, rfl⟩)
  have read : Store.metadataOf key (.map (described o o.content.length)) = .ok _ := rfl
  have looked : ((store bucket transfer).getMetadata World.unguarded ⟨key, none⟩).runFrom w =
      (.ok _, w₁) :=
    (World.runFrom_unguarded _ _ _ w).trans ((Action.runFrom_bind_ok head _).trans
      (Action.runFrom_ambient_ok_iff.mpr ⟨read, rfl⟩))
  have came : (((store bucket transfer).adapter World.unguarded).downloadToStream { key }).runFrom w =
      (.ok (o'.content, _), { w with remote := w.remote.turn.turn }) :=
    (World.runFrom_unguarded _ _ _ w).trans ((Action.runFrom_bind_ok looked _).trans
      (Action.runFrom_bind_ok sent _))
  have checked := (Check.key_eq_ok_iff key).mpr named
  refine ⟨_, (BlobStorage.Store.runFrom_check_bind_ok checked _ w).trans
    (Action.runFrom_bind_ok came _), ?_, rfl⟩
  exact tells_of_metadataOf (describes_described o _ []) read

/-- A newest version that is overwritten between the two looks is told of in the place of the one that is
delivered. -/
theorem overwritten {bucket key etag : String} {transfer : Transfer} {content : Content}
    {o : ObjectVersion} {rest : List (List Change)} {w : World Service} (named : key ≠ "")
    (newest : (w.remote.versions bucket key).getLast? = some o)
    (others : w.remote.others = [] :: [.put bucket key etag content] :: rest) :
    ∃ d w', (BlobStorage.Store.download ((store bucket transfer).adapter World.unguarded) { key }
        .stream).runFrom w = (.ok d, w') ∧
      d.delivered = some content ∧ Tells d.reply.metadata o o.content.length ∧
      (w'.remote.versions bucket key).getLast? =
        some { id := idOf w.remote.log.length, etag, content } ∧
      o.id ≠ idOf w.remote.log.length := by
  have idle : w.remote.turn = { w.remote with others := [.put bucket key etag content] :: rest } := by
    rw [turn, others]
    rfl
  have put : w.remote.turn.turn =
      { w.remote with others := rest }.apply (.put bucket key etag content) := by
    rw [idle]
    rfl
  obtain ⟨d, ran, told, delivered⟩ := runFrom_download_stream transfer named
    (by rw [idle]; exact newest) (by rw [put, versions_put]; exact List.getLast?_concat)
  refine ⟨d, _, ran, delivered, told, ?_, ?_⟩
  · rw [put, versions_put]
    exact List.getLast?_concat
  · obtain ⟨n, e, here, -, rfl⟩ := mem_versions_iff.mp (List.mem_of_getLast? newest)
    have early := (List.getElem?_eq_some_iff.mp here).1
    exact fun same => absurd (idOf_inj.mp same) (by omega)

end Service

end BlobStorage.S3
