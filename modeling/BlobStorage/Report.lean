import BlobStorage.Command
import BlobStorage.Multipart

/-!
Reports: failures, objects and answers as records of named values, for whoever wants to show them.
A record has all its fields; one that is not set is null.
-/
namespace BlobStorage

namespace Value

def ofAttributes (a : Attributes) : Value := map (a.map fun (name, v) => (name, ofText? v))

def ofBytes? : Option Content → Value
  | some content => bytes content
  | none => null

def ofList {α : Type} (write : α → Value) (xs : List α) : Value := list (xs.map write)

end Value

open Reported (value?)

def Failure.report (f : Failure) : Value :=
  let said : List (String × Value) := [("error", .text f.label), ("message", .text f.text)]
  match f.category?, f with
  | some category, .categorized _ _ cause chained =>
      .map (said ++ [("kind", .text category.name), ("key", .ofText? f.key?),
        ("cause", .text cause.label), ("chained", .flag chained)])
  | some category, _ =>
      .map (said ++ [("kind", .text category.name), ("key", .ofText? f.key?), ("cause", .null),
        ("chained", .flag false)])
  | none, .memory fault =>
      .map (said ++ [("status", .whole fault.status), ("code", .text fault.code)])
  | none, .settings fault =>
      let names := (fault.fields.map fun p => ".".intercalate p.path).eraseDups
      .map [("error", .text f.label),
        ("fields", .ofList .text (names.mergeSort fun a b => decide (a ≤ b)))]
  | none, _ => .map said

def Failure.report? : Option Failure → Value
  | some f => f.report
  | none => .null

def Target.report (t : Target) : Value :=
  .map [("key", t.key.value), ("version_id", .ofText? t.version)]

def LockInfo.report (l : LockInfo) : Value :=
  .map [("mode", .ofText? (l.mode.map RetentionMode.name)),
    ("retain_until_date", Reported.value? l.retainUntil), ("legal_hold", .flag l.legalHold)]

def BlobMetadata.report (m : BlobMetadata) : Value :=
  .map [("key", .text m.key), ("object_size", m.size.value), ("version_id", value? m.version),
    ("etag", value? m.etag),
    ("metadata", .map (m.metadata.map fun (name, v) => (name, value? v))),
    ("last_modified", value? m.lastModified), ("md5", .ofBytes? m.md5),
    ("checksum_value", value? m.checksum), ("content_type", value? m.contentType)]

def BlobInfo.report (b : BlobInfo) : Value :=
  .map [("key", b.key.value), ("object_size", b.size.value),
    ("last_modified", value? b.lastModified), ("version_id", .ofText? b.version),
    ("etag", value? b.etag), ("object_lock", .null)]

def BucketInfo.report (b : BucketInfo) : Value :=
  .map [("name", b.name.value), ("region", value? b.region), ("creation_date", value? b.created)]

def UploadReceipt.report (r : UploadReceipt) : Value :=
  .map [("key", .text r.key), ("version_id", value? r.version), ("etag", value? r.etag),
    ("checksum_value", value? r.checksum)]

/-- A download, with the bytes of its body if they were read. -/
def DownloadReply.report (r : DownloadReply) (body : Option Content) : Value :=
  .map [("key", .text r.key), ("metadata", r.metadata.report),
    ("version_id", value? r.metadata.version), ("etag", value? r.metadata.etag),
    ("body", .ofBytes? body)]

def LiveBody.content? : LiveBody → Option Content
  | .stream body => some body.content
  | .other _ => none

def Delivery.report (d : Delivery) : Value :=
  match d.delivered with
  | some content => .map [("response", d.reply.report none), ("data", .bytes content)]
  | none => d.reply.report (d.reply.body.bind LiveBody.content?)

def CopyReceipt.report (r : CopyReceipt) : Value :=
  .map [("key", .text r.key), ("version_id", value? r.version), ("etag", value? r.etag),
    ("last_modified", value? r.lastModified)]

def Batch.fields (b : Batch) : List (String × Value) :=
  [("blobs", .ofList BlobInfo.report b.blobs),
    ("common_prefixes", .ofList Reported.value b.commonPrefixes)]

def Batch.report (b : Batch) : Value := .map b.fields

def Page.report (p : Page) : Value :=
  .map (p.toBatch.fields
    ++ [("is_truncated", .flag p.isTruncated), ("next_page_token", value? p.nextToken)])

def UploadToken.report (t : UploadToken) : Value :=
  .map [("bucket", .text t.bucket), ("key", .text t.key), ("id", t.id.value),
    ("metadata", .ofAttributes t.metadata), ("tags", .ofAttributes t.tags),
    ("kms_key_id", .ofText? t.kmsKey)]

def PartReceipt.report (r : PartReceipt) : Value :=
  .map [("part_number", .whole r.number), ("etag", r.etag.value), ("size", .whole r.size)]

def ListedPart.report (p : ListedPart) : Value :=
  .map [("part_number", p.number.value), ("etag", p.etag.value), ("size", p.size.value)]

def MultipartReceipt.report (r : MultipartReceipt) : Value :=
  .map [("etag", value? r.etag), ("version_id", value? r.version)]

def FailedUpload.report (f : FailedUpload) : Value :=
  .map [("source", .text f.source.text), ("error", f.failure.report)]

def FailedDownload.report (f : FailedDownload) : Value :=
  .map [("destination", .text f.destination.text), ("error", f.failure.report)]

/-- A batch that failed, with the first five of its objects. -/
def FailedDelete.report (f : FailedDelete) : Value :=
  .map [("count", .whole (Int.ofNat f.targets.length)),
    ("identifiers", .ofList Target.report (f.targets.take 5)), ("error", f.failure.report)]

def DirectoryDeletion.report (d : DirectoryDeletion) : Value :=
  .map [("deleted_count", .whole (Int.ofNat d.deleted)),
    ("failed_batches", .ofList FailedDelete.report d.failed)]

def Part.report (p : Part) : Except Ambient Value := do
  return .list [.whole p.number, .whole (← p.size), .bytes (← p.data)]

def Directory.UploadItem.report (i : UploadItem) : Value := .list [.text i.path.text, .text i.key]

def Directory.DownloadItem.report (i : DownloadItem) : Value :=
  .list [.text i.key, .text i.target.text]

/-- All files with their bytes, and all directories, whose names end in a slash. -/
def FileTree.report (t : FileTree) : Value :=
  .map <| t.entries.map fun (name, node) =>
    let path := "/".intercalate name
    match node with
    | .directory => (path ++ "/", .null)
    | .file content => (path, .bytes content)

def Answer.report : Answer → Value
  | .done => .null
  | .uploaded receipt => receipt.report
  | .downloaded delivery => delivery.report
  | .copied receipt => receipt.report
  | .metadata m => m.report
  | .page p => p.report
  | .token t => t.report
  | .part receipt => receipt.report
  | .completed receipt => receipt.report
  | .parts listed => .ofList ListedPart.report listed
  | .tags t => .map t
  | .address v => v
  | .yes b => .flag b
  | .lock info => info.report
  | .directoryUploaded failed =>
      .map [("failed_transfers", .ofList FailedUpload.report failed)]
  | .directoryDownloaded failed =>
      .map [("failed_transfers", .ofList FailedDownload.report failed)]
  | .directoryDeleted d => d.report

end BlobStorage
