import BlobStorage.Memory.Presign
import BlobStorage.Report

/-!
The state of a memory backend as a record: its buckets by name, each with all versions of its
objects, the oldest first, and with its uploads in progress.
-/
namespace BlobStorage.Memory

def Version.report (v : Version) : Value :=
  .map [("version_id", .text v.id), ("data", .bytes v.data), ("etag", .text v.etag),
    ("last_modified", .moment v.modified), ("metadata", .ofAttributes v.metadata),
    ("tags", .ofAttributes v.tags), ("content_type", .ofText? v.contentType),
    ("checksum_value", .ofText? v.checksum),
    ("retention", (v.retention.map (·.lockInfo.report)).getD .null),
    ("legal_hold", .flag v.legalHold)]

def Upload.report (u : Upload) : Value :=
  .map [("key", .text u.key), ("metadata", .ofAttributes u.metadata),
    ("tags", .ofAttributes u.tags), ("content_type", .ofText? u.contentType),
    ("parts", .map (u.parts.map fun (number, content, etag) =>
      (toString number, .list [.bytes content, .text etag])))]

def Bucket.report (b : Bucket) : Value :=
  .map [("name", .text b.name), ("region", .ofText? b.region), ("created", .moment b.created),
    ("objects", .map (b.objects.map fun (key, vs) => (key, .ofList Version.report vs))),
    ("uploads", .map (b.uploads.map fun (id, u) => (id, u.report)))]

def Backend.report (s : Backend) : Value :=
  .ofList Bucket.report
    ((s.buckets.map (·.2)).mergeSort fun a b => decide (a.name ≤ b.name))

def Presign.Grant.report (g : Grant) : Value :=
  .list [.text g.operation, .text g.bucket, .text g.key]

end BlobStorage.Memory
