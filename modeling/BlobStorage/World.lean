import BlobStorage.Action
import BlobStorage.Directory.FileTree

/-!
What a store acts on: the remote side, the local file system, and the failures that are planned
for its adapter. A planned failure takes the place of one of the adapter's primitives, on every
call or on some, for every key or for some.
-/
namespace BlobStorage

inductive Primitive where
  | classify
  | uploadBytes
  | uploadStream
  | uploadFile
  | downloadToStream
  | downloadBytes
  | downloadStream
  | delete
  | deleteMany
  | copy
  | copyFrom
  | getMetadata
  | listPage
  | initiateUpload
  | uploadPart
  | completeUpload
  | listParts
  | abortUpload
  | getTags
  | setTags
  | presign
  | objectExists
  | bucketExists
  | getRetention
  | getLegalHold
  | putRetention
  | putLegalHold
  | listBuckets
  | createBucket
  deriving DecidableEq, Repr

namespace Primitive

def all : List Primitive :=
  [classify, uploadBytes, uploadStream, uploadFile, downloadToStream, downloadBytes,
    downloadStream, delete, deleteMany, copy, copyFrom, getMetadata, listPage, initiateUpload,
    uploadPart, completeUpload, listParts, abortUpload, getTags, setTags, presign, objectExists,
    bucketExists, getRetention, getLegalHold, putRetention, putLegalHold, listBuckets,
    createBucket]

def name : Primitive → String
  | classify => "get_exception_kind"
  | uploadBytes => "upload_bytes"
  | uploadStream => "upload_stream"
  | uploadFile => "upload_file"
  | downloadToStream => "download_to_stream"
  | downloadBytes => "download_bytes"
  | downloadStream => "download_stream"
  | delete => "delete"
  | deleteMany => "delete_many"
  | copy => "copy"
  | copyFrom => "copy_from"
  | getMetadata => "get_metadata"
  | listPage => "list_page"
  | initiateUpload => "initiate_multipart_upload"
  | uploadPart => "upload_multipart_part"
  | completeUpload => "complete_multipart_upload"
  | listParts => "list_multipart_upload"
  | abortUpload => "abort_multipart_upload"
  | getTags => "get_tags"
  | setTags => "set_tags"
  | presign => "generate_presigned_url"
  | objectExists => "does_object_exist"
  | bucketExists => "does_bucket_exist"
  | getRetention => "get_object_retention"
  | getLegalHold => "get_legal_hold"
  | putRetention => "put_object_retention"
  | putLegalHold => "put_legal_hold"
  | listBuckets => "list_buckets"
  | createBucket => "create_bucket"

def ofName? (text : String) : Option Primitive := all.find? (·.name = text)

end Primitive

structure Interception where
  store : Nat
  primitive : Primitive
  failure : Failure
  /-- The calls it strikes, counted from one; all of them if none are named. -/
  calls : Option (List Nat) := none
  /-- The keys it strikes; all of them if none are named. -/
  keys : Option (List String) := none
  /-- How many calls it has seen. -/
  seen : Nat := 0
  deriving Repr

namespace Interception

def concerns (i : Interception) (store : Nat) (primitive : Primitive) : Bool :=
  i.store = store && i.primitive = primitive

/-- Whether it strikes the call it has just counted. -/
def strikes (i : Interception) (key : Option String) : Bool :=
  (match i.calls with
    | some calls => calls.contains i.seen
    | none => true) &&
  (match i.keys, key with
    | some keys, some k => keys.contains k
    | some _, none => false
    | none, _ => true)

/-- Shows a call to the planned failures, the latest plan first. The first that strikes decides,
and those behind it do not see the call. -/
def encounter (store : Nat) (primitive : Primitive) (key : Option String) :
    List Interception → Option Failure × List Interception
  | [] => (none, [])
  | i :: rest =>
      if i.concerns store primitive then
        let i := { i with seen := i.seen + 1 }
        if i.strikes key then (some i.failure, i :: rest)
        else
          let (failure, rest) := encounter store primitive key rest
          (failure, i :: rest)
      else
        let (failure, rest) := encounter store primitive key rest
        (failure, i :: rest)

end Interception

structure World (ρ : Type) where
  remote : ρ
  files : FileTree := {}
  interceptions : List Interception := []

abbrev Op (ρ : Type) := Action (World ρ)

/-- What an adapter does before each of its primitives. -/
abbrev Guard (ρ : Type) := Primitive → Option String → Op ρ Unit

namespace World

variable {ρ : Type}

def unguarded : Guard ρ := fun _ _ => pure ()

def guard (store : Nat) : Guard ρ := fun primitive key => do
  let w ← get
  let (failure, interceptions) := Interception.encounter store primitive key w.interceptions
  set { w with interceptions }
  match failure with
  | some f => throw f
  | none => return ()

/-- Plans a failure; it goes before those planned earlier. -/
def intercept (i : Interception) : Op ρ Unit :=
  modify fun w => { w with interceptions := i :: w.interceptions }

def clear (store : Nat) (primitive : Primitive) : Op ρ Unit :=
  modify fun w =>
    { w with interceptions := w.interceptions.filter fun i => !i.concerns store primitive }

/-- The outcome of a change to the remote side, which happens only if the change succeeds. -/
def attempt {ε α : Type} (fail : ε → Failure) (change : ρ → Except ε (α × ρ)) : Op ρ α := fun w =>
  match change w.remote with
  | .ok (x, remote) => (.ok x, { w with remote })
  | .error e => (.error (fail e), w)

def observe {ε α : Type} (fail : ε → Failure) (look : ρ → Except ε α) : Op ρ α := fun w =>
  match look w.remote with
  | .ok x => (.ok x, w)
  | .error e => (.error (fail e), w)

end World
end BlobStorage
