import BlobStorage.Directory.Awaited

/-!
The operations on a bucket as data, so that a run of them can be told, recorded and repeated. A
command is one operation with its arguments, and an answer is what it gives.
-/
namespace BlobStorage

inductive Command where
  | upload (request : UploadRequest) (source : UploadSource)
  | download (request : DownloadRequest) (destination : Destination)
  | delete (i : Identifier)
  | deleteMany (targets : List Target)
  | copy (request : CopyRequest)
  | copyFrom (request : CopyFromRequest)
  | getMetadata (i : Identifier)
  | listPage (request : PageRequest)
  | initiateUpload (request : MultipartRequest)
  | uploadPart (token : UploadToken) (part : Part)
  | completeUpload (token : UploadToken) (parts : List PartReceipt)
  | listParts (token : UploadToken)
  | abortUpload (token : UploadToken)
  | getTags (key : String)
  | setTags (key : String) (tags : Attributes)
  | presign (request : PresignRequest)
  | objectExists (i : Identifier)
  | bucketExists
  | getLock (i : Identifier)
  | setRetention (i : Identifier) (retainUntil : Option Moment)
  | setLegalHold (i : Identifier) (hold : Bool)
  | uploadDirectory (request : DirectoryUpload)
  | downloadDirectory (request : DirectoryDownload)
  | deleteDirectory (stem : Option String)
  | close

inductive Answer where
  | done
  | uploaded (receipt : UploadReceipt)
  | downloaded (delivery : Delivery)
  | copied (receipt : CopyReceipt)
  | metadata (m : BlobMetadata)
  | page (p : Page)
  | token (t : UploadToken)
  | part (receipt : PartReceipt)
  | completed (receipt : MultipartReceipt)
  | parts (listed : List ListedPart)
  | tags (t : Table String Value)
  | address (v : Value)
  | yes (b : Bool)
  | lock (info : LockInfo)
  | directoryUploaded (failed : List FailedUpload)
  | directoryDownloaded (failed : List FailedDownload)
  | directoryDeleted (d : DirectoryDeletion)
  deriving Repr

namespace Command

/-- The key that a failure of the command is about, if the command itself is about one. -/
def subject : Command → Option String
  | upload request _ => request.key
  | download request _ => request.key
  | delete i | getMetadata i | objectExists i | getLock i => i.key
  | setRetention i _ => i.key
  | setLegalHold i _ => i.key
  | copy request => request.srcKey
  | copyFrom request => request.srcKey
  | initiateUpload request => request.key
  | uploadPart token _ => token.key
  | completeUpload token _ => token.key
  | listParts token | abortUpload token => token.key
  | getTags key | setTags key _ => key
  | presign request => request.key
  | deleteMany _ | listPage _ | bucketExists | uploadDirectory _ | downloadDirectory _
  | deleteDirectory _ | close => none

variable {ρ : Type}

def run (a : Adapter ρ) (style : CallStyle) : Command → Op ρ Answer
  | upload request source => .uploaded <$> Store.upload a request source
  | download request destination => .downloaded <$> Store.download a request destination
  | delete i => do Store.delete a i; return .done
  | deleteMany targets => do Store.deleteMany a targets; return .done
  | copy request => .copied <$> Store.copy a request
  | copyFrom request => .copied <$> Store.copyFrom a request
  | getMetadata i => .metadata <$> Store.getMetadata a i
  | listPage request => .page <$> Store.listPage a request
  | initiateUpload request => .token <$> Store.initiateUpload a request
  | uploadPart token part => .part <$> Store.uploadPart a token part
  | completeUpload token parts => .completed <$> Store.completeUpload a token parts
  | listParts token => .parts <$> Store.listParts a token
  | abortUpload token => do Store.abortUpload a token; return .done
  | getTags key => .tags <$> Store.getTags a key
  | setTags key tags => do Store.setTags a key tags; return .done
  | presign request => .address <$> Store.presign a request
  | objectExists i => .yes <$> Store.objectExists a i
  | bucketExists => .yes <$> Store.bucketExists a
  | getLock i => .lock <$> Store.getLock a i
  | setRetention i retainUntil => do Store.setRetention a i retainUntil; return .done
  | setLegalHold i hold => do Store.setLegalHold a i hold; return .done
  | uploadDirectory request => .directoryUploaded <$> Directory.uploadIn style a request
  | downloadDirectory request => .directoryDownloaded <$> Directory.downloadIn style a request
  | deleteDirectory stem =>
      .directoryDeleted <$>
        match style with
        | .blocking => Directory.deleteIn .blocking a stem .eager
        | .awaited => Directory.deleteIn .awaited a stem .deferred
  | close => do a.close; return .done

end Command
end BlobStorage
