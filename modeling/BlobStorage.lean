import BlobStorage.Client
import BlobStorage.Buffer
import BlobStorage.Environment
import BlobStorage.Memory.Adapter
import BlobStorage.Memory.Stepwise
import BlobStorage.Multipart.Recorder
import BlobStorage.Report
import BlobStorage.Report.Backend
import BlobStorage.Report.Settings
import BlobStorage.S3.Adapter
import BlobStorage.S3.Exchange
import BlobStorage.Opening.Calls
import BlobStorage.Proofs.Table
import BlobStorage.Proofs.Action
import BlobStorage.Proofs.World
import BlobStorage.Proofs.Validation
import BlobStorage.Proofs.Store
import BlobStorage.Proofs.Sorting
import BlobStorage.Proofs.Queue
import BlobStorage.Proofs.Client
import BlobStorage.Proofs.Directory.Batcher
import BlobStorage.Proofs.Directory.Transfer
import BlobStorage.Proofs.Directory.Awaited
import BlobStorage.Proofs.Directory.Settled
import BlobStorage.Proofs.Memory.View
import BlobStorage.Proofs.Memory.Outcome
import BlobStorage.Proofs.Memory.Change
import BlobStorage.Proofs.Memory.History
import BlobStorage.Proofs.Memory.Adapter
import BlobStorage.Proofs.Memory.Removal
import BlobStorage.Proofs.Memory.Removable
import BlobStorage.Proofs.Memory.Command
import BlobStorage.Proofs.Memory.Run
import BlobStorage.Proofs.Memory.Download
import BlobStorage.Proofs.Memory.Versions
import BlobStorage.Proofs.Memory.Parts
import BlobStorage.Proofs.Memory.Sends
import BlobStorage.Proofs.Memory.Completion
import BlobStorage.Proofs.Memory.Reordering
import BlobStorage.Proofs.Memory.Assembly
import BlobStorage.Proofs.Memory.Listing
import BlobStorage.Proofs.Memory.Paging
import BlobStorage.Proofs.Memory.Looking
import BlobStorage.Proofs.Memory.DirectoryDeletion
import BlobStorage.Proofs.Memory.Batching
import BlobStorage.Proofs.Memory.Leftovers
import BlobStorage.Proofs.Memory.Endurance
import BlobStorage.Proofs.Memory.SingleDeletes
import BlobStorage.Proofs.Memory.Entries
import BlobStorage.Proofs.Memory.Browsing
import BlobStorage.Proofs.Memory.Undisturbed
import BlobStorage.Proofs.Memory.Locking
import BlobStorage.Proofs.Multipart
import BlobStorage.Proofs.Memory.PartSending
import BlobStorage.Proofs.Memory.PartwiseUpload
import BlobStorage.Proofs.Memory.RetentionUpdates
import BlobStorage.Proofs.Text.Utf8
import BlobStorage.Proofs.Text.Percent
import BlobStorage.Proofs.Directory.Path
import BlobStorage.Proofs.Directory.Plan
import BlobStorage.Proofs.Number.Numeral
import BlobStorage.Proofs.Number.Binary64
import BlobStorage.Proofs.Number.Spelling
import BlobStorage.Proofs.Time.Seconds
import BlobStorage.Proofs.Uri
import BlobStorage.Proofs.Memory.Presign
import BlobStorage.Proofs.Memory.Addresses
import BlobStorage.Proofs.Memory.Grants
import BlobStorage.Proofs.Directory.FileTree
import BlobStorage.Proofs.Directory.Keys
import BlobStorage.Proofs.Memory.DirectoryUpload
import BlobStorage.Proofs.Directory.Filling
import BlobStorage.Proofs.Memory.DirectoryDownload
import BlobStorage.Proofs.Memory.RoundTrip
import BlobStorage.Proofs.Registry.Resolution
import BlobStorage.Proofs.Blind
import BlobStorage.Proofs.Categorizing
import BlobStorage.Proofs.Buffer
import BlobStorage.Proofs.Memory.Stepwise
import BlobStorage.Proofs.Memory.AllOrNothing
import BlobStorage.Proofs.Memory.Astray
import BlobStorage.Proofs.Memory.Lifecycle
import BlobStorage.Proofs.Directory.Growth
import BlobStorage.Proofs.Directory.Serving
import BlobStorage.Proofs.Memory.Serving
import BlobStorage.Proofs.Directory.Accounting
import BlobStorage.Proofs.Memory.Upload
import BlobStorage.Proofs.Memory.Delivery
import BlobStorage.Proofs.Memory.DeclaredLengths
import BlobStorage.Proofs.Memory.Fidelity
import BlobStorage.Proofs.Memory.Partition
import BlobStorage.Proofs.Directory.Agreement
import BlobStorage.Proofs.Directory.Playback
import BlobStorage.Proofs.Memory.BulkDeletes
import BlobStorage.Proofs.S3.Uploads
import BlobStorage.Proofs.S3.ByteRange
import BlobStorage.Proofs.S3.Service
import BlobStorage.Proofs.S3.Downloads
import BlobStorage.Proofs.Range
import BlobStorage.Proofs.Memory.Ranges
import BlobStorage.Proofs.S3.Exchange
import BlobStorage.Proofs.S3.Existence
import BlobStorage.Proofs.S3.Deletes
import BlobStorage.Proofs.S3.Pages
import BlobStorage.Proofs.S3.Paging
import BlobStorage.Proofs.S3.RangeHeader
import BlobStorage.Proofs.Uri.Parts
import BlobStorage.Proofs.Settings.Calls
import BlobStorage.Proofs.Endpoints
import BlobStorage.Proofs.Settings.Coercion
import BlobStorage.Proofs.Settings.Records
import BlobStorage.Proofs.Settings.Properties
import BlobStorage.Proofs.Settings.Kinds
import BlobStorage.Proofs.Settings.Rules
import BlobStorage.Proofs.Settings.Slots
import BlobStorage.Proofs.Settings
import BlobStorage.Proofs.Proxy
import BlobStorage.Proofs.Multipart.Cutting
import BlobStorage.Proofs.Multipart.Submission
import BlobStorage.Proofs.Memory.PartOrder
import BlobStorage.Proofs.S3.Joining
