import ProfilePlatform.Foundation.Machine
import ProfilePlatform.Foundation.Window
import ProfilePlatform.Primitives
import ProfilePlatform.Session.Coordinator
import ProfilePlatform.Session.Transitions
import ProfilePlatform.Session.Apply
import ProfilePlatform.Session.Invariant
import ProfilePlatform.Session.Ledger
import ProfilePlatform.Session.Fencing
import ProfilePlatform.UseCases.CoordinatorIngress
import ProfilePlatform.Foundation.Fallible
import ProfilePlatform.Adapters.Document
import ProfilePlatform.Adapters.Encoding
import ProfilePlatform.Adapters.Compaction
import ProfilePlatform.Adapters.Recovery
import ProfilePlatform.Adapters.Replay
import ProfilePlatform.Adapters.Provenance
import ProfilePlatform.Adapters.Alarm
import ProfilePlatform.Foundation.Bytes
import ProfilePlatform.Ports.GenerationCommit
import ProfilePlatform.Adapters.GenerationCommitRuntime
import ProfilePlatform.Worker.ProfileCoordinator
import ProfilePlatform.Worker.Authority
import ProfilePlatform.Worker.CommitGate
import ProfilePlatform.Foundation.Cursor
import ProfilePlatform.Foundation.Stream
import ProfilePlatform.Generation.Metadata
import ProfilePlatform.Generation.Container
import ProfilePlatform.Generation.Streaming
import ProfilePlatform.Generation.Records
import ProfilePlatform.Generation.InMemory
import ProfilePlatform.Generation.Canonical
import ProfilePlatform.Generation.StreamedSeal
import ProfilePlatform.Generation.StreamedOpen
import ProfilePlatform.Generation.RoundTrip
import ProfilePlatform.Generation.Agreement
import ProfilePlatform.Foundation.Table
import ProfilePlatform.Generation.Lifecycle
import ProfilePlatform.Generation.Publication
import ProfilePlatform.Generation.NonceClaims
import ProfilePlatform.Generation.PointerSafety
import ProfilePlatform.Foundation.Rows
import ProfilePlatform.Ports.OutboundMail
import ProfilePlatform.Mail.IntentStore
import ProfilePlatform.Mail.Repository
import ProfilePlatform.Mail.OutboundMail
import ProfilePlatform.Mail.DispatchLedger
import ProfilePlatform.Mail.Attempts
import ProfilePlatform.Mail.SendOnce
import ProfilePlatform.Foundation.Lines
import ProfilePlatform.Foundation.Decimal
import ProfilePlatform.Foundation.Exchange
import ProfilePlatform.Foundation.Pages
import ProfilePlatform.Imap.Session
import ProfilePlatform.Imap.Texts
import ProfilePlatform.Imap.Metadata
import ProfilePlatform.Imap.Query
import ProfilePlatform.Imap.PagedSearch
import ProfilePlatform.Foundation.Leads
import ProfilePlatform.Smtp.Session
import ProfilePlatform.Smtp.Framing
import ProfilePlatform.Smtp.Outcomes
import ProfilePlatform.Imap.Completion
import ProfilePlatform.Snapshot.Workspace
import ProfilePlatform.Snapshot.Encoding
import ProfilePlatform.Snapshot.Inventory
import ProfilePlatform.Snapshot.Written
import ProfilePlatform.Snapshot.Reader
import ProfilePlatform.Snapshot.Decoding
import ProfilePlatform.Snapshot.Reopening
import ProfilePlatform.Snapshot.Language
import ProfilePlatform.Catalog.Tables
import ProfilePlatform.Catalog.Database
import ProfilePlatform.Catalog.Guards
import ProfilePlatform.Catalog.Commands
import ProfilePlatform.Catalog.Successor
import ProfilePlatform.Catalog.Retention
import ProfilePlatform.Catalog.Writes
import ProfilePlatform.Catalog.Pointer
import ProfilePlatform.Catalog.Reserve
import ProfilePlatform.Adapters.SuccessorCommit
import ProfilePlatform.Adapters.SuccessorReplay
import ProfilePlatform.Mailbox.Job
import ProfilePlatform.Mailbox.JobRuns
import ProfilePlatform.Foundation.Texts
import ProfilePlatform.Mailbox.PreparedRun
import ProfilePlatform.Mailbox.JobTables
import ProfilePlatform.Mailbox.RunInsertion
import ProfilePlatform.Mailbox.StoredRuns
import ProfilePlatform.Notifications.Delivery
import ProfilePlatform.Notifications.DeliveryRows
import ProfilePlatform.Notifications.RowAgreement
import ProfilePlatform.Notifications.Processing
import ProfilePlatform.Notifications.Steps
import ProfilePlatform.Notifications.Progress
import ProfilePlatform.Notifications.DeliveryRuns
import ProfilePlatform.Notifications.CatchUp
import ProfilePlatform.Notifications.CatchUpRuns
import ProfilePlatform.Device.Job
import ProfilePlatform.Device.Transitions
import ProfilePlatform.Device.JobRuns
import ProfilePlatform.Device.Effects
import ProfilePlatform.Device.Stranded
import ProfilePlatform.Device.Fencing
import ProfilePlatform.Certification.UpdateController
import ProfilePlatform.Certification.UpdateRuns
import ProfilePlatform.WindowsDelivery.State
import ProfilePlatform.WindowsDelivery.StateRuns
import ProfilePlatform.Resolver.Signature
import ProfilePlatform.Resolver.Replay
import ProfilePlatform.Resolver.EncryptedRecords
import ProfilePlatform.Resolver.RecordRuns
import ProfilePlatform.Resolver.RecordDocuments
import ProfilePlatform.Identity.Memberships
import ProfilePlatform.Identity.Statements
import ProfilePlatform.Identity.OwnerRuns
import ProfilePlatform.Foundation.Calls
import ProfilePlatform.WindowsDelivery.Handoff
import ProfilePlatform.WindowsDelivery.Journal
import ProfilePlatform.WindowsDelivery.JournalChain
import ProfilePlatform.WindowsDelivery.JournalWrites
import ProfilePlatform.WindowsDelivery.JournalRuns
import ProfilePlatform.Foundation.Fields
import ProfilePlatform.Bridge.CamouhostMessage
import ProfilePlatform.Bridge.CanonicalFrames
import ProfilePlatform.Foundation.Programs
import ProfilePlatform.Device.JobRows
import ProfilePlatform.Device.JobRepository
import ProfilePlatform.Device.JobRowAgreement
import ProfilePlatform.Device.JobUseCases
import ProfilePlatform.Device.JobHistory
import ProfilePlatform.Device.JobPrograms
import ProfilePlatform.Device.StoredJobs
import ProfilePlatform.Device.ClaimableJobs
import ProfilePlatform.Device.StoredAgreement
import ProfilePlatform.Bridge.ProcessSupervisor
import ProfilePlatform.LocalProfile.LifecycleRuns
import ProfilePlatform.LocalProfile.WorkspaceAccounts
import ProfilePlatform.LocalProfile.WorkspaceLockRuns
import ProfilePlatform.LocalProfile.WorkspaceLocks
import ProfilePlatform.BrowserExecution.RecordCanonicity
import ProfilePlatform.BrowserExecution.DigestCalls
import ProfilePlatform.Foundation.Base64
import ProfilePlatform.Foundation.QuotedPrintable
import ProfilePlatform.Imap.TransferDecoding
import ProfilePlatform.Snapshot.Agreement
import ProfilePlatform.Snapshot.Materializing
import ProfilePlatform.Snapshot.AllOrNothing
import ProfilePlatform.Snapshot.Aliases
import ProfilePlatform.Foundation.Hex
import ProfilePlatform.SaveAttempt.Record
import ProfilePlatform.SaveAttempt.Readers
import ProfilePlatform.SaveAttempt.Writing
import ProfilePlatform.SaveAttempt.Agreement
import ProfilePlatform.Mailbox.InPlace
import ProfilePlatform.Smtp.Transparency
import ProfilePlatform.Foundation.Frames
import ProfilePlatform.Device.ProofMessages
import ProfilePlatform.Generation.KeyDerivation
import ProfilePlatform.Resolver.CanonicalInput
import ProfilePlatform.SignedBytes
import ProfilePlatform.Foundation.Residues
import ProfilePlatform.Notifications.Jitter
import ProfilePlatform.Notifications.Backoff
import ProfilePlatform.Foundation.Integers
import ProfilePlatform.Foundation.Civil
import ProfilePlatform.Imap.InternalDate
import ProfilePlatform.Graph.RetryAfter
import ProfilePlatform.Ports.MailContent
import ProfilePlatform.Smtp.Rendering
import ProfilePlatform.Smtp.BlindCopies
import ProfilePlatform.Imap.FetchAnswer
import ProfilePlatform.Certification.Matrix
import ProfilePlatform.Foundation.OrderedMap
import ProfilePlatform.Foundation.Reasons
import ProfilePlatform.Certification.Verdicts
import ProfilePlatform.Certification.MatrixVerdicts
import ProfilePlatform.ReadModels.Listings
import ProfilePlatform.ReadModels.Pages
import ProfilePlatform.ReadModels.Selection
import ProfilePlatform.ReadModels.Paging
import ProfilePlatform.ReadModels.Completeness
import ProfilePlatform.WindowsDelivery.Archive
import ProfilePlatform.WindowsDelivery.ArchiveReading
import ProfilePlatform.WindowsDelivery.ArchiveHeaders
import ProfilePlatform.WindowsDelivery.ArchiveTiles
import ProfilePlatform.WindowsDelivery.ArchiveTar
import ProfilePlatform.WindowsDelivery.ArchiveZip
import ProfilePlatform.WindowsDelivery.ArchiveAgreement
