import MailboxSync.Charset.Alias
import MailboxSync.Charset.Codec
import MailboxSync.Charset.Decode
import MailboxSync.Charset.Full
import MailboxSync.Charset.Shifted
import MailboxSync.Charset.Upper
import MailboxSync.Charset.Utf8
import MailboxSync.Charset.Wide
import MailboxSync.Command.Arguments
import MailboxSync.Command.Basic
import MailboxSync.Command.Daemon
import MailboxSync.Command.OneShot
import MailboxSync.Failure
import MailboxSync.Fault
import MailboxSync.Http.Client
import MailboxSync.Http.ContentType
import MailboxSync.Http.Exchange
import MailboxSync.Http.Transport
import MailboxSync.Mailbox.Basic
import MailboxSync.Mailbox.Desk
import MailboxSync.Mailbox.Script
import MailboxSync.Main
import MailboxSync.Note
import MailboxSync.Number.Binary64
import MailboxSync.Number.Integer
import MailboxSync.Number.Shortest
import MailboxSync.Proofs.Admission
import MailboxSync.Proofs.Alone
import MailboxSync.Proofs.Backlog
import MailboxSync.Proofs.Batch
import MailboxSync.Proofs.Blame
import MailboxSync.Proofs.Calendar
import MailboxSync.Proofs.Cancellation
import MailboxSync.Proofs.Classification
import MailboxSync.Proofs.Completion
import MailboxSync.Proofs.Consistency
import MailboxSync.Proofs.Decoding
import MailboxSync.Proofs.Doctypes
import MailboxSync.Proofs.Documents
import MailboxSync.Proofs.Envelopes
import MailboxSync.Proofs.ExactlyOnce
import MailboxSync.Proofs.FailStop
import MailboxSync.Proofs.Folder
import MailboxSync.Proofs.Frame
import MailboxSync.Proofs.Fulfilment
import MailboxSync.Proofs.Halting
import MailboxSync.Proofs.History
import MailboxSync.Proofs.Isolation
import MailboxSync.Proofs.Journal
import MailboxSync.Proofs.Legality
import MailboxSync.Proofs.Letters
import MailboxSync.Proofs.Likeness
import MailboxSync.Proofs.LineEnds
import MailboxSync.Proofs.Listening
import MailboxSync.Proofs.Listing
import MailboxSync.Proofs.Markup
import MailboxSync.Proofs.Mirror
import MailboxSync.Proofs.Normalization
import MailboxSync.Proofs.Octets
import MailboxSync.Proofs.Ownership
import MailboxSync.Proofs.Pool
import MailboxSync.Proofs.Provenance
import MailboxSync.Proofs.Receiving
import MailboxSync.Proofs.Recital
import MailboxSync.Proofs.Reckoning
import MailboxSync.Proofs.Renderings
import MailboxSync.Proofs.Requests
import MailboxSync.Proofs.Reset
import MailboxSync.Proofs.Resumption
import MailboxSync.Proofs.Returning
import MailboxSync.Proofs.Run
import MailboxSync.Proofs.Scanning
import MailboxSync.Proofs.Schedule
import MailboxSync.Proofs.SentTokens
import MailboxSync.Proofs.Serving
import MailboxSync.Proofs.Stores
import MailboxSync.Proofs.Tally
import MailboxSync.Proofs.Timestamp
import MailboxSync.Proofs.Trimming
import MailboxSync.Proofs.Undisturbed
import MailboxSync.Proofs.Unread
import MailboxSync.Proofs.Verdict
import MailboxSync.Proofs.Watermark
import MailboxSync.Proofs.Wire
import MailboxSync.Service.Envelope
import MailboxSync.Service.Message
import MailboxSync.Service.Reply
import MailboxSync.Service.Soap
import MailboxSync.Session
import MailboxSync.Settings.Basic
import MailboxSync.Settings.Dotenv
import MailboxSync.Settings.Value
import MailboxSync.Store.Database
import MailboxSync.Store.Memory
import MailboxSync.Store.Progress
import MailboxSync.Store.Table
import MailboxSync.Sync.Discovery
import MailboxSync.Sync.Environment
import MailboxSync.Sync.Page
import MailboxSync.Sync.Paging
import MailboxSync.Sync.Pool
import MailboxSync.Sync.Report
import MailboxSync.Sync.Run
import MailboxSync.Sync.Worker
import MailboxSync.Sync.World
import MailboxSync.Text.Base64
import MailboxSync.Text.Blank
import MailboxSync.Text.Decimal
import MailboxSync.Text.Digit
import MailboxSync.Text.Fold
import MailboxSync.Text.Hex
import MailboxSync.Text.Line
import MailboxSync.Text.Printable
import MailboxSync.Text.Quoted
import MailboxSync.Text.Ranges
import MailboxSync.Text.Upper
import MailboxSync.Time.Calendar
import MailboxSync.Time.Iso
import MailboxSync.Time.Stamp
import MailboxSync.Xml.Content
import MailboxSync.Xml.Doctype
import MailboxSync.Xml.Document
import MailboxSync.Xml.Encoding
import MailboxSync.Xml.Lines
import MailboxSync.Xml.Name
import MailboxSync.Xml.Namespace
import MailboxSync.Xml.Token
import MailboxSync.Xml.Writer
