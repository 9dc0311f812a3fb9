import EventRelay.Main
import EventRelay.Proofs.Cursor.Isolation
import EventRelay.Proofs.Cursor.Truncation
import EventRelay.Proofs.Deduplicator.Race
import EventRelay.Proofs.Deduplicator.Retention
import EventRelay.Proofs.Deduplicator.Window
import EventRelay.Proofs.Digest.Base64
import EventRelay.Proofs.Digest.Hex
import EventRelay.Proofs.Gateway.Job
import EventRelay.Proofs.Http.Gate
import EventRelay.Proofs.Ingest.DedupKeys
import EventRelay.Proofs.Ingest.GitHubKeys
import EventRelay.Proofs.Ingest.GitHubResults
import EventRelay.Proofs.Ingest.TrelloLists
import EventRelay.Proofs.Mailbox.Exchange
import EventRelay.Proofs.Mailbox.History
import EventRelay.Proofs.Mailbox.Interval
import EventRelay.Proofs.Pipeline.Dispatch
import EventRelay.Proofs.Pipeline.Reference
import EventRelay.Proofs.Poller.Coherence
import EventRelay.Proofs.Poller.Delivery
import EventRelay.Proofs.Poller.Schedule
import EventRelay.Proofs.Poller.Unread
import EventRelay.Proofs.Rule.Condition
import EventRelay.Proofs.Rule.Labels
import EventRelay.Proofs.Rule.SenderCase
import EventRelay.Proofs.Rule.Senders
import EventRelay.Proofs.Settings.References
import EventRelay.Proofs.Shutdown.Wakeup
import EventRelay.Proofs.Signature
import EventRelay.Proofs.Template.Action
import EventRelay.Proofs.Template.Comment
import EventRelay.Proofs.Template.Cut
import EventRelay.Proofs.Template.Meaning
import EventRelay.Proofs.Template.Position
import EventRelay.Proofs.Text.CodePoint
import EventRelay.Proofs.Text.Trim
import EventRelay.Shutdown
