import ChatRelay.Disk.FileTree
import ChatRelay.Json.Tag
import ChatRelay.Main
import ChatRelay.Proofs.Cursor.Intake
import ChatRelay.Proofs.Cursor.Settle
import ChatRelay.Proofs.Cursor.Sound
import ChatRelay.Proofs.Cursor.Reach
import ChatRelay.Proofs.Cursor.Rest
import ChatRelay.Proofs.Cursor.Released
import ChatRelay.Proofs.Cursor.Idempotent
import ChatRelay.Proofs.Feed.Calls
import ChatRelay.Proofs.Journal
import ChatRelay.Proofs.Feed.Soundness
import ChatRelay.Proofs.Disk.Grounded
import ChatRelay.Proofs.Disk.Medium
import ChatRelay.Proofs.Disk.Plain
import ChatRelay.Proofs.CursorFile.Text
import ChatRelay.Proofs.CursorFile.Rules
import ChatRelay.Proofs.CursorFile.Save
import ChatRelay.Proofs.CursorFile.Atomic
import ChatRelay.Proofs.CursorFile.Room
import ChatRelay.Proofs.Feed.Monotone
import ChatRelay.Proofs.Feed.Restart
import ChatRelay.Proofs.Cycle.Rules
import ChatRelay.Proofs.Cycle.Trace
import ChatRelay.Proofs.Cycle.Effect
import ChatRelay.Proofs.Cycle.Reports
import ChatRelay.Proofs.Cycle.Duplicates
import ChatRelay.Proofs.Cycle.Suppression
import ChatRelay.Proofs.Delivery.Account
import ChatRelay.Proofs.Delivery.Guard
import ChatRelay.Proofs.Delivery.World
import ChatRelay.Proofs.Delivery.NoLoss
import ChatRelay.Proofs.Coupling
import ChatRelay.Proofs.Eviction.Ledger
import ChatRelay.Proofs.Eviction.Unobservable
import ChatRelay.Proofs.Feed.Redelivery
import ChatRelay.Proofs.Feed.Durable
import ChatRelay.Proofs.Feed.Mirrored
import ChatRelay.Proofs.Allowlist.Forms
import ChatRelay.Proofs.Allowlist.Screening
import ChatRelay.Proofs.Client.Retry
import ChatRelay.Proofs.Feed.Selection
import ChatRelay.Proofs.Tandem
import ChatRelay.Proofs.Cycle.InStep
import ChatRelay.Proofs.Report.Contents
import ChatRelay.Proofs.Report.Sights
import ChatRelay.Proofs.Report.Conservation
import ChatRelay.Proofs.Delivery.Undisturbed
import ChatRelay.Proofs.Feed.Commute
import ChatRelay.Proofs.Feed.Idempotent
import ChatRelay.Proofs.Feed.Strictness
import ChatRelay.Proofs.Client.Classification
import ChatRelay.Proofs.Text.Spelling
import ChatRelay.Proofs.Update.Grammar
import ChatRelay.Proofs.Allowlist.Closed
import ChatRelay.Proofs.Chat.Reply
import ChatRelay.Proofs.Chat.Session
import ChatRelay.Proofs.Text.Pieces
import ChatRelay.Proofs.Settings.Values
import ChatRelay.Proofs.Settings.Validity
import ChatRelay.Proofs.Settings.Honoured
import ChatRelay.Proofs.Settings.Assignments
import ChatRelay.Proofs.Polling.Bounds
import ChatRelay.Proofs.Text.Compact
