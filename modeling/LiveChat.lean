import LiveChat.Chat.Badge
import LiveChat.Chat.ColonSegments
import LiveChat.Chat.Colour
import LiveChat.Chat.Command
import LiveChat.Chat.Emote
import LiveChat.Chat.EmoteCache
import LiveChat.Chat.EmoteFile
import LiveChat.Chat.Enrichment
import LiveChat.Chat.Fragment
import LiveChat.Chat.Markup
import LiveChat.Chat.Message
import LiveChat.Chat.Platform
import LiveChat.Chat.Tokenizer
import LiveChat.CommandLine
import LiveChat.Config.Codec
import LiveChat.Config.Load
import LiveChat.Config.Normalize
import LiveChat.Config.Settings
import LiveChat.Decimal.Binary
import LiveChat.Decimal.Shortest
import LiveChat.Delivery.Hub
import LiveChat.Delivery.Relay
import LiveChat.Delivery.SeenIds
import LiveChat.Delivery.Service
import LiveChat.Delivery.Tailer
import LiveChat.Error
import LiveChat.File
import LiveChat.FileTree
import LiveChat.Ingest.Backoff
import LiveChat.Ingest.Lines
import LiveChat.Ingest.Registry
import LiveChat.Ingest.Start
import LiveChat.Ingest.Supervisor
import LiveChat.Json.Basic
import LiveChat.Json.Decode
import LiveChat.Json.Number
import LiveChat.Json.Printer
import LiveChat.Json.Reader
import LiveChat.Main
import LiveChat.Serve.Frame
import LiveChat.Serve.Origin
import LiveChat.Serve.Query
import LiveChat.Serve.Response
import LiveChat.Serve.Router
import LiveChat.Serve.Viewer
import LiveChat.Store.Connection
import LiveChat.Store.Database
import LiveChat.Store.MessageLog
import LiveChat.Store.OffsetFile
import LiveChat.Store.Pragma
import LiveChat.Store.Row
import LiveChat.Store.Schema
import LiveChat.Store.Sessions
import LiveChat.Text.Ascii
import LiveChat.Text.Blank
import LiveChat.Text.CaseTable
import LiveChat.Text.HiddenTable
import LiveChat.Text.Lowercase
import LiveChat.Text.Quoted
import LiveChat.Time.Calendar
import LiveChat.Time.Duration
import LiveChat.Time.Timestamp
import LiveChat.Toml.Basic
import LiveChat.Toml.Reader
import LiveChat.Toml.Scalar
import LiveChat.Proofs.Store.LogOrder
import LiveChat.Proofs.Store.Queries
import LiveChat.Proofs.Store.Coverage
import LiveChat.Proofs.Store.Reading
import LiveChat.Proofs.Store.Retention
import LiveChat.Proofs.Chat.Rehydration
import LiveChat.Proofs.Delivery.SeenIds
import LiveChat.Proofs.Delivery.Broadcast
import LiveChat.Proofs.Delivery.Course
import LiveChat.Proofs.Delivery.Separation
import LiveChat.Proofs.Delivery.Publications
import LiveChat.Proofs.Delivery.ExactlyOnce
import LiveChat.Proofs.Delivery.LateRows
import LiveChat.Proofs.Store.Newest
import LiveChat.Proofs.Delivery.History
import LiveChat.Proofs.Delivery.HubRun
import LiveChat.Proofs.Delivery.Sending
import LiveChat.Proofs.Delivery.Handover
import LiveChat.Proofs.Delivery.Reaction
import LiveChat.Proofs.Delivery.PrivateQueue
import LiveChat.Proofs.Delivery.Accounts
import LiveChat.Proofs.Text.Blanks
import LiveChat.Proofs.Text.Words
import LiveChat.Proofs.Chat.Markup
import LiveChat.Proofs.Chat.Grammar
import LiveChat.Proofs.Chat.Pictures
import LiveChat.Proofs.Chat.WrappedNames
import LiveChat.Proofs.Json.ReadBack
import LiveChat.Proofs.Json.Values
import LiveChat.Proofs.Chat.Records
import LiveChat.Proofs.Chat.Badges
import LiveChat.Proofs.Chat.EmoteCache
import LiveChat.Proofs.Chat.Commands
import LiveChat.Proofs.Chat.CommandEffects
import LiveChat.Proofs.Chat.CommandWord
import LiveChat.Proofs.Chat.PlainText
import LiveChat.Proofs.Chat.MarkupWords
import LiveChat.Proofs.Chat.Replay
import LiveChat.Proofs.Chat.AuthorNames
import LiveChat.Proofs.Chat.Columns
import LiveChat.Proofs.Chat.AttachedEmotes
import LiveChat.Proofs.Chat.ColourHistory
import LiveChat.Proofs.Chat.Payload
import LiveChat.Proofs.Delivery.Admission
import LiveChat.Proofs.Store.OffsetFile
import LiveChat.Proofs.Store.InterruptedStore
import LiveChat.Proofs.Delivery.AtLeastOnce
import LiveChat.Proofs.Delivery.Backlog
import LiveChat.Proofs.Delivery.Echo
import LiveChat.Proofs.Store.ForeignSchemas
import LiveChat.Proofs.Serve.Frames
import LiveChat.Proofs.Ingest.Streams
import LiveChat.Proofs.Ingest.Restarts
import LiveChat.Proofs.Delivery.OneOrder
import LiveChat.Proofs.Chat.ListedFields
import LiveChat.Proofs.Chat.EmoteHistory
import LiveChat.Proofs.Store.RecentSessions
import LiveChat.Proofs.Config.CompleteSettings
import LiveChat.Proofs.Chat.Segmentation
import LiveChat.Proofs.Delivery.RecentIds
