import RealTube.Store.Table
import RealTube.Store.Transaction
import RealTube.Store.ReadCommitted
import RealTube.Store.LockOrder
import RealTube.Store.Steps
import RealTube.Store.Query
import RealTube.Store.ChangeFeed
import RealTube.Store.Replica
import RealTube.Store.Interleaving
import RealTube.Store.Shares
import RealTube.Store.Percentages
import RealTube.Store.FixedWindow
import RealTube.Store.Windows
import RealTube.Store.OrderedMap
import RealTube.Store.Debounce
import RealTube.Store.InPlace
import RealTube.Store.CacheAside
import RealTube.Store.Alike
import RealTube.Store.EventLoop
import RealTube.Text.Pattern
import RealTube.Text.Bytes
import RealTube.Text.Json
import RealTube.Text.Url
import RealTube.Text.Calendar
import RealTube.Text.Timestamp
import RealTube.Text.UriComponent
import RealTube.Text.Decimal
import RealTube.Text.JsonDoc
import RealTube.Model.Schema
import RealTube.Model.VoteRepo
import RealTube.Model.ScoreService
import RealTube.Model.ChannelWorker
import RealTube.Model.VideoService
import RealTube.Model.SyncService
import RealTube.Model.UserService
import RealTube.Model.Validation
import RealTube.Model.Handlers
import RealTube.Model.HashPrefix
import RealTube.Model.SyncCodec
import RealTube.Model.RateLimit
import RealTube.Model.RateLimiter
import RealTube.Model.ChannelService
import RealTube.Model.Export
import RealTube.Votes.Serial
import RealTube.Votes.Counters
import RealTube.Votes.Refinement
import RealTube.Votes.Commute
import RealTube.Votes.Failures
import RealTube.Concurrency.Footprint
import RealTube.Concurrency.Serializability
import RealTube.Scores.Recalculation
import RealTube.Scores.Shadowban
import RealTube.Scores.Monotone
import RealTube.Scores.Formula
import RealTube.Scores.Batch
import RealTube.Concurrency.Bounds
import RealTube.Concurrency.Deadlock
import RealTube.Users.Totals
import RealTube.Workers.System
import RealTube.Workers.Freshness
import RealTube.Workers.Convergence
import RealTube.Workers.Retention
import RealTube.Cache.Invalidation
import RealTube.Cache.Staleness
import RealTube.Model.CacheCodec
import RealTube.Cache.Codec
import RealTube.Channels.Score
import RealTube.Channels.Range
import RealTube.Channels.Tick
import RealTube.Channels.Lock
import RealTube.Channels.Preliminary
import RealTube.Channels.Rounding
import RealTube.Channels.Idempotence
import RealTube.Api.Identifiers
import RealTube.Api.HashPrefix
import RealTube.Api.Validators
import RealTube.Api.UserAgent
import RealTube.Api.PathLog
import RealTube.Api.Endpoints
import RealTube.RateLimit.VoteSubmit
import RealTube.RateLimit.Parity
import RealTube.RateLimit.Windows
import RealTube.Sync.Feed
import RealTube.Sync.Cursor
import RealTube.Sync.Visibility
import RealTube.Sync.Poll
import RealTube.Extension.Sync
import RealTube.Extension.Wire
import RealTube.Sync.Codec
import RealTube.Extension.OfflineQueue
import RealTube.Extension.Flush
import RealTube.Extension.Identity
import RealTube.Users.PublicID
import RealTube.Extension.Content
import RealTube.Extension.SyncRun
import RealTube.Extension.FlushRun
import RealTube.Extension.FlushTimer
import RealTube.Extension.Lookup
import RealTube.Extension.DeltaFrame
import RealTube.Extension.Options
import RealTube.Extension.ServerURL
import RealTube.Extension.ApiClient
import RealTube.Extension.Delivery
import RealTube.Extension.Schedule
import RealTube.Extension.Hub
import RealTube.Extension.Secrecy
import RealTube.RateLimit.RetryAfter
import RealTube.RateLimit.Memory
import RealTube.Page.Dom
import RealTube.Page.Renderers
import RealTube.Page.Hide
import RealTube.Page.Mutations
import RealTube.Page.Shorts
import RealTube.Page.VoteDropdown
import RealTube.Page.VideoIDs
import RealTube.Export.Latest
import RealTube.Export.Content
