import BiliSyncPlay.Service.Sweep
import BiliSyncPlay.Service.SharedPlayback
import BiliSyncPlay.Service.Authors
import BiliSyncPlay.Service.Stamps
import BiliSyncPlay.WriteQueue.Heed
import BiliSyncPlay.Redis.Purge
import BiliSyncPlay.Redis.Generations
import BiliSyncPlay.Redis.Mirror
import BiliSyncPlay.Pacing.MaintenancePass
import BiliSyncPlay.Pacing.PendingResyncQueue
import BiliSyncPlay.Pacing.AppendChain
import BiliSyncPlay.Rooms.OrphanClaims
import BiliSyncPlay.Rooms.Agreement
import BiliSyncPlay.Reaper.Announcements
import BiliSyncPlay.Admin.Sessions
import BiliSyncPlay.Admin.EventTotals
import BiliSyncPlay.Admin.EventAgreement
import BiliSyncPlay.Extension.RoomStates
import BiliSyncPlay.Extension.RoomContext
import BiliSyncPlay.Extension.Outgoing
import BiliSyncPlay.Admin.Subscriptions
import BiliSyncPlay.Extension.PlaybackSlots
import BiliSyncPlay.Extension.PlaybackAnchors
import BiliSyncPlay.Extension.DeferredPause
import BiliSyncPlay.Extension.Connection
import BiliSyncPlay.Extension.RoomRequests
import BiliSyncPlay.Extension.ConnectionEvents
import BiliSyncPlay.Extension.Moves
import BiliSyncPlay.Extension.Sockets
import BiliSyncPlay.Extension.Intent
import BiliSyncPlay.Extension.Reconnects
import BiliSyncPlay.Extension.Shares
import BiliSyncPlay.Extension.Confirmations
import BiliSyncPlay.Extension.ShareOrder
import BiliSyncPlay.Extension.AutoShares
import BiliSyncPlay.Extension.CatchUpRuns
import BiliSyncPlay.Protocol.ShareOwner
import BiliSyncPlay.Admission.SecurityPolicy
import BiliSyncPlay.Extension.HydrationRetry
import BiliSyncPlay.Stores.Residue
import BiliSyncPlay.Extension.DeferredApply
import BiliSyncPlay.Extension.PageRecords
import BiliSyncPlay.Protocol.NormalForm
import BiliSyncPlay.Extension.NavigationRuns
import BiliSyncPlay.Pacing.DiagnosisThrottle
import BiliSyncPlay.Admission.UpgradeRuns
import BiliSyncPlay.Redis.StalledConnection
import BiliSyncPlay.Config.Detour
import BiliSyncPlay.Pacing.AnnouncementBroadcaster
import BiliSyncPlay.Redis.RoomEventBus
import BiliSyncPlay.Pacing.ConcurrencyLimiter
import BiliSyncPlay.Extension.ClockSync
import BiliSyncPlay.Service.WsSession
import BiliSyncPlay.Extension.AnnouncementController
import BiliSyncPlay.Service.GracefulShutdown
import BiliSyncPlay.Service.EventPublishes
import BiliSyncPlay.Service.RoomEventConsumer
import BiliSyncPlay.Admin.CommandConsumer
import BiliSyncPlay.Admin.ActionService
