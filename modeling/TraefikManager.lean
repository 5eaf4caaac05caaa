import TraefikManager.Auth.Lockout
import TraefikManager.Auth.SuspiciousBlock
import TraefikManager.Proxy.ForwardAuthRuns
import TraefikManager.Proxy.RollbackAction
import TraefikManager.Traefik.Isolation
import TraefikManager.Foundation.Json
import TraefikManager.Foundation.Substring
import TraefikManager.Update.Executor
import TraefikManager.Auth.LockStateMachine
import TraefikManager.IsoDatetime
import TraefikManager.Foundation.AlertProtocol
import TraefikManager.Foundation.NoticeProtocol
import TraefikManager.Monitoring.AlertMonitors
import TraefikManager.Monitoring.CertificateMonitor
import TraefikManager.Auth.LastAdmin
import TraefikManager.Auth.SessionRevocation
import TraefikManager.Audit.Archive
import TraefikManager.Audit.ArchiveRoundTrip
import TraefikManager.Audit.RetentionRuns
import TraefikManager.Monitoring.EncodedPathBlocks
import TraefikManager.Monitoring.EncodedPathCounts
import TraefikManager.Monitoring.EncodedPathRuns
import TraefikManager.Monitoring.LatencyMonitor
import TraefikManager.Notifications.AutoRetry
import TraefikManager.Notifications.RetriedMessage
import TraefikManager.Cloudflare.Convergence
import TraefikManager.Backup.PreviewAccuracy
import TraefikManager.Proxy.UpstreamGuard
import TraefikManager.Proxy.TokenForwardAuth
import TraefikManager.Audit.Rollbacks
import TraefikManager.Monitoring.PreflightFailures
import TraefikManager.Monitoring.SmokeHistory
import TraefikManager.Domain.ServiceAsked
import TraefikManager.Traefik.RedirectUrls
import TraefikManager.Foundation.Url
import TraefikManager.Domain.RedirectTargets
import TraefikManager.Scripts.WatchdogProtocol
import TraefikManager.Scripts.BottleneckProtocol
import TraefikManager.Scripts.BlueGreenOutcome
import TraefikManager.Scripts.UnitRemoval
import TraefikManager.Scripts.HistoryRetention
import TraefikManager.Traefik.CertificateListing
import TraefikManager.Update.ComposeImage
import TraefikManager.Update.Truthfulness
import TraefikManager.Monitoring.GithubRateLimit
import TraefikManager.Monitoring.TargetServices
import TraefikManager.Proxy.BasicAuthUsers
import TraefikManager.Settings.SavedFilterRuns
import TraefikManager.Deployments.BottleneckCleanup
import TraefikManager.Monitoring.ManagerHttpPreview
import TraefikManager.Monitoring.EncodedPathSums
import TraefikManager.Audit.DeliveryRetryChain
import TraefikManager.Scripts.BaselineUpdate
import TraefikManager.Update.RequestQueue
import TraefikManager.Update.Checkpoint
import TraefikManager.Background.Supervisor
