import Dmanager.Lib.TransitionSystem
import Dmanager.Lib.KeyedTable
import Dmanager.Lib.RenewableLease
import Dmanager.Lib.Program
import Dmanager.Lib.Interleaving
import Dmanager.Lib.TwinRuns
import Dmanager.Go.Time
import Dmanager.Go.Strings
import Dmanager.Go.Connect
import Dmanager.Db.Users
import Dmanager.Db.Sessions
import Dmanager.Server.Config
import Dmanager.Server.Api
import Dmanager.Server.Calls
import Dmanager.Db.Containers
import Dmanager.Db.WebAuthn
import Dmanager.Auth.SetupAdmin
import Dmanager.Auth.Session
import Dmanager.Auth.SessionInterleaving
import Dmanager.Auth.SessionInvariants
import Dmanager.Auth.SlidingSession
import Dmanager.Auth.Interceptor
import Dmanager.Auth.BrowserCookie
import Dmanager.Auth.RateLimiter
import Dmanager.Auth.RateLimiterLockout
import Dmanager.Auth.RateLimiterEviction
import Dmanager.Auth.Calls
import Dmanager.Auth.Handlers
import Dmanager.Auth.LastLoginMethod
import Dmanager.Auth.LoginThrottle
import Dmanager.Auth.ChallengeUse
import Dmanager.Auth.CloneDetection
import Dmanager.Docker.Host
import Dmanager.Container.Actions
import Dmanager.Container.ActionsInterleaved
import Dmanager.Docker.Monitor
import Dmanager.Docker.DestroyRace
import Dmanager.Docker.Mirror
import Dmanager.Docker.DestroyOrder
import Dmanager.Docker.EventGaps
import Dmanager.Container.Upgrade
import Dmanager.Container.UpgradeInterleaved
import Dmanager.Container.UpgradeFailure
import Dmanager.Admin.Mutations
import Dmanager.Settings.Mutations
import Dmanager.Audit.Coverage
import Dmanager.Auth.PasskeyIsolation
import Dmanager.Container.Scheduler
import Dmanager.Container.Broker
import Dmanager.Container.BrokerDelivery
import Dmanager.Frontend.ContainerSync
import Dmanager.Go.Calendar
import Dmanager.Go.Json
import Dmanager.Logging.Buffer
import Dmanager.Logging.Service
import Dmanager.Frontend.LogSyncer
import Dmanager.Db.AuditLogs
import Dmanager.Db.Settings
import Dmanager.Settings.Stored
import Dmanager.Audit.Retention
import Dmanager.Db.AuthEvents
import Dmanager.Lib.Alone
import Dmanager.Auth.SelfService
import Dmanager.Auth.SelfServiceIsolation
import Dmanager.Settings.UpdateInterleaved
import Dmanager.Auth.RateLimiterBackoff
import Dmanager.Tailscale.Node
import Dmanager.Tailscale.Wiring
import Dmanager.Frontend.SyncerLoop
import Dmanager.Frontend.UseAuditLogs
import Dmanager.Frontend.UseEngineStatus
import Dmanager.Auth.ClientIP
import Dmanager.Auth.PasskeyLogin
import Dmanager.Container.UpgradeNetworks
import Dmanager.Auth.FirstLogin
import Dmanager.Go.Rfc3339
import Dmanager.Go.Readers
import Dmanager.Container.Logs
import Dmanager.Container.LogOutput
import Dmanager.Container.UpdateCheck
import Dmanager.Go.Unicode
import Dmanager.Logging.Query
import Dmanager.Go.Base64
import Dmanager.Container.RegistryAuth
import Dmanager.Go.Timestamps
import Dmanager.Auth.Expiry
import Dmanager.Lib.Wildcard
import Dmanager.Lib.Paging
import Dmanager.Db.AuditSearch
import Dmanager.Admin.AuditLogs
import Dmanager.Lib.Patterns
import Dmanager.Server.Hostname
import Dmanager.Auth.CookieHeader
import Dmanager.Auth.StoredCredential
import Dmanager.Auth.DeviceLabel
import Dmanager.Server.LoadRegistries
import Dmanager.Server.Marshalling
import Dmanager.Admin.Resources
import Dmanager.Lib.Flights
import Dmanager.Lib.RemoteCalls
import Dmanager.Frontend.AdminFreshness
import Dmanager.Frontend.AdminMeasurement
import Dmanager.Frontend.LogsDrawer
import Dmanager.Auth.BreachedPassword
import Dmanager.Auth.CeremonyAgreement
import Dmanager.Auth.ChallengePurge
import Dmanager.Tailscale.Closing
import Dmanager.Frontend.AuthShell
import Dmanager.Frontend.LogTabs
import Dmanager.Frontend.LogTabsAccounted
