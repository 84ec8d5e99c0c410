import TeamsRehook.Lib.Transition
import TeamsRehook.Lib.Url
import TeamsRehook.Lib.Base64
import TeamsRehook.Lib.Table
import TeamsRehook.Lib.Python
import TeamsRehook.Lib.Datetime
import TeamsRehook.Lib.Window
import TeamsRehook.Lib.Paging
import TeamsRehook.Lib.Json
import TeamsRehook.Lib.Except
import TeamsRehook.Lib.Processes
import TeamsRehook.Lib.JsonTree
import TeamsRehook.Lib.Splitting
import TeamsRehook.Lib.Markup
import TeamsRehook.Lib.JsonText
import TeamsRehook.Lib.ServerSentEvents
import TeamsRehook.Abuse
import TeamsRehook.LogRetention
import TeamsRehook.Accounts
import TeamsRehook.AccountSessions
import TeamsRehook.AbuseSessions
import TeamsRehook.SettingsOverrides
import TeamsRehook.SettingsSessions
import TeamsRehook.ClientIpAllowlist
import TeamsRehook.EventLog
import TeamsRehook.GraphNameResolution
import TeamsRehook.Webhook.Events
import TeamsRehook.Webhook.Receive
import TeamsRehook.Webhook.History
import TeamsRehook.Webhook.RelaySessions
import TeamsRehook.Webhook.ClientHost
import TeamsRehook.Bot.Activity
import TeamsRehook.Bot.References
import TeamsRehook.Bot.Authorization
import TeamsRehook.Bot.Commands
import TeamsRehook.Bot.Receive
import TeamsRehook.Bot.MembershipHistory
import TeamsRehook.Bot.Cards
import TeamsRehook.Webhook.RouteDeletion
import TeamsRehook.Webhook.RevealLinks
import TeamsRehook.Webhook.InFlight
import TeamsRehook.Webhook.Administration
import TeamsRehook.Seed
import TeamsRehook.Webhook.RestartHistory
import TeamsRehook.Bot.ActivityReplay
import TeamsRehook.Bot.Authentication
import TeamsRehook.Bot.AccessRoles
import TeamsRehook.Lib.Sqlite
import TeamsRehook.RouteMigration
import TeamsRehook.Webhook.NameConflicts
import TeamsRehook.Delivery.OAuthState
import TeamsRehook.Delivery.GraphReadiness
import TeamsRehook.GraphTargets
import TeamsRehook.Webhook.BodyReading
import TeamsRehook.Lemmas.Abuse
import TeamsRehook.Lemmas.Webhook
import TeamsRehook.Lemmas.Payloads
import TeamsRehook.Lemmas.History
import TeamsRehook.Lemmas.Delivery
import TeamsRehook.Lemmas.ClientErrors
import TeamsRehook.Lemmas.Accounts
import TeamsRehook.Lemmas.Settings
import TeamsRehook.Lemmas.SettingValues
import TeamsRehook.Lemmas.Bot
import TeamsRehook.Lemmas.Commands
import TeamsRehook.Lemmas.Routes
import TeamsRehook.Lemmas.References
import TeamsRehook.Lemmas.Targets
import TeamsRehook.Lemmas.ActivityReplay
import TeamsRehook.Lemmas.AccessRoles
import TeamsRehook.Theorems.Blocked
import TeamsRehook.Theorems.RollingWindow
import TeamsRehook.Theorems.LostFailures
import TeamsRehook.Theorems.RejectedKeys
import TeamsRehook.Theorems.UrlRegeneration
import TeamsRehook.Theorems.TerminalState
import TeamsRehook.Theorems.InFlight
import TeamsRehook.Theorems.AtMostOnce
import TeamsRehook.Theorems.ActiveAdmin
import TeamsRehook.Theorems.FirstAdmin
import TeamsRehook.Theorems.OldSessions
import TeamsRehook.Theorems.ClientHost
import TeamsRehook.Theorems.SettingsInForce
import TeamsRehook.Theorems.GraphDependency
import TeamsRehook.Theorems.DateRanges
import TeamsRehook.Theorems.BotPermissions
import TeamsRehook.Theorems.GroupPermissions
import TeamsRehook.Theorems.RevealLinks
import TeamsRehook.Theorems.RestartTargets
import TeamsRehook.Theorems.CreatePermission
import TeamsRehook.Theorems.CardButtons
import TeamsRehook.Theorems.StoredRoutes
import TeamsRehook.Theorems.StoredNames
import TeamsRehook.Theorems.Payloads
import TeamsRehook.Theorems.GraphConnection
import TeamsRehook.Theorems.RotatedTokens
import TeamsRehook.Theorems.RouteMigration
import TeamsRehook.Theorems.ActivityReplay
import TeamsRehook.Theorems.NameConflicts
import TeamsRehook.Theorems.AllowedClients
import TeamsRehook.Theorems.MessageBounds
import TeamsRehook.Theorems.BodyReading
import TeamsRehook.Theorems.LinkedRoutes
import TeamsRehook.Theorems.Redaction
import TeamsRehook.Theorems.AllowlistCommand
import TeamsRehook.Theorems.MessageHtml
import TeamsRehook.Theorems.LoggedPaths
import TeamsRehook.Theorems.BotAuthentication
import TeamsRehook.Theorems.DisplayedPermissions
import TeamsRehook.Theorems.RoleBackfill
import TeamsRehook.Theorems.BlockDurations
import TeamsRehook.Theorems.BucketCleanup
import TeamsRehook.Theorems.CardText
import TeamsRehook.Theorems.SettingNormalization
import TeamsRehook.Theorems.CorsOrigins
import TeamsRehook.Theorems.OAuthState
import TeamsRehook.Theorems.GraphReadiness
import TeamsRehook.Theorems.GroupMembers
import TeamsRehook.Theorems.ShownMembers
import TeamsRehook.EventStream
import TeamsRehook.Theorems.EventStream
import TeamsRehook.Theorems.EventStreamText
import TeamsRehook.DeliveryAuthJobs
import TeamsRehook.Theorems.DeliveryAuthJobs
import TeamsRehook.Delivery.TokenManagers
import TeamsRehook.Theorems.TokenManagers
import TeamsRehook.InstanceSecrets
import TeamsRehook.Theorems.InstanceSecrets
import TeamsRehook.Webhook.DeliveryLog
import TeamsRehook.Theorems.DeliveryLog
import TeamsRehook.Delivery.AuthDiagnostics
import TeamsRehook.Theorems.AuthDiagnostics
import TeamsRehook.Delivery.ServiceUserChats
import TeamsRehook.GraphLookups
import TeamsRehook.Lib.PercentEncoding
import TeamsRehook.Theorems.GraphRequests
import TeamsRehook.Theorems.ServiceUserChats
import TeamsRehook.Theorems.NamesRefresh
import TeamsRehook.Monitoring
import TeamsRehook.Theorems.Monitoring
import TeamsRehook.Theorems.ReportedProblems
