import MlflowOidcAuth.Library.Run
import MlflowOidcAuth.Library.KeyedCache
import MlflowOidcAuth.Library.OrderedSources
import MlflowOidcAuth.Permissions
import MlflowOidcAuth.Store.Tables
import MlflowOidcAuth.Store.Queries
import MlflowOidcAuth.Regex
import MlflowOidcAuth.Resolution.Sources
import MlflowOidcAuth.Resolution.Workspace
import MlflowOidcAuth.Resolution.Cached
import MlflowOidcAuth.Resolution.CachedRuns
import MlflowOidcAuth.Resolution.ScorerRuns
import MlflowOidcAuth.Resolution.ContextRuns
import MlflowOidcAuth.Resolution.Fallback
import MlflowOidcAuth.Store.Grants
import MlflowOidcAuth.Batch.Context
import MlflowOidcAuth.Batch.Agreement
import MlflowOidcAuth.Batch.GroupRows
import MlflowOidcAuth.Library.Effects
import MlflowOidcAuth.Library.Sweep
import MlflowOidcAuth.Store.Sessions
import MlflowOidcAuth.Store.Quotas
import MlflowOidcAuth.Quota.Reconcile
import MlflowOidcAuth.Quota.Orphans
import MlflowOidcAuth.Tracking
import MlflowOidcAuth.Trash.Cleanup
import MlflowOidcAuth.Trash.Frame
import MlflowOidcAuth.Hook.Request
import MlflowOidcAuth.Hook.Parameters
import MlflowOidcAuth.Hook.Gateway
import MlflowOidcAuth.Library.OrderedDict
import MlflowOidcAuth.Library.PathPatterns
import MlflowOidcAuth.Hook.Routes
import MlflowOidcAuth.Hook.Dispatch
import MlflowOidcAuth.Store.Mutators
import MlflowOidcAuth.Store.Methods
import MlflowOidcAuth.Resolution.Locality
import MlflowOidcAuth.Store.Footprints
import MlflowOidcAuth.Resolution.Invalidation
import MlflowOidcAuth.Store.Workspaces
import MlflowOidcAuth.Routers.WorkspacePermissions
import MlflowOidcAuth.Resolution.Interleaving
import MlflowOidcAuth.Resolution.GroupSource
import MlflowOidcAuth.Library.Loop
import MlflowOidcAuth.Library.Paging
import MlflowOidcAuth.Hook.SearchFilters
import MlflowOidcAuth.Hook.SearchPages
import MlflowOidcAuth.Hook.LoggedPages
import MlflowOidcAuth.Hook.SearchWorkspaces
import MlflowOidcAuth.Hook.ArtifactPaths
import MlflowOidcAuth.Hook.CreationGate
import MlflowOidcAuth.Graphql.FilterText
import MlflowOidcAuth.Graphql.Middleware
import MlflowOidcAuth.Hook.PromptAccess
import MlflowOidcAuth.Quota.Enforcement
import MlflowOidcAuth.Library.SharedCounter
import MlflowOidcAuth.Quota.Charges
import MlflowOidcAuth.Quota.Measurement
import MlflowOidcAuth.Quota.TrashedSizes
import MlflowOidcAuth.Quota.Ownership
import MlflowOidcAuth.Store.WorkspaceRegex
import MlflowOidcAuth.Hook.CreationGrants
import MlflowOidcAuth.Hook.Renames
import MlflowOidcAuth.Routers.Login
import MlflowOidcAuth.Store.UserDeletion
import MlflowOidcAuth.Writes.Rows
import MlflowOidcAuth.Writes.Sequences
import MlflowOidcAuth.Writes.Permissions
import MlflowOidcAuth.Resolution.RegexErrors
import MlflowOidcAuth.Writes.Patterns
import MlflowOidcAuth.Store.Memberships
import MlflowOidcAuth.Store.GatewayGroupRegex
import MlflowOidcAuth.Routers.OwnershipTransfer
import MlflowOidcAuth.Middleware.SessionExpiry
import MlflowOidcAuth.Library.IsoFormat
import MlflowOidcAuth.Middleware.ProxyHeaders
import MlflowOidcAuth.Routers.AccessToken
import MlflowOidcAuth.Library.UrlOrigin
import MlflowOidcAuth.Routers.LoginRedirect
import MlflowOidcAuth.Library.RegexTree
import MlflowOidcAuth.RegexSafety
import MlflowOidcAuth.Batch.RegexOrder
import MlflowOidcAuth.Resolution.WorkspaceErrors
import MlflowOidcAuth.Resolution.WorkspaceTiers
import MlflowOidcAuth.Hook.ScorerDeletion
import MlflowOidcAuth.Routers.ScorerPermissions
import MlflowOidcAuth.Quota.Notices
import MlflowOidcAuth.Quota.Reminders
import MlflowOidcAuth.Trash.PagedRuns
import MlflowOidcAuth.Trash.Retention
import MlflowOidcAuth.Resolution.CacheKeys
import MlflowOidcAuth.Batch.LoggedModels
import MlflowOidcAuth.Library.Base64
import MlflowOidcAuth.Library.Backtracking
import MlflowOidcAuth.Library.Binary64
import MlflowOidcAuth.Middleware.BasicAuth
import MlflowOidcAuth.Trash.AgeLimits
import MlflowOidcAuth.Trash.TimeTotals
import MlflowOidcAuth.Grants.Entries
import MlflowOidcAuth.Routers.WriteEndpoints
import MlflowOidcAuth.Routers.Delegation
import MlflowOidcAuth.Grants.Map
import MlflowOidcAuth.Grants.Refinement
import MlflowOidcAuth.Grants.Tables
import MlflowOidcAuth.Grants.NameReuse
import MlflowOidcAuth.Middleware.Authentication
import MlflowOidcAuth.Middleware.Pipeline
import MlflowOidcAuth.Middleware.Demotion
import MlflowOidcAuth.Library.ExpiringCache
import MlflowOidcAuth.Middleware.TokenKeys
import MlflowOidcAuth.Middleware.KeyRotation
import MlflowOidcAuth.Resolution.Workers
import MlflowOidcAuth.Hook.Validators
import MlflowOidcAuth.Hook.Entitlements
import MlflowOidcAuth.Cache.Redis
import MlflowOidcAuth.Cache.Namespaces
