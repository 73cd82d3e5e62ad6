import TenantAccess.Action
import TenantAccess.Address.Split
import TenantAccess.Address.Target
import TenantAccess.Concurrent
import TenantAccess.Config.Literal
import TenantAccess.Config.Settings
import TenantAccess.Credential.Bearer
import TenantAccess.Credential.Caller
import TenantAccess.Credential.Resolver
import TenantAccess.Crypto.Base64
import TenantAccess.Crypto.Curve
import TenantAccess.Crypto.Der
import TenantAccess.Crypto.Hmac
import TenantAccess.Crypto.Modular
import TenantAccess.Crypto.Pem
import TenantAccess.Crypto.Prime
import TenantAccess.Crypto.Rsa
import TenantAccess.Crypto.RsaPrivate
import TenantAccess.Crypto.Sha256
import TenantAccess.Distinct
import TenantAccess.Fault
import TenantAccess.Guard.Authorize
import TenantAccess.Guard.Checker
import TenantAccess.Host.DomainError
import TenantAccess.Host.DomainName
import TenantAccess.Host.IpLiteral
import TenantAccess.Host.Label
import TenantAccess.Host.LabelChars
import TenantAccess.Host.Punycode
import TenantAccess.Http.Address
import TenantAccess.Http.Application
import TenantAccess.Http.Content
import TenantAccess.Http.Correlation
import TenantAccess.Http.Document
import TenantAccess.Http.Handler
import TenantAccess.Http.Headers
import TenantAccess.Http.Message
import TenantAccess.Http.PathLabel
import TenantAccess.Http.Query
import TenantAccess.Http.Route
import TenantAccess.Input.Checked
import TenantAccess.Input.FieldError
import TenantAccess.Json.Bytes
import TenantAccess.Json.Display
import TenantAccess.Json.Parser
import TenantAccess.Json.Printer
import TenantAccess.Json.Value
import TenantAccess.Log.Directive
import TenantAccess.Log.Level
import TenantAccess.Log.Record
import TenantAccess.Log.Template
import TenantAccess.Metrics
import TenantAccess.Number.Binary64
import TenantAccess.Number.Rounded
import TenantAccess.Number.Shortest
import TenantAccess.Permission.Catalog
import TenantAccess.Permission.Document
import TenantAccess.Permission.Map
import TenantAccess.Permission.Requirement
import TenantAccess.Proofs.ActionBounds
import TenantAccess.Proofs.ActionRun
import TenantAccess.Proofs.ActionSteps
import TenantAccess.Proofs.AddressParts
import TenantAccess.Proofs.ApiKeyDecision
import TenantAccess.Proofs.BearerDecision
import TenantAccess.Proofs.BlankBearer
import TenantAccess.Proofs.CallerResolution
import TenantAccess.Proofs.CombinedPermissions
import TenantAccess.Proofs.CreationDecision
import TenantAccess.Proofs.DecimalDigits
import TenantAccess.Proofs.DeletionDecision
import TenantAccess.Proofs.DisplayText
import TenantAccess.Proofs.ErrorCodes
import TenantAccess.Proofs.EscalationBarrier
import TenantAccess.Proofs.GrantVerdict
import TenantAccess.Proofs.GuardDecision
import TenantAccess.Proofs.HandlerStages
import TenantAccess.Proofs.HookAgreement
import TenantAccess.Proofs.IdSpellings
import TenantAccess.Proofs.Interleaving
import TenantAccess.Proofs.JsonAscii
import TenantAccess.Proofs.JsonNumbers
import TenantAccess.Proofs.JsonRoundTrip
import TenantAccess.Proofs.JsonStrings
import TenantAccess.Proofs.JsonValues
import TenantAccess.Proofs.KeyFaults
import TenantAccess.Proofs.KeyHistory
import TenantAccess.Proofs.KeyLookup
import TenantAccess.Proofs.KeyRotation
import TenantAccess.Proofs.KeySelection
import TenantAccess.Proofs.LenientNumbers
import TenantAccess.Proofs.LogLines
import TenantAccess.Proofs.MalformedRows
import TenantAccess.Proofs.MetricCounts
import TenantAccess.Proofs.NearestNumber
import TenantAccess.Proofs.PairedRuns
import TenantAccess.Proofs.PathLabels
import TenantAccess.Proofs.PatternReplacement
import TenantAccess.Proofs.PermissionGrants
import TenantAccess.Proofs.PermissionStorage
import TenantAccess.Proofs.PermissionUnion
import TenantAccess.Proofs.PrivilegeBound
import TenantAccess.Proofs.RefetchSpacing
import TenantAccess.Proofs.RefusalReports
import TenantAccess.Proofs.RequestAccounting
import TenantAccess.Proofs.RequestAuthority
import TenantAccess.Proofs.RequestCorrelation
import TenantAccess.Proofs.RequestedPermissions
import TenantAccess.Proofs.Results
import TenantAccess.Proofs.RoleAccounting
import TenantAccess.Proofs.RoleAmendment
import TenantAccess.Proofs.RoleCap
import TenantAccess.Proofs.RoleCheck
import TenantAccess.Proofs.RoleEffect
import TenantAccess.Proofs.RoleGrant
import TenantAccess.Proofs.RoleHolders
import TenantAccess.Proofs.RoleInput
import TenantAccess.Proofs.RoleListing
import TenantAccess.Proofs.RoleLists
import TenantAccess.Proofs.RoleMutation
import TenantAccess.Proofs.RoleRaces
import TenantAccess.Proofs.RoleReferences
import TenantAccess.Proofs.RoleRequests
import TenantAccess.Proofs.RoleResolution
import TenantAccess.Proofs.RoleRun
import TenantAccess.Proofs.RoleSteps
import TenantAccess.Proofs.RoleTable
import TenantAccess.Proofs.RoleWellFormed
import TenantAccess.Proofs.RoleWrites
import TenantAccess.Proofs.ServiceBounds
import TenantAccess.Proofs.ServiceCall
import TenantAccess.Proofs.SessionCheck
import TenantAccess.Proofs.ShortestText
import TenantAccess.Proofs.StageCounts
import TenantAccess.Proofs.StoreRun
import TenantAccess.Proofs.StoredPermissions
import TenantAccess.Proofs.TenantIsolation
import TenantAccess.Proofs.TenantOperations
import TenantAccess.Proofs.TenantReads
import TenantAccess.Proofs.TenantView
import TenantAccess.Proofs.TokenAcceptance
import TenantAccess.Proofs.TokenCheck
import TenantAccess.Proofs.TrafficAccounting
import TenantAccess.Proofs.Trimming
import TenantAccess.Proofs.UpdateDecision
import TenantAccess.Proofs.Utf8Decoding
import TenantAccess.Proofs.Verification
import TenantAccess.Proofs.WrittenRoles
import TenantAccess.Refusal
import TenantAccess.Role.Draft
import TenantAccess.Role.Names
import TenantAccess.Role.Resolver
import TenantAccess.Role.Service
import TenantAccess.Role.Stored
import TenantAccess.Schema.Migration
import TenantAccess.Schema.Tables
import TenantAccess.Service.State
import TenantAccess.Store.ApiKeys
import TenantAccess.Store.Database
import TenantAccess.Store.Members
import TenantAccess.Store.Roles
import TenantAccess.Table
import TenantAccess.Text.Blank
import TenantAccess.Text.DecodeError
import TenantAccess.Text.Digit
import TenantAccess.Text.IntLiteral
import TenantAccess.Text.Latin
import TenantAccess.Text.Percent
import TenantAccess.Text.Printable
import TenantAccess.Text.Quoted
import TenantAccess.Text.Replace
import TenantAccess.Text.Utf8
import TenantAccess.Text.Wide
import TenantAccess.Text.WordChar
import TenantAccess.Time.Calendar
import TenantAccess.Time.Timestamp
import TenantAccess.Time.TimestampReader
import TenantAccess.Token.Claims
import TenantAccess.Token.Key
import TenantAccess.Token.KeyLine
import TenantAccess.Token.KeySection
import TenantAccess.Token.KeySource
import TenantAccess.Token.KeyText
import TenantAccess.Token.Signed
import TenantAccess.Token.Verifier
import TenantAccess.Tracing.Provider
import TenantAccess.Tracing.RequestHook
import TenantAccess.Tracing.Span
import TenantAccess.Unicode.CodeRanges
import TenantAccess.Unicode.CombiningClass
import TenantAccess.Unicode.Composition
import TenantAccess.Unicode.Decomposition
import TenantAccess.Unicode.Direction
import TenantAccess.Unicode.Joining
import TenantAccess.Unicode.LowerCase
import TenantAccess.Unicode.Mark
import TenantAccess.Unicode.Script
import TenantAccess.Uuid
