import Identity.Caches.KeySet
import Identity.Caches.ProbeBudget
import Identity.Caches.ProjectResolver
import Identity.Caches.TenantStatus
import Identity.Events.Once
import Identity.Flows.Accounts.Guarded
import Identity.Flows.Accounts.Upgrade
import Identity.Flows.AgentOAuth.TokenFamily
import Identity.Flows.Agents.Capacity
import Identity.Flows.Agents.Ownership
import Identity.Flows.Codes.OneTime
import Identity.Flows.Qr.OneSignIn
import Identity.Flows.Sessions.Credentials
import Identity.Flows.Sessions.Lifetime
import Identity.Flows.Sessions.Replay
import Identity.Flows.SignIn.Guessing
import Identity.Flows.SignIn.Voided
import Identity.Flows.Slips.ActOnce
import Identity.Flows.Slips.SecondFactor
import Identity.Governance.LastOwner
import Identity.Governance.Standing
import Identity.Invitations.Caps
import Identity.Invitations.Outcome
import Identity.Middleware.ClientIP
import Identity.Origin.OneEdit
import Identity.Repository.Creation
import Identity.Repository.Merge
import Identity.Scim.Names
import Identity.Service.AuditEvents
import Identity.Service.Jurisdictions
import Identity.Service.ProductAge
import Identity.Tokens.Separation
import Identity.Verification.Claiming
