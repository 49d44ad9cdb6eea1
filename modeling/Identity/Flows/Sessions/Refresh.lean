import Identity.Flows.Accounts.Passwords

open identity.repository identity.memory
namespace identity.service

def findRefreshTokenByHashIncludingConsumed (hash : String) : ServiceCall (Option RefreshTokenRecord) :=
  Routine.ask (Request.session (.findRefreshTokenByHashIncludingConsumed hash))

def findRefreshTokenByHash (hash : String) : ServiceCall (Option RefreshTokenRecord) :=
  Routine.ask (Request.session (.findRefreshTokenByHash hash))

def consumeRefreshTokenByHash (hash : String) (atMs : Int) : ServiceCall Unit :=
  attemptRequest (.session (.consumeRefreshTokenByHash hash atMs)) fun answer => answer

def revokeSession (sid : String) (atMs : Int) : ServiceCall Unit :=
  Routine.ask (Request.session (.revokeSession sid atMs))

def maxTenantIDLen : Nat := 64

def tenantIDRune (r : Char) : Bool :=
  ('a' ≤ r && r ≤ 'z') || ('A' ≤ r && r ≤ 'Z') || ('0' ≤ r && r ≤ '9') || r == '-' || r == '_'

namespace AuthService
variable (p : Platform) (s : AuthService)

/-- The tenant a refresh names, empty when it names none or the default one. -/
def selectedTenant (tenantID : String) : Except Err String :=
  let tenantID := strings.trimSpace tenantID
  if tenantID = "" ∨ tenantID = s.tenantID then .ok ""
  else if tenantID.utf8ByteSize > maxTenantIDLen ∨ !tenantID.toList.all tenantIDRune then
    .error (.wrapped .invalidArgument "tenant_id must be at most 64 ASCII letters, digits, '-' or '_'")
  else .ok tenantID

/-- End the one session a refresh token was minted with; a token without one ends all of
    the user's. -/
def revokeSessionIfModeSession (sid userID : String) : ServiceCall Unit :=
  if !s.revocationModeSession then pure ()
  else if sid = "" then s.revokeUserSessionsIfModeSession userID
  else do
    let now ← nowMs
    revokeSession sid now

/-- A consumed token that is presented again ends everything the user has. -/
def refuseReplay (record : RefreshTokenRecord) : ServiceCall Unit := do
  deleteRefreshTokensForUser record.userID
  s.revokeUserSessionsIfModeSession record.userID
  throw (.wrapped .unauthenticated "refresh token replay")

def refuseConsumed (record : RefreshTokenRecord) : ServiceCall Unit :=
  if record.consumedAtMs > 0 then s.refuseReplay record else pure ()

/-- A refusal that ends the token and its session. -/
def endSession (record : RefreshTokenRecord) (refusal : Err) : ServiceCall Unit := do
  deleteRefreshToken record.nodeID
  s.revokeSessionIfModeSession record.sid record.userID
  throw refusal

def checkRefreshExpiry (record : RefreshTokenRecord) : ServiceCall Unit := do
  let now ← nowMs
  if record.expiresAt < now then s.endSession record (.wrapped .tokenExpired "refresh token expired") else pure ()

def checkSessionTimeout (record : RefreshTokenRecord) (user : User) : ServiceCall Unit := do
  let now ← nowMs
  match s.refresh.enforceSessionTimeout user.email now record.sessionStartedAt record.lastUsedAt with
  | .ok _ => return
  | .error err => s.endSession record err

/-- An address that is no longer proven ends the access session and keeps the token. -/
def checkRefreshEmail (record : RefreshTokenRecord) (user : User) : ServiceCall Unit :=
  match s.enforceVerifiedEmail user with
  | .ok _ => pure ()
  | .error err => do
    s.revokeSessionIfModeSession record.sid record.userID
    throw err

/-- The admission of an agent, or the access mode for a person; an anonymous account has
    no address to judge. -/
def checkRefreshAccess (record : RefreshTokenRecord) (user : User) : ServiceCall Unit :=
  if user.isAgent then do
    match ← (s.checkAgentStanding user).attempt with
    | .ok _ => return
    | .error err =>
      if err.is .emailVerificationRequired then do
        s.revokeSessionIfModeSession record.sid record.userID
        throw err
      else throw err
  else if !user.isAnonymous then s.enforceAccountAccessLogin user
  else pure ()

/-- Everything that can refuse an account before its token is consumed; what is left is
    the account's own state, as the error the consumed token ends in. -/
def refreshGates (record : RefreshTokenRecord) (user : User) (tenantID : String) : ServiceCall (Except Err Unit) := do
  refuseIf (user.isAnonymous ∧ !s.refresh.anonymousEnabled) (.sentinel .anonymousRefreshDisabled)
  s.checkRefreshEmail record user
  check (s.enforceDOBRequired user 0)
  s.checkRefreshAccess record user
  match ← (s.checkAccountStatus user).attempt with
  | .error err => if err.is .accountLocked then throw err else return .error err
  | .ok _ => do
    check (s.enforceProductAgeGate user)
    if tenantID ≠ "" then do
      check (s.refresh.checkTenantSelection user record tenantID)
      return .ok ()
    else return .ok ()

/-- The refusal of an account over its own state, once its token is spent. -/
def settleStatus (record : RefreshTokenRecord) (status : Except Err Unit) : ServiceCall Unit :=
  match status with
  | .ok _ => pure ()
  | .error err => do
    s.revokeSessionIfModeSession record.sid record.userID
    throw err

/-- An anonymous account shows a sign of life; anyone else's access is judged again. -/
def readmit (user : User) : ServiceCall Unit :=
  if user.isAnonymous then do
    let now ← nowMs
    let _ ← (updateUser user.id (fields [("anonymous_last_seen_ms", .int now)])).attempt
    return
  else s.enforceAccountAccessLogin user

/-- The rotation: the presented token is consumed by a compare-and-set, and a pair with a
    session row of its own is minted. The row of the consumed token is left as it is. -/
def rotate (record : RefreshTokenRecord) (user : User) (tokenHash tenantID : String) (status : Except Err Unit)
    (client : ClientInfo) : ServiceCall IssuedTokens := do
  let now ← nowMs
  match ← (consumeRefreshTokenByHash tokenHash now).attempt with
  | .error err =>
    if err.is .unauthenticated then throw (.wrapped .unauthenticated "refresh token already consumed") else throw err
  | .ok _ =>
    s.settleStatus record status
    s.readmit user
    s.issueTokensWithSessionStart p user client record.sessionStartedAt 0 tenantID

def refreshToken (rawRefreshToken tenantID : String) (client : ClientInfo) : ServiceCall IssuedTokens := do
  refuseIf (rawRefreshToken = "") (.wrapped .unauthenticated "missing refresh token")
  let tenantID ← check (s.selectedTenant tenantID)
  let tokenHash := p.sha256Hex rawRefreshToken
  match ← findRefreshTokenByHashIncludingConsumed tokenHash with
  | none => throw (.wrapped .unauthenticated "invalid refresh token")
  | some record =>
    s.refuseConsumed record
    s.checkRefreshExpiry record
    match ← getUser record.userID with
    | none => throw (.wrapped .notFound "user not found")
    | some user =>
      s.checkSessionTimeout record user
      let status ← s.refreshGates record user tenantID
      s.rotate p record user tokenHash tenantID status client

/-- The token is deleted and the session it was minted with is revoked. -/
def logout (rawRefreshToken : String) : ServiceCall Unit :=
  if rawRefreshToken = "" then pure ()
  else do
    match ← findRefreshTokenByHash (p.sha256Hex rawRefreshToken) with
    | none => return
    | some record =>
      deleteRefreshToken record.nodeID
      s.revokeSessionIfModeSession record.sid record.userID

end AuthService
end identity.service
