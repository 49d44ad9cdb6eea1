import Identity.Flows.Basic
import Identity.Service.EmailAddress

open identity.repository identity.memory
namespace identity.service

/-- The claims of an access token that vary by account and session; the issuer and
    the audiences are the signer's. -/
structure AccessClaims where
  sub : String
  email : String
  emailVerified : Bool
  name : String
  role : String
  tenant : String
  project : String
  avatarURL : String
  anonymous : Bool
  kind : UserKind
  authTime : Int
  sid : String := ""

/-- `pkg/passwords` and the password policy. A hash is salted with text of its own. -/
structure PasswordRules where
  verify : String → String → Bool
  hash : String → String → Except Err String
  validateStrength : String → Except Err Unit
  validateStrengthForEmail : String → String → Except Err Unit

inductive AgeBand where
  | unknown
  | child
  | teen
  | adult
deriving DecidableEq, Repr

/-- The age gate: the band a date of birth falls in for an account, at a time, and the
    markets whose thresholds say so. -/
structure AgeGate where
  enabled : Bool
  determine : User → Int → Int → AgeBand
  resolvedMarketFor : User → String
  normalizeJurisdictionCode : String → String
  validateAccountMarket : String → Except Err Unit
  implausiblyOld : Int → Int → Bool

inductive LoginMethod where
  | password
  | oauth
  | emailOTP
  | passkey
deriving DecidableEq, Repr

/-- The rules of signing in and up: local accounts, the lockout, second factors and the
    tenants' login policy, which answers whether a second factor is required. -/
structure LoginRules where
  authAllowLocal : Bool
  passwordSignupEnabled : Bool
  loginMaxFailedAttempts : Int
  loginLockoutSeconds : Int
  loginChallengeExpirySeconds : Int
  validateEmailFormat : String → Except Err Unit
  enforceProjectAccessSignup : String → Except Err Unit
  enforceLoginPolicy : String → LoginMethod → Except Err Bool
  verifyTotpCode : String → String → Bool
  hashRecoveryCode : String → String
  accountMergeEnabled : Bool
  recentlyAuthenticated : Int → Int → Bool
  enforceEmailSelfSignup : Except Err Unit

/-- What a rotation asks besides the sign-in's own gates: the tenants' session timeouts,
    given the address, the time, the session's start and its last use, the switch for
    anonymous accounts, and whether a user may act in a tenant it names. -/
structure RefreshRules where
  enforceSessionTimeout : String → Int → Int → Int → Except Err Unit
  anonymousEnabled : Bool
  checkTenantSelection : User → RefreshTokenRecord → String → Except Err Unit

/-- What a verified attestation says about a new passkey. -/
structure RegisteredPasskey where
  credentialID : String
  publicKey : String := ""
  signCount : Int := 0
  aaguid : String := ""
  transports : String := ""
  backupEligible : Bool := false
  backupState : Bool := false

/-- What a ticket for one purpose says; the time of the sign-in is in seconds. -/
structure TicketClaims where
  sub : String
  binding : String := ""
  authTime : Int

/-- The configuration and collaborators as one call finds them: the project's access
    and age rules, the rules for addresses and for what is kept of a user agent, and
    the signer. -/
structure AuthService where
  revocationModeSession : Bool
  requireVerifiedEmail : Bool
  idvRequired : Bool
  refreshExpirySeconds : Int
  jwtExpirySeconds : Int
  tenantID : String
  projectID : String
  enforceProjectAccessLogin : String → Except Err Unit
  canonicalize : String → String
  usernameAccountsAdmitted : Option Bool
  enforceProductAgeGate : User → Except Err Unit
  ageGateRequireDOB : Bool
  mintDOBCompletionTicket : User → Int → Except Err String
  canonicalRewriteTarget : String → Except Err String
  addressCandidates : User → List String
  friendlyDeviceName : String → String
  truncate : String → Nat → String
  signAccessToken : AccessClaims → Except Err String
  passwords : PasswordRules
  ageGate : AgeGate
  guardianStepUpAllowNoPassword : Bool
  verifyPurposeTicket : String → String → Except Err TicketClaims
  signPurposeTicket : String → TicketClaims → Except Err String
  emailThrottleAllows : String → Bool
  emailTokenExpiryMs : Int
  normalizeUsername : String → String
  validateUsernameShape : String → Except Err Unit
  validateUsernameFormat : String → Except Err Unit
  blocksChildData : User → Bool
  toASCII : String → Option String
  login : LoginRules
  accountDomain : String
  refresh : RefreshRules
  relyingParty : Except Err (String → String → Except Err RegisteredPasskey)

def findUserByEmail (email : String) : ServiceCall (Option User) := Routine.ask (Request.user (.findUserByEmail email))

def updateUser (userID : String) (patch : Fields) : ServiceCall Unit :=
  attemptRequest (.user (.updateUser userID patch)) fun answer => answer

def listGuardiansOfChild (childUserID : String) (limit offset : Int) : ServiceCall (List GuardianEdge) :=
  attemptRequest (.guardian (.listGuardiansOfChild childUserID limit offset)) fun answer => answer

def assignAccountAddress (userID address : String) : ServiceCall String :=
  attemptRequest (.user (.assignAccountAddress userID address)) fun answer => answer

def createSession (s : SessionRecord) : ServiceCall String :=
  attemptRequest (.session (.createSession s)) fun answer => answer

def createRefreshToken (t : RefreshTokenRecord) : ServiceCall String :=
  Routine.ask (Request.session (.createRefreshToken t))

/-- `passwords.Hash`. -/
def PasswordRules.hashed (rules : PasswordRules) (password : String) : ServiceCall String := do
  let salt ← randText
  check (rules.hash password salt)

/-- The patch that restores an account pending deletion. -/
def clearedDeletion (now : Int) : Fields :=
  fields [("status", .str statusActive), ("deletion_scheduled_at_ms", .int 0), ("updated_at", .int now)]

def clearPendingDeletion (userID : String) : ServiceCall Unit := do
  let now ← nowMs
  updateUser userID (clearedDeletion now)

namespace AuthService
variable (s : AuthService)

/-- An address on the account that nobody has proven. -/
def needsEmailVerification (user : User) : Bool :=
  s.requireVerifiedEmail && user.email != "" && !user.emailVerified && !user.isAnonymous

def enforceVerifiedEmail (user : User) : Except Err Unit :=
  if s.needsEmailVerification user then .error (.sentinel .emailVerificationRequired) else .ok ()

def getCurrentUser (userID : String) : ServiceCall User := do
  refuseIf (userID = "") (.wrapped .unauthenticated "missing user ID")
  match ← getUser userID with
  | none => throw (.wrapped .notFound "user not found")
  | some user => return user

def checkLockout (user : User) : ServiceCall Unit :=
  if user.lockedUntil > 0 then do
    let now ← nowMs
    refuseIf (user.lockedUntil > now)
      (.wrapped .accountLocked "account temporarily locked due to too many failed attempts")
  else pure ()

/-- An account pending deletion may sign in. -/
def checkSignInStatus (status : String) : Except Err Unit :=
  if statusCanSignIn status then .ok ()
  else if status = statusInvited then .error (.wrapped .invitationPending "accept your invitation first")
  else .error (.wrapped .accountNotActive ("account is " ++ status))

/-- Lockout first, then the status, then identity verification. -/
def checkAccountStatus (user : User) : ServiceCall Unit := do
  checkLockout user
  check (checkSignInStatus (strings.toLower user.status))
  refuseIf (s.idvRequired && !user.idvVerified && !user.isAgent) (.sentinel .idvRequired)

/-- The owner of an agent, if that owner may stand behind a session now. -/
def agentOwner (agent : User) : ServiceCall User := do
  let refusal := Err.wrapped .accountNotActive "the agent's owner is not active"
  refuseIf (agent.ownerUserID = "") refusal
  match ← getUser agent.ownerUserID with
  | none => throw refusal
  | some owner => if isEligibleAgentOwner owner then return owner else throw refusal

/-- The access mode for a person: by email, or for a username account by the mode and
    a guardian. -/
def enforcePersonAccessLogin (user : User) : ServiceCall Unit :=
  if user.email ≠ "" ∨ user.username = "" then check (s.enforceProjectAccessLogin (s.canonicalize user.email))
  else
    match s.usernameAccountsAdmitted with
    | none => pure ()
    | some true => pure ()
    | some false => do
      let edges ← listGuardiansOfChild user.id 1 0
      refuseIf edges.isEmpty (.sentinel .accessNotAllowed)

/-- An agent is admitted as its owner is; an eligible owner is a person. -/
def enforceAccountAccessLogin (user : User) : ServiceCall Unit :=
  if user.isAgent then do
    let owner ← agentOwner user
    s.enforcePersonAccessLogin owner
  else s.enforcePersonAccessLogin user

/-- An agent may hold a session while it and its owner are in good standing. -/
def checkAgentStanding (agent : User) : ServiceCall Unit := do
  refuseIf (!isActiveStatus agent.status) (.sentinel .accountNotActive)
  let owner ← agentOwner agent
  refuseIf (s.needsEmailVerification owner) (.sentinel .emailVerificationRequired)
  s.enforceAccountAccessLogin owner
  refuseIf (s.idvRequired && !owner.idvVerified)
    (.wrapped .idvRequired "the agent's owner has not completed identity verification")

/-- A person who signs in while their deletion is pending keeps the account. A failed
    write does not stop the sign-in. -/
def cancelPendingDeletionOnLogin (user : User) : ServiceCall User :=
  if strings.toLower user.status ≠ statusPendingDeletion then pure user
  else do
    match ← (clearPendingDeletion user.id).attempt with
    | .error _ => return user
    | .ok _ => return { user with status := statusActive, deletionScheduledAtMs := 0 }

def enforceDOBRequired (user : User) (authTimeMs : Int) : Except Err Unit :=
  if !s.ageGateRequireDOB || user.isAnonymous || user.dateOfBirthMs != 0 then .ok ()
  else do
    let _ ← s.mintDOBCompletionTicket user authTimeMs
    .error (.sentinel .dobRequired)

end AuthService

/-- Where a call comes from. -/
structure ClientInfo where
  ipAddr : String
  userAgent : String

/-- What an issue hands back: the account as the call now sees it and its tokens. -/
structure IssuedTokens where
  user : User
  accessToken : String
  refreshToken : String

/-- The answer to a sign-in. Without tokens it waits for a further step. -/
structure LoginResult where
  user : User
  accessToken : String := ""
  refreshToken : String := ""
  expiresIn : Int := 0
  totpRequired : Bool := false
  loginChallengeID : String := ""

namespace AuthService
variable (p : Platform) (s : AuthService)

/-- The answer of a sign-in that is complete. -/
def signedIn (issued : IssuedTokens) : LoginResult :=
  { user := issued.user
    accessToken := issued.accessToken
    refreshToken := issued.refreshToken
    expiresIn := s.jwtExpirySeconds }

/-- An account merged into this one gives up the canonical spelling it still holds. -/
def freeCanonicalEmail (user : User) (holder : Option User) (now : Int) : ServiceCall Unit :=
  match holder with
  | none => pure ()
  | some holder =>
    if holder.id = user.id then pure ()
    else if holder.mergedIntoUserID ≠ user.id then
      throw (.text "another account holds the canonical form of this account's email")
    else
      updateUser holder.id (fields [("email", .str ""), ("email_verified", .bool false),
        ("email_verified_at", .int 0), ("updated_at", .int now)])

/-- Move the stored address to its canonical spelling where that is provably the same
    mailbox. -/
def storeCanonicalEmail (user : User) (now : Int) : ServiceCall User :=
  if user.id = "" ∨ user.email = "" ∨ s.canonicalize user.email = user.email then pure user
  else do
    let canonical ← check (s.canonicalRewriteTarget user.email)
    let holder ← findUserByEmail canonical
    freeCanonicalEmail user holder now
    updateUser user.id (fields [("email", .str canonical), ("updated_at", .int now)])
    return { user with email := canonical }

/-- Never a reason to refuse the token. -/
def ensureCanonicalEmail (user : User) : ServiceCall User := do
  let now ← nowMs
  match ← (s.storeCanonicalEmail user now).attempt with
  | .error _ => return user
  | .ok user => return user

/-- The walk over the candidate addresses: the first one nobody else holds. -/
def assignFirstAddress (user : User) : List String → ServiceCall User
  | [] => pure user
  | candidate :: rest => do
    match ← (assignAccountAddress user.id candidate).attempt with
    | .ok held => return { user with accountAddress := held }
    | .error err => if err.is .alreadyExists then assignFirstAddress user rest else return user

def ensureAccountAddress (user : User) : ServiceCall User :=
  if user.id = "" ∨ user.accountAddress ≠ "" then pure user
  else assignFirstAddress user (s.addressCandidates user)

/-- Release the address that spells the old identifier and issue the next one. -/
def reissueAccountAddress (u : User) : ServiceCall Unit :=
  if u.accountAddress = "" ∨ s.accountDomain = "" then pure ()
  else do
    match ← (updateUser u.id (fields [("account_address", .str "")])).attempt with
    | .error _ => return
    | .ok _ =>
      let _ ← s.ensureAccountAddress { u with accountAddress := "" }
      return

/-- A username account's address does not follow its email. -/
def reissueAddressAfterEmailChange (u : User) : ServiceCall Unit :=
  if u.username ≠ "" then pure () else s.reissueAccountAddress u

def accessTokenClaims (user : User) (authTimeMs : Int) : AccessClaims where
  sub := user.id
  email := user.email
  emailVerified := user.emailVerified
  name := user.name
  role := user.role
  tenant := s.tenantID
  project := s.projectID
  avatarURL := user.avatarURL
  anonymous := user.isAnonymous
  kind := if user.isAgent then .agent else .unset
  authTime := authTimeMs.tdiv 1000

/-- In session mode every pair of tokens has a session row of its own. -/
def openSession (user : User) (now : Int) : ServiceCall String :=
  if s.revocationModeSession then do
    let sid ← randText
    let _ ← createSession { sid := sid, userID := user.id, createdAtMs := now }
    return sid
  else pure ""

def checkStanding (user : User) : ServiceCall Unit :=
  if user.isAgent then s.checkAgentStanding user else pure ()

/-- Everything up to the stored refresh token: every gate is judged again before
    anything is written, and in session mode the session row comes first. -/
def prepareTokens (user : User) (client : ClientInfo) (sessionStartedAtMs authTimeMs : Int) (tenantID : String) :
    ServiceCall (IssuedTokens × RefreshTokenRecord) := do
  refuseIf (s.needsEmailVerification user) (.sentinel .emailVerificationRequired)
  let now ← nowMs
  let sessionStart := if sessionStartedAtMs ≤ 0 then now else sessionStartedAtMs
  s.checkStanding user
  check (s.enforceProductAgeGate user)
  check (s.enforceDOBRequired user authTimeMs)
  let user ← s.ensureCanonicalEmail user
  let user ← s.ensureAccountAddress user
  let claims := s.accessTokenClaims user authTimeMs
  let claims := if tenantID ≠ "" then { claims with tenant := tenantID } else claims
  let sid ← s.openSession user now
  let accessToken ← check (s.signAccessToken { claims with sid := sid })
  let rawRefresh ← randText
  return (⟨user, accessToken, rawRefresh⟩,
    { tokenHash := p.sha256Hex rawRefresh
      userID := user.id
      deviceInfo := s.friendlyDeviceName client.userAgent
      deviceName := s.friendlyDeviceName client.userAgent
      ipAddress := client.ipAddr
      userAgent := s.truncate client.userAgent 512
      expiresAt := now + s.refreshExpirySeconds * 1000
      createdAt := now
      lastUsedAt := now
      sessionStartedAt := sessionStart
      sid := sid })

/-- The one place tokens are minted. -/
def issueTokensWithSessionStart (user : User) (client : ClientInfo) (sessionStartedAtMs authTimeMs : Int)
    (tenantID : String) : ServiceCall IssuedTokens := do
  let prepared ← s.prepareTokens p user client sessionStartedAtMs authTimeMs tenantID
  let _ ← createRefreshToken prepared.2
  return prepared.1

/-- Best effort. -/
def updateLastLogin (userID : String) : ServiceCall Unit := do
  let now ← nowMs
  let _ ← (updateUser userID (fields [("last_login_at", .int now), ("updated_at", .int now)])).attempt
  return

/-- The tokens of an interactive sign-in: an agent has none, and a pending deletion is
    called off. -/
def issueSignInTokens (user : User) (client : ClientInfo) (sessionStartedAtMs authTimeMs : Int) :
    ServiceCall IssuedTokens := do
  refuseIf user.isAgent (.sentinel .agentSignIn)
  check (s.enforceVerifiedEmail user)
  let user ← cancelPendingDeletionOnLogin user
  let issued ← s.issueTokensWithSessionStart p user client sessionStartedAtMs authTimeMs ""
  updateLastLogin issued.user.id
  return issued

def issueTokens (user : User) (client : ClientInfo) : ServiceCall IssuedTokens := do
  let now ← nowMs
  s.issueSignInTokens p user client now now

end AuthService

def deleteRefreshTokensForUser (userID : String) : ServiceCall Unit :=
  Routine.ask (Request.session (.deleteRefreshTokensForUser userID))

def revokeSessionsForUser (userID : String) (atMs : Int) : ServiceCall Unit :=
  Routine.ask (Request.session (.revokeSessionsForUser userID atMs))

def listOwnedAgents (ownerID : String) : ServiceCall (List User) :=
  Routine.ask (Request.user (.listOwnedAgents ownerID))

/-- End a user's sessions, whatever the revocation mode. -/
def revokeAllUserSessions (userID : String) (now : Int) : ServiceCall Unit := do
  deleteRefreshTokensForUser userID
  revokeSessionsForUser userID now

/-- The configuration of a user's own settings. -/
structure ProfileService where
  passwords : PasswordRules

def sampleHash : String := "$2b$04$abcdefghijklmnopqrstuu.JONJATdplCeMiKoL9iBkuc6nPvSJLa"

/-- The two passwords of the samples, which the strength check admits, with a hash of each. -/
def sampleBcrypt (password : String) : Except Err String :=
  if password = "First-Passw0rd!" then .ok sampleHash
  else if password = "Second-Passw0rd!" then .ok "$2b$04$bcdefghijklmnopqrstuveIfb8sKrUp0E7Feia3wvug0QKP3aBaE."
  else .error (.text "weak password")

def samplePasswords : PasswordRules where
  verify password hash := (sampleBcrypt password).toOption == some hash
  hash password _ := sampleBcrypt password
  validateStrength password := sampleBcrypt password *> .ok ()
  validateStrengthForEmail _ password := sampleBcrypt password *> .ok ()

/-- A project with no access or age rules, in session mode. -/
def sampleAuth : AuthService where
  revocationModeSession := true
  requireVerifiedEmail := false
  idvRequired := false
  refreshExpirySeconds := 600
  jwtExpirySeconds := 60
  tenantID := "tenant-1"
  projectID := "project-1"
  enforceProjectAccessLogin _ := .ok ()
  canonicalize email := email
  usernameAccountsAdmitted := none
  enforceProductAgeGate _ := .ok ()
  ageGateRequireDOB := false
  mintDOBCompletionTicket _ _ := .ok "ticket"
  canonicalRewriteTarget email := .ok email
  addressCandidates _ := []
  friendlyDeviceName agent := agent
  truncate text _ := text
  signAccessToken _ := .ok "access-token"
  passwords := samplePasswords
  ageGate := {
    enabled := true
    determine := fun _ dobMs _ => if dobMs ≤ 0 then .unknown else if dobMs < 100 then .adult else .child
    resolvedMarketFor := fun user => user.market
    normalizeJurisdictionCode := fun code => code
    validateAccountMarket := fun _ => .ok ()
    implausiblyOld := fun _ _ => false }
  guardianStepUpAllowNoPassword := false
  verifyPurposeTicket _ ticket := .ok { sub := ticket, authTime := 1 }
  signPurposeTicket _ _ := .ok "ticket"
  emailThrottleAllows _ := true
  emailTokenExpiryMs := 600
  normalizeUsername username := username
  validateUsernameShape _ := .ok ()
  validateUsernameFormat _ := .ok ()
  blocksChildData _ := false
  toASCII domain := some domain
  login := {
    authAllowLocal := true
    passwordSignupEnabled := true
    loginMaxFailedAttempts := 1
    loginLockoutSeconds := 1
    loginChallengeExpirySeconds := 600
    validateEmailFormat := fun addr =>
      if addr = "a@b.com" ∨ addr = "c@d.com" then .ok () else .error (.text "invalid email")
    enforceProjectAccessSignup := fun _ => .ok ()
    enforceLoginPolicy := fun _ _ => .ok false
    verifyTotpCode := fun _ _ => false
    hashRecoveryCode := fun code => "hash of " ++ code
    accountMergeEnabled := true
    recentlyAuthenticated := fun _ _ => true
    enforceEmailSelfSignup := .ok () }
  accountDomain := ""
  refresh := {
    enforceSessionTimeout := fun _ _ _ _ => .ok ()
    anonymousEnabled := false
    checkTenantSelection := fun _ _ _ => .ok () }
  relyingParty := .ok fun credentialJSON _ => .ok { credentialID := credentialJSON }

end identity.service
