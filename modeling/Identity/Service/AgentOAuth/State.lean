import Identity.Service.OAuthClient
import Identity.Service.User

namespace identity.service

/-- One access-token session. `revokedAtMs` is 0 while it is active. -/
structure SessionRecord where
  nodeID : String := ""
  sid : String
  userID : String
  createdAtMs : Int
  revokedAtMs : Int := 0
deriving DecidableEq

/-- A stored refresh token. `sid` links it to the session minted with it and
    `sessionStartedAt` is copied unchanged across rotations. -/
structure RefreshTokenRecord where
  nodeID : String := ""
  tokenHash : String
  userID : String
  deviceInfo : String := ""
  deviceName : String := ""
  ipAddress : String := ""
  userAgent : String := ""
  expiresAt : Int
  createdAt : Int
  lastUsedAt : Int
  sessionStartedAt : Int
  consumedAtMs : Int := 0
  sid : String
deriving DecidableEq

structure QrLoginSessionRecord where
  nodeID : String := ""
  sessionID : String
  status : String
  userID : String := ""
  newDeviceInfo : String := ""
  newDeviceIP : String := ""
  newDeviceUserAgent : String := ""
  approvedDeviceInfo : String := ""
  pollSecretHash : String
  expiresAt : Int
  createdAt : Int
  updatedAt : Int
deriving DecidableEq

/-- A one-time code. An emailed sign-in code is held by its address and a texted
    verification code by its user, at most one at a time; only the latter carries a
    phone number. -/
structure OneTimeCodeRecord where
  nodeID : String := ""
  holder : String
  phoneNumber : String := ""
  codeHash : String
  expiresAt : Int
  createdAt : Int
  consumedAt : Int := 0
  attemptCount : Int := 0
  maxAttempts : Int
deriving DecidableEq

structure InvitationRecord where
  nodeID : String := ""
  tokenHash : String
  email : String
  userID : String
  invitedBy : String
  role : String
  expiresAt : Int
  acceptedAt : Int := 0
  createdAt : Int
deriving DecidableEq

structure OAuthIdentity where
  nodeID : String := ""
  userID : String
  provider : String
  providerUserID : String
  emailAtLinkTime : String := ""
  createdAt : Int
deriving DecidableEq

structure GuardianEdge where
  projectID : String := ""
  guardianUserID : String
  childUserID : String
  createdAtMs : Int
deriving DecidableEq

/-- One adult's consent for one child. `revokedAt` is 0 while it stands. -/
structure ParentalConsentRecord where
  consentID : String
  projectID : String := ""
  childUserID : String
  consentingUserID : String
  policyVersion : String := ""
  factors : String := ""
  steppedUp : Bool := false
  consentIP : String := ""
  consentUserAgent : String := ""
  grantedAt : Int
  market : String := ""
  revokedAt : Int := 0
  revokedByUserID : String := ""
deriving DecidableEq

/-- A registered passkey. -/
structure PasskeyCredRecord where
  nodeID : String := ""
  credentialID : String
  userID : String
  publicKey : String := ""
  signCount : Int := 0
  deviceName : String := ""
  aaguid : String := ""
  transports : String := ""
  backupEligible : Bool := false
  backupState : Bool := false
  createdAt : Int
  lastUsedAt : Int := 0
deriving DecidableEq

/-- A challenge a passkey answers. Only a sign-up's carries an address. -/
structure PasskeyChallengeRecord where
  nodeID : String := ""
  challenge : String
  userID : String
  challengeType : String
  email : String := ""
  expiresAt : Int
  createdAt : Int
deriving DecidableEq

structure TotpCredRecord where
  nodeID : String := ""
  userID : String
  secretEncrypted : String
  verified : Bool := false
  createdAt : Int
  lastUsedAt : Int := 0
deriving DecidableEq

structure RecoveryCodeRecord where
  nodeID : String := ""
  userID : String
  codeHash : String
  used : Bool := false
  createdAt : Int
  usedAt : Int := 0
deriving DecidableEq

/-- A sign-in that waits for its second factor. -/
structure LoginChallengeRecord where
  nodeID : String := ""
  challengeID : String
  userID : String
  expiresAt : Int
  createdAt : Int
deriving DecidableEq

/-- A token mailed to a user: it resets a password, verifies an address, or moves the
    account to a new one. Only the last kind carries `newEmail`; its `email` is the
    address the account had when the change was asked for. -/
structure EmailTokenRecord where
  nodeID : String := ""
  tokenHash : String
  userID : String
  email : String
  newEmail : String := ""
  expiresAt : Int
  createdAt : Int
  consumedAt : Int := 0
deriving DecidableEq

structure MagicLinkTokenRecord where
  nodeID : String := ""
  tokenHash : String
  email : String
  returnTo : String := ""
  expiresAt : Int
  createdAt : Int
  consumedAt : Int := 0
deriving DecidableEq

/-- A row of a table that the modelled code only ever drains when its user is
    deleted: OAuth one-time codes and identity checks. -/
structure UserOwnedRecord where
  nodeID : String := ""
  userID : String
deriving DecidableEq

/-- Owner-authorised orchestration access. `registrationSID` is kept for audit
    only; a machine does not depend on the session that registered it. -/
structure AgentMachine where
  id : String
  ownerID : String
  clientID : String
  clientRevision : Int
  resource : String
  product : String
  scopes : List String
  displayName : String
  publicKey : String
  registrationSID : String
  allAgents : Bool
  agentIDs : List String
  excludedAgentIDs : List String
  createdAtMs : Int
  revision : Int
  revokedAtMs : Int
deriving DecidableEq

inductive AgentMachineOperation where
  | select
  | revoke
  | other (text : String)
deriving DecidableEq

structure AgentMachineMutation where
  operation : AgentMachineOperation
  ownerID : String
  atMs : Int
  expectedRevision : Int := 0
  allAgents : Bool := false
  agentIDs : List String := []
  excludedAgentIDs : List String := []

/-- A single-use proof-of-possession challenge. -/
structure AgentMachineChallenge where
  id : String
  machineID : String
  agentID : String
  operation : String
  binding : String
  publicKey : String
  message : String
  createdAtMs : Int
  expiresAtMs : Int
deriving DecidableEq

def maxAgentMachineSelection : Nat := 1000
def maxAgentMachineChallenges : Nat := 128
def agentMachineChallengeLifetimeMs : Int := 60000

def AgentMachine.allows (m : AgentMachine) (agent : String) : Bool :=
  m.revokedAtMs == 0 && agent != "" && !m.excludedAgentIDs.contains agent &&
    (m.allAgents || m.agentIDs.contains agent)

/-- Lower-case hex of the 32 bytes of an Ed25519 public key. -/
def validMachinePublicKey (value : String) : Bool :=
  value.toList.length == 64 &&
    value.toList.all fun r => ('0' ≤ r && r ≤ '9') || ('a' ≤ r && r ≤ 'f')

def validMachineSelection (all : Bool) (ids excluded : List String) : Bool :=
  !(ids.length > maxAgentMachineSelection || excluded.length > maxAgentMachineSelection ||
      (all && ids.length != 0)) &&
    [ids, excluded].all (fun values => values.all validOAuthClientID && decide values.Nodup) &&
    ids.all fun id => !excluded.contains id

def validateAgentMachine (m : AgentMachine) : Except Err Unit := do
  if !validOAuthClientID m.id || !validOAuthClientID m.ownerID || !validOAuthClientID m.clientID ||
      m.clientRevision < 1 || m.registrationSID == "" || !validOAuthClientName m.displayName ||
      m.createdAtMs ≤ 0 || m.revision != 1 || m.revokedAtMs != 0 ||
      !boundedOAuthStrings m.scopes maxOAuthScopes ||
      !validMachineSelection m.allAgents m.agentIDs m.excludedAgentIDs then
    throw (.sentinel .invalidArgument)
  if !validMachinePublicKey m.publicKey then
    throw (.sentinel .invalidArgument)

def applyAgentMachineMutation (current : Option AgentMachine) (mutation : AgentMachineMutation) :
    Except Err AgentMachine :=
  match current with
  | none => .error (.sentinel .permissionDenied)
  | some current =>
    if mutation.ownerID == "" || mutation.ownerID != current.ownerID then
      .error (.sentinel .permissionDenied)
    else if mutation.atMs ≤ 0 then
      .error (.sentinel .invalidArgument)
    else if mutation.operation = .revoke then
      if current.revokedAtMs = 0 then
        .ok { current with revokedAtMs := mutation.atMs, revision := current.revision + 1 }
      else .ok current
    else if mutation.operation ≠ .select ||
        !validMachineSelection mutation.allAgents mutation.agentIDs mutation.excludedAgentIDs then
      .error (.sentinel .invalidArgument)
    else if current.revokedAtMs ≠ 0 then
      .error (.sentinel .agentOAuthGrant)
    else if mutation.expectedRevision ≠ current.revision then
      .error (.sentinel .agentOAuthRevision)
    else
      .ok { current with
        allAgents := mutation.allAgents
        agentIDs := mutation.agentIDs
        excludedAgentIDs := mutation.excludedAgentIDs
        revision := current.revision + 1 }

/-- The same registration request, whatever session made it and when. -/
def sameAgentMachineRegistration (a b : AgentMachine) : Bool :=
  decide ({ a with createdAtMs := 0, registrationSID := "" } =
    { b with createdAtMs := 0, registrationSID := "" })

def validAgentMachineChallenge (c : AgentMachineChallenge) : Bool :=
  validOAuthClientID c.id && validOAuthClientID c.machineID && validMachinePublicKey c.publicKey &&
    strings.len c.binding == 64 && strings.len c.message > 0 && strings.len c.message ≤ 4096 &&
    c.createdAtMs > 0 && c.expiresAtMs > c.createdAtMs &&
    c.expiresAtMs - c.createdAtMs ≤ agentMachineChallengeLifetimeMs

inductive AgentAuthorizationDecision where
  | pending
  | approved
  | denied
  | other (text : String)
deriving DecidableEq

inductive AgentOAuthOperation where
  | approve
  | deny
  | redeem
  | rotate
  | revoke
  | validate
  | other (text : String)
deriving DecidableEq

/-- The durable aggregate a consent decision owns. Only hashes of codes and
    refresh credentials are stored. `machineID` is empty unless a machine issued
    the grant, and `revokedAtMs` is 0 until the grant is revoked. -/
structure AgentAuthorization where
  id : String
  machineID : String := ""
  machinePublicKey : String := ""
  clientID : String
  clientRevision : Int
  redirectURI : String := ""
  state : String := ""
  resource : String
  product : String := ""
  scopes : List String
  challenge : String := ""
  createdAtMs : Int
  expiresAtMs : Int := 0
  revision : Int := 1
  decision : AgentAuthorizationDecision
  ownerID : String := ""
  agentID : String := ""
  humanSID : String := ""
  consentAtMs : Int := 0
  grantExpiresAtMs : Int := 0
  codeHash : String := ""
  codeExpiresAtMs : Int := 0
  codeUsedAtMs : Int := 0
  sessionID : String := ""
  revokedAtMs : Int := 0
deriving DecidableEq

/-- The rows a grant rests on, re-read under the store's lock. -/
structure AgentOAuthAuthority where
  owner : Option User := none
  agent : Option User := none
  humanSession : Option SessionRecord := none
  client : Option OAuthClient := none
  hasGuardian : Bool := false
  machine : Option AgentMachine := none

structure AgentOAuthUserAuthority where
  id : String
  kind : UserKind
  ownerID : String
  status : String
  mergedID : String
  email : String
  username : String
  role : String
  passwordHash : String
  market : String
  anonymous : Bool
  emailVerified : Bool
  idvVerified : Bool
  passwordChangeRequired : Bool
  dob : Int
deriving DecidableEq

def agentOAuthUserSnapshot (u : User) : AgentOAuthUserAuthority where
  id := u.id
  kind := u.kind
  ownerID := u.ownerUserID
  status := u.status
  mergedID := u.mergedIntoUserID
  email := u.email
  username := u.username
  role := u.role
  passwordHash := u.passwordHash
  market := u.market
  anonymous := u.isAnonymous
  emailVerified := u.emailVerified
  idvVerified := u.idvVerified
  passwordChangeRequired := u.passwordChangeRequired
  dob := u.dateOfBirthMs

structure AgentOAuthSnapshot where
  owner : Option AgentOAuthUserAuthority
  agent : Option AgentOAuthUserAuthority
  session : Option SessionRecord
  client : Option OAuthClient
  hasGuardian : Bool
  machine : Option AgentMachine
deriving DecidableEq

/-- The parts of the Go runtime whose code is not the repository's: URL parsing,
    SHA-256 in lower-case hex, and the JSON encoding of an authority snapshot.
    No result below assumes anything of them. -/
structure Platform where
  parseURL : String → Option Url
  sha256Hex : String → String
  marshalAuthority : AgentOAuthSnapshot → String

/-- Admission is bound to the exact rows it was decided on. -/
def AgentOAuthAuthority.fingerprint (p : Platform) (a : AgentOAuthAuthority) : String :=
  p.sha256Hex (p.marshalAuthority
    { owner := a.owner.map agentOAuthUserSnapshot
      agent := a.agent.map agentOAuthUserSnapshot
      session := a.humanSession
      client := a.client
      hasGuardian := a.hasGuardian
      machine := a.machine })

/-- The product the client binds to a resource, taken from its first entry for it. -/
def OAuthClient.boundProduct (c : OAuthClient) (resource : String) : String :=
  match c.registration.resources.find? fun bound => bound.resource == resource with
  | some bound => bound.product
  | none => ""

def AgentOAuthAuthority.validMachine (p : Platform) (a : AgentOAuthAuthority) (m : AgentMachine) : Bool :=
  match a.client with
  | none => false
  | some client =>
    client.boundProduct m.resource != "" && client.boundProduct m.resource == m.product &&
      m.revokedAtMs == 0 && a.owner.any isEligibleAgentOwner &&
      a.owner.any (fun owner => owner.id == m.ownerID) &&
      client.id == m.clientID && client.revision == m.clientRevision &&
      (client.validateMachineRequest p.parseURL m.resource m.scopes).isOk

def AgentOAuthAuthority.validMachineRegistration (p : Platform) (a : AgentOAuthAuthority)
    (m : AgentMachine) : Bool :=
  a.validMachine p m && a.humanSession.any fun session =>
    session.sid == m.registrationSID && session.userID == m.ownerID && session.revokedAtMs == 0

/-- A machine's child rests on the machine and the agent, not on a session. -/
def AgentOAuthAuthority.validChild (p : Platform) (a : AgentOAuthAuthority) (r : AgentAuthorization) : Bool :=
  a.machine.any fun machine =>
    a.validMachine p machine && machine.id == r.machineID &&
      validMachinePublicKey r.machinePublicKey && r.machinePublicKey != machine.publicKey &&
      machine.allows r.agentID &&
      a.agent.any (fun agent => agent.isAgent && isActiveStatus agent.status &&
        agent.ownerUserID == r.ownerID && agent.id == r.agentID) &&
      machine.ownerID == r.ownerID && r.clientID == machine.clientID &&
      r.clientRevision == machine.clientRevision && r.resource == machine.resource &&
      r.product == machine.product && r.scopes == machine.scopes && r.humanSID == "" &&
      r.grantExpiresAtMs == 0

/-- A consented grant rests on its owner, agent, session and client. -/
def AgentOAuthAuthority.validConsented (p : Platform) (a : AgentOAuthAuthority)
    (r : AgentAuthorization) : Bool :=
  a.owner.any fun owner => isEligibleAgentOwner owner &&
    a.agent.any (fun agent => agent.isAgent && isActiveStatus agent.status &&
      agent.ownerUserID == owner.id && owner.id == r.ownerID && agent.id == r.agentID) &&
    a.humanSession.any (fun session => session.sid == r.humanSID && session.userID == r.ownerID &&
      session.revokedAtMs == 0) &&
    a.client.any fun client => client.id == r.clientID && client.revision == r.clientRevision &&
      (client.validateOAuthRequest p.parseURL r.redirectURI r.resource r.scopes
        oauthGrantAuthorizationCode).isOk

def AgentOAuthAuthority.valid (p : Platform) (a : AgentOAuthAuthority) (r : AgentAuthorization) : Bool :=
  if r.machineID ≠ "" then a.validChild p r else a.validConsented p r

structure AgentOAuthMutation where
  operation : AgentOAuthOperation
  atMs : Int
  expectedRevision : Int := 0
  authorityFingerprint : String := ""
  ownerID : String := ""
  agentID : String := ""
  humanSID : String := ""
  grantExpiresAtMs : Int := 0
  codeHash : String := ""
  codeExpiresAtMs : Int := 0
  sessionID : String := ""
  refreshHash : String := ""
  nextRefreshHash : String := ""
  refreshExpiresAtMs : Int := 0

structure AgentOAuthRefresh where
  hash : String
  authorizationID : String
  expiresAtMs : Int
  consumedAtMs : Int := 0
deriving DecidableEq

def validS256Challenge (challenge : String) : Bool :=
  strings.len challenge == 43 && challenge.toList.all fun r =>
    ('a' ≤ r && r ≤ 'z') || ('A' ≤ r && r ≤ 'Z') || ('0' ≤ r && r ≤ '9') || r == '-' || r == '_'

def validateAgentAuthorization (r : AgentAuthorization) : Except Err Unit :=
  if !validOAuthClientID r.id || !validOAuthClientID r.clientID || r.clientRevision ≤ 0 ||
      r.revision != 1 || r.decision != .pending || r.createdAtMs ≤ 0 || r.expiresAtMs ≤ r.createdAtMs ||
      r.machineID != "" || r.machinePublicKey != "" || r.ownerID != "" || r.agentID != "" ||
      r.humanSID != "" || r.codeHash != "" || r.sessionID != "" || r.grantExpiresAtMs != 0 ||
      r.revokedAtMs != 0 || !boundedOAuthStrings r.scopes maxOAuthScopes ||
      !validS256Challenge r.challenge then
    .error (.sentinel .invalidArgument)
  else .ok ()

/-- Equality of two hex digests of SHA-256 length. -/
def hashEqual (left right : String) : Bool := strings.len left == 64 && left == right

def validAgentOAuthRefresh (m : AgentOAuthMutation) (grant : AgentAuthorization) : Bool :=
  strings.len m.nextRefreshHash == 64 && m.refreshExpiresAtMs > m.atMs &&
    m.refreshExpiresAtMs ≤ grant.grantExpiresAtMs

/-- What a mutation decides. `replayed` is the one refusal whose new aggregate the
    store still commits. -/
inductive AgentOAuthOutcome where
  | refused (err : Err)
  | applied (next : AgentAuthorization)
  | replayed (next : AgentAuthorization) (err : Err)

def applyAgentOAuthConsent (p : Platform) (current : AgentAuthorization) (authority : AgentOAuthAuthority)
    (m : AgentOAuthMutation) : AgentOAuthOutcome :=
  if current.decision ≠ .pending || current.expiresAtMs ≤ m.atMs || current.revision ≠ m.expectedRevision then
    .refused (.sentinel .agentOAuthRevision)
  else if m.operation = .deny then
    if !authority.owner.any isEligibleAgentOwner || !authority.owner.any (fun owner => owner.id == m.ownerID) ||
        !authority.humanSession.any (fun session => session.userID == m.ownerID &&
          session.sid == m.humanSID && session.revokedAtMs == 0) ||
        authority.fingerprint p != m.authorityFingerprint then
      .refused (.sentinel .permissionDenied)
    else
      .applied { current with
        ownerID := m.ownerID
        humanSID := m.humanSID
        decision := .denied
        revision := current.revision + 1 }
  else
    let next := { current with ownerID := m.ownerID, agentID := m.agentID, humanSID := m.humanSID }
    if !authority.valid p next || authority.fingerprint p != m.authorityFingerprint ||
        m.grantExpiresAtMs ≤ m.atMs || m.codeExpiresAtMs ≤ m.atMs ||
        m.codeExpiresAtMs > next.expiresAtMs || strings.len m.codeHash != 64 then
      .refused (.sentinel .permissionDenied)
    else
      .applied { next with
        decision := .approved
        consentAtMs := m.atMs
        grantExpiresAtMs := m.grantExpiresAtMs
        codeHash := m.codeHash
        codeExpiresAtMs := m.codeExpiresAtMs
        revision := next.revision + 1 }

def applyAgentOAuthRedeem (current : AgentAuthorization) (authority : AgentOAuthAuthority)
    (m : AgentOAuthMutation) : AgentOAuthOutcome :=
  if current.codeUsedAtMs ≠ 0 || current.codeExpiresAtMs ≤ m.atMs ||
      !hashEqual current.codeHash m.codeHash || !validOAuthClientID m.sessionID then
    .refused (.sentinel .agentOAuthGrant)
  else if m.nextRefreshHash != "" &&
      (!authority.client.any (fun client => client.registration.grantTypes.contains oauthGrantRefreshToken) ||
        !validAgentOAuthRefresh m current) then
    .refused (.sentinel .agentOAuthGrant)
  else
    .applied { current with
      codeUsedAtMs := m.atMs
      sessionID := m.sessionID
      revision := current.revision + 1 }

def applyAgentOAuthRotate (current : AgentAuthorization) (refresh : Option AgentOAuthRefresh)
    (m : AgentOAuthMutation) : AgentOAuthOutcome :=
  match refresh with
  | none => .refused (.sentinel .agentOAuthGrant)
  | some refresh =>
    if !hashEqual refresh.hash m.refreshHash || refresh.authorizationID ≠ current.id then
      .refused (.sentinel .agentOAuthGrant)
    else if refresh.consumedAtMs ≠ 0 then
      .replayed { current with revokedAtMs := m.atMs, revision := current.revision + 1 }
        (.sentinel .agentOAuthGrant)
    else if refresh.expiresAtMs ≤ m.atMs || current.sessionID == "" || !validAgentOAuthRefresh m current then
      .refused (.sentinel .agentOAuthGrant)
    else
      .applied { current with revision := current.revision + 1 }

/-- The pure transition of one grant under the authority it currently has. -/
def applyAgentOAuthMutation (p : Platform) (current : AgentAuthorization) (authority : AgentOAuthAuthority)
    (refresh : Option AgentOAuthRefresh) (m : AgentOAuthMutation) : AgentOAuthOutcome :=
  if m.atMs ≤ 0 then
    .refused (.sentinel .agentOAuthGrant)
  else if m.operation = .revoke then
    if m.ownerID == "" || m.ownerID ≠ current.ownerID then
      .refused (.sentinel .permissionDenied)
    else if current.revokedAtMs = 0 then
      .applied { current with revokedAtMs := m.atMs, revision := current.revision + 1 }
    else .applied current
  else if current.revokedAtMs ≠ 0 then
    .refused (.sentinel .agentOAuthGrant)
  else if m.operation = .approve || m.operation = .deny then
    applyAgentOAuthConsent p current authority m
  else if current.decision ≠ .approved || (current.machineID == "" && current.grantExpiresAtMs ≤ m.atMs) ||
      !authority.valid p current || authority.fingerprint p != m.authorityFingerprint then
    .refused (.sentinel .agentOAuthGrant)
  else if current.machineID != "" && m.operation ≠ .validate then
    .refused (.sentinel .agentOAuthGrant)
  else
    match m.operation with
    | .validate => .applied current
    | .redeem => applyAgentOAuthRedeem current authority m
    | .rotate => applyAgentOAuthRotate current refresh m
    | _ => .refused (.sentinel .invalidArgument)

/-- Whether a change of a user row takes away what the grants of that user were
    admitted on. -/
def agentOAuthAuthorityLost (before after : Option User) : Bool :=
  match before, after with
  | none, _ => false
  | some _, none => true
  | some before, some after =>
    before.ownerUserID != after.ownerUserID || before.kind != after.kind ||
      before.status != after.status || before.isAnonymous != after.isAnonymous ||
      before.mergedIntoUserID != after.mergedIntoUserID || before.passwordHash != after.passwordHash ||
      before.passwordChangeRequired != after.passwordChangeRequired || before.email != after.email ||
      before.emailVerified != after.emailVerified || before.idvVerified != after.idvVerified ||
      before.dateOfBirthMs != after.dateOfBirthMs || before.market != after.market ||
      before.role != after.role

lemma authority_kept_self (u : User) : agentOAuthAuthorityLost (some u) (some u) = false := by
  simp [agentOAuthAuthorityLost]

def validateMachineDelegation (p : Platform) (machine : AgentMachine) (authority : AgentOAuthAuthority)
    (grant : AgentAuthorization) (enginePublicKey fingerprint : String) : Except Err Unit :=
  if !authority.validMachine p machine || machine.publicKey != enginePublicKey ||
      authority.fingerprint p != fingerprint || !validOAuthClientID grant.id ||
      !validOAuthClientID grant.sessionID || grant.machineID != machine.id ||
      !validMachinePublicKey grant.machinePublicKey || grant.machinePublicKey == machine.publicKey ||
      grant.ownerID != machine.ownerID || grant.clientID != machine.clientID ||
      grant.clientRevision != machine.clientRevision || grant.resource != machine.resource ||
      grant.product != machine.product || grant.scopes != machine.scopes ||
      !machine.allows grant.agentID || !authority.valid p grant || grant.revision != 1 ||
      grant.decision != .approved || grant.createdAtMs ≤ 0 || grant.consentAtMs != grant.createdAtMs ||
      grant.grantExpiresAtMs != 0 || grant.expiresAtMs != 0 || grant.revokedAtMs != 0 ||
      grant.humanSID != "" || grant.codeHash != "" || grant.redirectURI != "" || grant.challenge != "" then
    .error (.sentinel .agentOAuthGrant)
  else .ok ()

end identity.service
