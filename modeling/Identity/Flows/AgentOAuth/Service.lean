import Identity.Flows.Basic

open identity.repository identity.memory
namespace identity.service
variable {id : String}

structure AgentOAuthHuman where
  userID : String
  sid : String
  authTime : Int

/-- The claims of a delegated access token. -/
structure DelegatedAccessClaims where
  sub : String
  kind : UserKind := .agent
  actor : String
  issuer : String
  project : String
  audience : List String
  clientID : String
  scope : String
  grantID : String
  sid : String
  issuedAt : Int
  expiresAt : Int
  jwtID : String
  isMinor : Bool

/-- A signed token carries its claims in the clear. -/
structure DelegatedToken where
  claims : DelegatedAccessClaims
  signature : String

structure AgentOAuthTokens where
  accessToken : DelegatedToken
  refreshToken : String
  expiresIn : Int
  scope : String

/-- What a resource learns about a token; only `active` is set for a dead one. -/
structure AgentOAuthIntrospection where
  active : Bool := false
  subject : String := ""
  kind : UserKind := .unset
  actor : String := ""
  issuer : String := ""
  project : String := ""
  audience : List String := []
  clientID : String := ""
  scope : String := ""
  grantID : String := ""
  sid : String := ""
  issuedAt : Int := 0
  expiresAt : Int := 0
  isMinor : Bool := false

/-- The session limits of the policy that governs an address. -/
structure SessionPolicy where
  sessionAbsoluteTimeoutSeconds : Int
  sessionIdleTimeoutSeconds : Int

def agentOAuthCodeLifetimeMs : Int := 60000
def agentOAuthRecentSignInSeconds : Int := 300
def authTimeClockSkewSeconds : Int := 30

/-- The service's configuration and collaborators as one call finds them: project
    access and age rules, the governance plane, the signer and URL building. -/
structure AgentOAuthService where
  jwtIssuer : String
  projectID : String
  resources : List String
  machineEnabled : Bool
  accessSeconds : Int
  refreshIdleSeconds : Int
  consentSeconds : Int
  refreshExpirySeconds : Int
  requireVerifiedEmail : Bool
  idvRequired : Bool
  ageGateRequireDOB : Bool
  enforceAccountAccessLogin : String → User → Except Err Unit
  enforceProductAgeGate : String → User → Except Err Unit
  isMinor : String → User → Bool
  resolvePolicy : String → Except Err (Option SessionPolicy)
  signDelegatedAccessToken : DelegatedAccessClaims → Except Err String
  verifyDelegatedAccessToken : String → String → Option DelegatedAccessClaims
  s256 : String → String
  withQuery : String → List (String × String) → Except Err String

def getAgentAuthorization (id : String) : ServiceCall (Option AgentAuthorization) :=
  Routine.ask (Request.agent (.getAgentAuthorization id))

def findAgentAuthorizationByCode (hash : String) : ServiceCall (Option AgentAuthorization) :=
  Routine.ask (Request.agent (.findAgentAuthorizationByCode hash))

def findAgentAuthorizationByRefresh (hash : String) : ServiceCall (Option AgentAuthorization) :=
  Routine.ask (Request.agent (.findAgentAuthorizationByRefresh hash))

def agentOAuthAuthority (ownerID agentID sid clientID : String) : ServiceCall AgentOAuthAuthority :=
  Routine.ask (Request.agent (.agentOAuthAuthority ownerID agentID sid clientID))

def agentMachineAuthority (id agent : String) : ServiceCall AgentOAuthAuthority :=
  Routine.ask (Request.agent (.agentMachineAuthority id agent))

def mutateAgentAuthorization (id : String) (m : AgentOAuthMutation) : ServiceCall AgentAuthorization :=
  attemptRequest (.agent (.mutateAgentAuthorization id m)) fun answer => answer

def mutateAgentMachine (id : String) (m : AgentMachineMutation) : ServiceCall AgentMachine :=
  attemptRequest (.agent (.mutateAgentMachine id m)) fun answer => answer

section Keeps
variable {guard : Trace → Request → Prop}

lemma forall_answer {ok : Except Err α → α → Prop} {fails : Except Err α → Err → Prop} :
    (∀ answer, (∀ value, answer = .ok value → ok answer value) ∧ ∀ err, answer = .error err → fails answer err) ↔
      (∀ value, ok (.ok value) value) ∧ ∀ err, fails (.error err) err := by
  grind

variable {ok : Trace → AgentOAuthAuthority → Prop}

@[simp]
lemma keeps_agentOAuthAuthority : (agentOAuthAuthority ownerID agentID sid clientID).Keeps caller guard ok fails own ↔
      guard own (.agent (.agentOAuthAuthority ownerID agentID sid clientID)) ∧
        ∀ a : AgentOAuthAuthority,
          ok (⟨caller, .agent (.agentOAuthAuthority ownerID agentID sid clientID), a⟩ :: own) a := Iff.rfl

@[simp]
lemma keeps_agentMachineAuthority : (agentMachineAuthority id agent).Keeps caller guard ok fails own ↔
      guard own (.agent (.agentMachineAuthority id agent)) ∧
        ∀ a : AgentOAuthAuthority, ok (⟨caller, .agent (.agentMachineAuthority id agent), a⟩ :: own) a := Iff.rfl

@[simp]
lemma keeps_mutateAgentAuthorization {ok : Trace → AgentAuthorization → Prop} :
    (mutateAgentAuthorization id m).Keeps caller guard ok fails own ↔
      guard own (.agent (.mutateAgentAuthorization id m)) ∧
        (∀ next, ok (⟨caller, .agent (.mutateAgentAuthorization id m), .ok next⟩ :: own) next) ∧
        (∀ err, fails (⟨caller, .agent (.mutateAgentAuthorization id m), .error err⟩ :: own) err) :=
  keeps_attemptRequest.trans (and_congr_right fun _ => forall_answer)

@[simp]
lemma keeps_mutateAgentMachine {ok : Trace → AgentMachine → Prop} :
    (mutateAgentMachine id m).Keeps caller guard ok fails own ↔ guard own (.agent (.mutateAgentMachine id m)) ∧
        (∀ next, ok (⟨caller, .agent (.mutateAgentMachine id m), .ok next⟩ :: own) next) ∧
        (∀ err, fails (⟨caller, .agent (.mutateAgentMachine id m), .error err⟩ :: own) err) :=
  keeps_attemptRequest.trans (and_congr_right fun _ => forall_answer)

end Keeps

namespace AgentOAuthService
variable (p : Platform) (s : AgentOAuthService)

def resourceConfigured (resource : String) : Bool := s.resources.contains resource

/-- The signed-in person behind a management call, with a recent sign-in if asked. -/
def human (h : AgentOAuthHuman) (recent : Bool) : ServiceCall User := do
  if h.userID = "" ∨ h.sid = "" then throw (.sentinel .agentOAuthReauthenticationRequired)
  if recent then
    let now ← nowMs
    let age := now.tdiv 1000 - h.authTime
    if h.authTime ≤ 0 ∨ age < -authTimeClockSkewSeconds ∨ age > agentOAuthRecentSignInSeconds then
      throw (.sentinel .agentOAuthReauthenticationRequired)
  let user ← getUser h.userID
  if !user.any isEligibleAgentOwner then throw (.sentinel .permissionDenied)
  let session ← getSessionBySid h.sid
  if !session.any (fun row => row.userID == h.userID && row.revokedAtMs == 0) then
    throw (.sentinel .agentOAuthReauthenticationRequired)
  deref user

/-- The account and project rules under which an owner may delegate at all. -/
def admitOwner (user : Option User) (product : String) : Except Err Unit :=
  match user with
  | none => .error (.sentinel .permissionDenied)
  | some user =>
    if !isEligibleAgentOwner user then .error (.sentinel .permissionDenied)
    else if s.requireVerifiedEmail && user.email != "" && !user.emailVerified && !user.isAnonymous then
      .error (.sentinel .emailVerificationRequired)
    else if s.idvRequired && !user.idvVerified then .error (.sentinel .idvRequired)
    else if s.ageGateRequireDOB && user.dateOfBirthMs == 0 then .error (.sentinel .dobRequired)
    else do
      s.enforceAccountAccessLogin product user
      s.enforceProductAgeGate product user

/-- How long a grant of this session may live, seen from now. -/
def grantExpiry (user : User) (session : SessionRecord) : ServiceCall Int := do
  let now ← nowMs
  let expiry := min (now + s.consentSeconds * 1000) (session.createdAtMs + s.refreshExpirySeconds * 1000)
  let policy ← check (s.resolvePolicy user.email)
  match policy with
  | none => return expiry
  | some policy =>
    let expiry := if policy.sessionAbsoluteTimeoutSeconds > 0 then
        min expiry (session.createdAtMs + policy.sessionAbsoluteTimeoutSeconds * 1000)
      else expiry
    return if policy.sessionIdleTimeoutSeconds > 0 then
        min expiry (session.createdAtMs + policy.sessionIdleTimeoutSeconds * 1000)
      else expiry

/-- The consent decision of the signed-in person; answers where to send them. -/
def decide (h : AgentOAuthHuman) (id : String) (revision : Int) (approve : Bool) (agentID : String) :
    ServiceCall String := do
  if !validOAuthClientID id || revision < 1 || (approve && !validOAuthClientID agentID) then
    throw (.sentinel .invalidArgument)
  let _ ← human h true
  let request ← getAgentAuthorization id
  match request with
  | none => throw (.sentinel .agentOAuthGrant)
  | some request =>
    let agentID := if approve then agentID else ""
    let authority ← agentOAuthAuthority h.userID agentID h.sid request.clientID
    let now ← nowMs
    let m : AgentOAuthMutation :=
      { operation := .deny
        atMs := now
        expectedRevision := revision
        ownerID := h.userID
        agentID := agentID
        humanSID := h.sid
        authorityFingerprint := authority.fingerprint p }
    if approve then
      let candidate := { request with ownerID := h.userID, agentID := agentID, humanSID := h.sid }
      if !authority.valid p candidate then throw (.sentinel .permissionDenied)
      check (s.admitOwner authority.owner request.product)
      let code ← randText
      let owner ← deref authority.owner
      let session ← deref authority.humanSession
      let expiry ← s.grantExpiry owner session
      let decided ← mutateAgentAuthorization id
        { m with
          operation := .approve
          codeHash := p.sha256Hex code
          codeExpiresAtMs := min request.expiresAtMs (now + agentOAuthCodeLifetimeMs)
          grantExpiresAtMs := expiry }
      check (s.withQuery decided.redirectURI
        [("state", decided.state), ("iss", s.jwtIssuer), ("code", code)])
    else
      let decided ← mutateAgentAuthorization id m
      check (s.withQuery decided.redirectURI
        [("state", decided.state), ("iss", s.jwtIssuer), ("error", "access_denied")])

def validPKCEVerifier (verifier : String) : Bool :=
  43 ≤ strings.len verifier && strings.len verifier ≤ 128 && verifier.toList.all fun r =>
    ('a' ≤ r && r ≤ 'z') || ('A' ≤ r && r ≤ 'Z') || ('0' ≤ r && r ≤ '9') || "-._~".toList.contains r

def verifyAgentPKCE (verifier challenge : String) : Bool :=
  validPKCEVerifier verifier && validS256Challenge challenge && challenge == s.s256 verifier

def isAgentOAuthAdmissionRefusal (err : Err) : Bool :=
  err.is .permissionDenied || err.is .accountNotActive || err.is .emailVerificationRequired ||
    err.is .idvRequired || err.is .dobRequired || err.is .accessNotAllowed || err.is .productAgeRestricted

/-- Ends a grant whose authority is gone. -/
def invalidate {α : Type} (request : AgentAuthorization) : ServiceCall α := do
  let now ← nowMs
  let _ ← mutateAgentAuthorization request.id { operation := .revoke, ownerID := request.ownerID, atMs := now }
  throw (.sentinel .agentOAuthGrant)

/-- Ends a machine whose owner may no longer delegate. -/
def invalidateMachine {α : Type} (machine : Option AgentMachine) : ServiceCall α := do
  if !s.machineEnabled then throw (.sentinel .agentOAuthDisabled)
  let machine ← deref machine
  let now ← nowMs
  let _ ← mutateAgentMachine machine.id { operation := .revoke, ownerID := machine.ownerID, atMs := now }
  throw (.sentinel .agentOAuthGrant)

/-- The rows a grant rests on: its machine's, or those its consent named. -/
def readAuthority (request : AgentAuthorization) : ServiceCall AgentOAuthAuthority := do
  if request.machineID ≠ "" then
    if !s.machineEnabled then throw (.sentinel .agentOAuthDisabled)
    agentMachineAuthority request.machineID request.agentID
  else agentOAuthAuthority request.ownerID request.agentID request.humanSID request.clientID

/-- The owner's standing under the project's rules, once the grant's own rows are
    known to be valid. A refusal ends the grant or its machine. -/
def admitStanding (request : AgentAuthorization) (a : AgentOAuthAuthority) :
    ServiceCall (AgentOAuthAuthority × Int) :=
  match s.admitOwner a.owner request.product with
  | .error err =>
    if isAgentOAuthAdmissionRefusal err then
      if request.machineID ≠ "" then s.invalidateMachine a.machine else invalidate request
    else throw err
  | .ok () => do
    if request.machineID ≠ "" then
      if !s.resourceConfigured request.resource then s.invalidateMachine a.machine
      let now ← nowMs
      return (a, now + s.accessSeconds * 1000)
    else
      let owner ← deref a.owner
      let session ← deref a.humanSession
      let currentExpiry ← s.grantExpiry owner session
      if !s.resourceConfigured request.resource then invalidate request
      let now ← nowMs
      if currentExpiry ≤ now then invalidate request
      return (a, currentExpiry)

/-- Re-admit a grant under its current authority, ending it where that is gone.
    Answers the authority and the latest time a token of it may live to. -/
def admittedAuthority (request : AgentAuthorization) : ServiceCall (AgentOAuthAuthority × Int) := do
  let a ← s.readAuthority request
  if request.revokedAtMs ≠ 0 then throw (.sentinel .agentOAuthGrant)
  if !a.valid p request then invalidate request
  if request.machineID = "" then
    let now ← nowMs
    if request.grantExpiresAtMs ≤ now then invalidate request
  s.admitStanding request a

/-- The mutation that commits an issue: a redemption presents a code, a rotation a
    refresh credential, and both may record the next refresh credential. -/
def issueMutation (operation : AgentOAuthOperation) (now : Int) (authority : AgentOAuthAuthority)
    (sid presentedHash : String) (refresh : Option String) (refreshExpiresAtMs : Int) : AgentOAuthMutation where
  operation := operation
  atMs := now
  authorityFingerprint := authority.fingerprint p
  sessionID := sid
  nextRefreshHash := refresh.elim "" p.sha256Hex
  refreshExpiresAtMs := if refresh.isSome then refreshExpiresAtMs else 0
  codeHash := if operation = .redeem then presentedHash else ""
  refreshHash := if operation = .redeem then "" else presentedHash

/-- A new refresh credential, for a client registered for the refresh grant. -/
def nextRefresh (client : OAuthClient) : ServiceCall (Option String) := do
  if client.registration.grantTypes.contains oauthGrantRefreshToken then
    let text ← randText
    return some text
  return none

/-- The second half of an issue, once the access token is signed: it is answered
    only if the store accepts the mutation. -/
def commitIssue (request : AgentAuthorization) (operation : AgentOAuthOperation) (presentedHash : String)
    (authority : AgentOAuthAuthority) (currentExpiry now : Int) (token : DelegatedToken) (client : OAuthClient) :
    ServiceCall AgentOAuthTokens := do
  let refresh ← nextRefresh client
  let _ ← mutateAgentAuthorization request.id
    (issueMutation p operation now authority token.claims.sid presentedHash refresh
      (min (min request.grantExpiresAtMs currentExpiry) (now + s.refreshIdleSeconds * 1000)))
  let lifetime := token.claims.expiresAt - token.claims.issuedAt
  if lifetime ≤ 0 then throw (.sentinel .agentOAuthGrant)
  return ⟨token, refresh.getD "", lifetime, token.claims.scope⟩

def issue (request : AgentAuthorization) (operation : AgentOAuthOperation) (presentedHash : String) :
    ServiceCall AgentOAuthTokens := do
  let (authority, currentExpiry) ← s.admittedAuthority p request
  let now ← nowMs
  let expires := min (min request.grantExpiresAtMs currentExpiry) (now + s.accessSeconds * 1000)
  if expires.tdiv 1000 ≤ now.tdiv 1000 then throw (.sentinel .agentOAuthGrant)
  let sid ← if operation = .redeem then randText else pure request.sessionID
  let owner ← deref authority.owner
  let jwtID ← randText
  let claims : DelegatedAccessClaims :=
    { sub := request.agentID
      actor := request.ownerID
      issuer := s.jwtIssuer
      project := s.projectID
      audience := [request.resource]
      clientID := request.clientID
      scope := " ".intercalate request.scopes
      grantID := request.id
      sid := sid
      issuedAt := now.tdiv 1000
      expiresAt := expires.tdiv 1000
      jwtID := jwtID
      isMinor := s.isMinor request.product owner }
  let signature ← check (s.signDelegatedAccessToken claims)
  let client ← deref authority.client
  s.commitIssue p request operation presentedHash authority currentExpiry now ⟨claims, signature⟩ client

def redeem (client redirect resource code verifier : String) : ServiceCall AgentOAuthTokens := do
  let request ← findAgentAuthorizationByCode (p.sha256Hex code)
  match request with
  | none => throw (.sentinel .agentOAuthGrant)
  | some request =>
    let now ← nowMs
    if request.codeUsedAtMs ≠ 0 || request.codeExpiresAtMs ≤ now || request.clientID ≠ client ||
        request.redirectURI ≠ redirect || request.resource ≠ resource ||
        !s.verifyAgentPKCE verifier request.challenge then
      throw (.sentinel .agentOAuthGrant)
    s.issue p request .redeem (p.sha256Hex code)

def refresh (client resource raw scope : String) : ServiceCall AgentOAuthTokens := do
  let request ← findAgentAuthorizationByRefresh (p.sha256Hex raw)
  match request with
  | none => throw (.sentinel .agentOAuthGrant)
  | some request =>
    if request.clientID ≠ client || request.resource ≠ resource ||
        (scope ≠ "" && scope ≠ " ".intercalate request.scopes) then
      throw (.sentinel .agentOAuthGrant)
    s.issue p request .rotate (p.sha256Hex raw)

/-- Whether the stored grant is the one a verified token speaks of. -/
def matchesClaims (resource : String) (claims : DelegatedAccessClaims) (request : AgentAuthorization) : Bool :=
  request.agentID == claims.sub && request.ownerID == claims.actor && request.clientID == claims.clientID &&
    request.resource == resource && request.sessionID == claims.sid &&
    " ".intercalate request.scopes == claims.scope &&
    (request.machineID != "" || !(request.grantExpiresAtMs.tdiv 1000 < claims.expiresAt))

def introspect (resource raw : String) : ServiceCall AgentOAuthIntrospection := do
  match s.verifyDelegatedAccessToken resource raw with
  | none => return {}
  | some claims =>
    let request ← getAgentAuthorization claims.grantID
    match request with
    | none => return {}
    | some request =>
      if !matchesClaims resource claims request then return {}
      match ← (s.admittedAuthority p request).attempt with
      | .error err =>
        if err.is .agentOAuthGrant || isAgentOAuthAdmissionRefusal err then return {}
        throw err
      | .ok (authority, _) =>
        let now ← nowMs
        match ← (mutateAgentAuthorization request.id
            { operation := .validate
              atMs := now
              authorityFingerprint := authority.fingerprint p }).attempt with
        | .error err =>
          if err.is .agentOAuthGrant then return {}
          throw err
        | .ok _ =>
          let owner ← deref authority.owner
          return {
            active := true
            subject := claims.sub
            kind := claims.kind
            actor := claims.actor
            issuer := claims.issuer
            project := claims.project
            audience := claims.audience
            clientID := claims.clientID
            scope := claims.scope
            grantID := claims.grantID
            sid := claims.sid
            issuedAt := claims.issuedAt
            expiresAt := claims.expiresAt
            isMinor := s.isMinor request.product owner }

def revoke (h : AgentOAuthHuman) (id : String) : ServiceCall Unit := do
  if !validOAuthClientID id then throw (.sentinel .invalidArgument)
  let _ ← human h false
  let now ← nowMs
  let _ ← mutateAgentAuthorization id { operation := .revoke, ownerID := h.userID, atMs := now }

def revokeToken (client raw : String) : ServiceCall Unit := do
  let request ← findAgentAuthorizationByRefresh (p.sha256Hex raw)
  match request with
  | none => return ()
  | some request =>
    if request.clientID ≠ client then return ()
    let now ← nowMs
    let _ ← mutateAgentAuthorization request.id { operation := .revoke, ownerID := request.ownerID, atMs := now }

end AgentOAuthService
end identity.service
