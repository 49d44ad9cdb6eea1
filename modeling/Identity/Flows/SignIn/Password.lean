import Identity.Flows.Accounts.Service
import Identity.Flows.Codes.Service

open identity.repository identity.memory
namespace identity.service

def getTotpCredential (userID : String) : ServiceCall (Option TotpCredRecord) :=
  Routine.ask (Request.credential (.getTotpCredential userID))

def updateTotpCredential (nodeID : String) (patch : Fields) : ServiceCall Unit :=
  attemptRequest (.credential (.updateTotpCredential nodeID patch)) fun answer => answer

def findRecoveryCodeByHash (userID hash : String) : ServiceCall (Option RecoveryCodeRecord) :=
  Routine.ask (Request.credential (.findRecoveryCodeByHash userID hash))

def updateRecoveryCode (nodeID : String) (patch : Fields) : ServiceCall Unit :=
  attemptRequest (.credential (.updateRecoveryCode nodeID patch)) fun answer => answer

def createLoginChallenge (rec : LoginChallengeRecord) : ServiceCall String :=
  Routine.ask (Request.credential (.createLoginChallenge rec))

def getLoginChallengeByChallengeID (challengeID : String) : ServiceCall (Option LoginChallengeRecord) :=
  Routine.ask (Request.credential (.getLoginChallengeByChallengeID challengeID))

def deleteLoginChallenge (nodeID : String) : ServiceCall Unit :=
  Routine.ask (Request.credential (.deleteLoginChallenge nodeID))

/-- Which second factor a code was. -/
inductive SecondFactor where
  | totp
  | recoveryCode
deriving DecidableEq, Repr

/-- The patch of a spent recovery code. -/
def spentCode (now : Int) : Fields := fields [("used", .bool true), ("used_at", .int now)]

namespace AuthService
variable (p : Platform) (s : AuthService)

/-- A second factor only the policy asks for must be enrolled. -/
def ensureSecondFactorEnrolled (user : User) (policyForced : Bool) : ServiceCall Unit :=
  if !policyForced ∨ user.totpRequired then pure ()
  else do
    let cred ← getTotpCredential user.id
    refuseIf (!(cred.any fun cred => cred.verified)) (.wrapped .totpRequired
      "your organization requires two-factor authentication; enroll a second factor")

def issueLoginChallenge (userID : String) : ServiceCall String := do
  let now ← nowMs
  let challengeID ← randText
  let _ ← createLoginChallenge
    { challengeID := challengeID
      userID := userID
      expiresAt := now + s.login.loginChallengeExpirySeconds * 1000
      createdAt := now }
  return challengeID

/-- The sign-in waits for a second factor. -/
def requireSecondFactor (user : User) (policyForced : Bool) : ServiceCall LoginResult := do
  check (s.enforceVerifiedEmail user)
  ensureSecondFactorEnrolled user policyForced
  let challengeID ← s.issueLoginChallenge user.id
  return { user := user, totpRequired := true, loginChallengeID := challengeID }

/-- A challenge is looked up, judged and then deleted. The delete does not say whether
    the challenge was still there. -/
def consumeLoginChallenge (challengeID : String) : ServiceCall LoginChallengeRecord := do
  match ← getLoginChallengeByChallengeID challengeID with
  | none => throw (.wrapped .unauthenticated "invalid or expired login challenge")
  | some record =>
    let now ← nowMs
    if record.expiresAt < now then do
      deleteLoginChallenge record.nodeID
      throw (.wrapped .unauthenticated "login challenge expired")
    else do
      deleteLoginChallenge record.nodeID
      return record

/-- An unused recovery code of the account is marked used. The mark does not look at
    whether the code is still unused, and its answer is ignored. -/
def useRecoveryCode (userID codeHash : String) : ServiceCall Bool :=
  if codeHash = "" then pure false
  else do
    match ← findRecoveryCodeByHash userID codeHash with
    | none => return false
    | some rc =>
      if rc.used then pure false
      else do
        let now ← nowMs
        let _ ← (updateRecoveryCode rc.nodeID (spentCode now)).attempt
        return true

/-- A two-step code that is not right is tried as a recovery code. -/
def matchSecondFactor (cred : TotpCredRecord) (userID code : String) : ServiceCall SecondFactor :=
  if s.login.verifyTotpCode cred.secretEncrypted code then pure .totp
  else do
    let used ← useRecoveryCode userID (s.login.hashRecoveryCode code)
    if used then return .recoveryCode else throw (.wrapped .invalidTotpCode "invalid code")

def verifySecondFactorCode (userID code : String) : ServiceCall SecondFactor := do
  match ← getTotpCredential userID with
  | none => throw (.wrapped .notFound "TOTP is not enabled for this user")
  | some cred =>
    refuseIf (!cred.verified) (.wrapped .notFound "TOTP is not enabled for this user")
    let method ← s.matchSecondFactor cred userID code
    let now ← nowMs
    let _ ← (updateTotpCredential cred.nodeID (fields [("last_used_at", .int now)])).attempt
    return method

/-- The challenge is spent before the code is looked at. The status of the account is
    not judged again. -/
def verifyTotp (challengeID code : String) (client : ClientInfo) : ServiceCall LoginResult := do
  refuseIf (challengeID = "") (.wrapped .invalidArgument "login_challenge_id is required")
  refuseIf (code = "") (.wrapped .invalidArgument "code is required")
  let record ← consumeLoginChallenge challengeID
  match ← getUser record.userID with
  | none => throw (.wrapped .notFound "user not found")
  | some user =>
    check (s.enforceVerifiedEmail user)
    let _ ← s.verifySecondFactorCode record.userID code
    let issued ← s.issueTokens p user client
    return s.signedIn issued

end AuthService

/-- The key that opens enrolled secrets, and the check of a code at the moment it is made. -/
structure TotpService where
  decrypt : String → Option String
  verifyCode : String → String → Bool

/-- An enrolment is completed in two writes, the credential's mark and then the account's
    flag, whose errors are ignored. -/
def TotpService.verifyTotpSetup (s : TotpService) (userID code : String) : ServiceCall Bool := do
  refuseIf (code = "") (.wrapped .invalidArgument "code is required")
  match ← getTotpCredential userID with
  | none => throw (.wrapped .notFound "no TOTP setup in progress")
  | some cred =>
    match s.decrypt cred.secretEncrypted with
    | none => throw (.text "could not decrypt TOTP secret")
    | some secret =>
      refuseIf (!s.verifyCode secret code) (.wrapped .invalidTotpCode "invalid verification code")
      let now ← nowMs
      let _ ← (updateTotpCredential cred.nodeID
        (fields [("verified", .bool true), ("last_used_at", .int now)])).attempt
      let _ ← (updateUser userID (fields [("totp_required", .bool true), ("updated_at", .int now)])).attempt
      return true

def incrementFailedLoginCount (userID : String) : ServiceCall Int :=
  attemptRequest (.user (.incrementFailedLoginCount userID)) fun answer => answer

def resetFailedLoginCount (userID : String) : ServiceCall Unit :=
  attemptRequest (.user (.resetFailedLoginCount userID)) fun answer => answer

def setUserLockedUntil (userID : String) (lockedUntilMs : Int) : ServiceCall Unit :=
  attemptRequest (.user (.setUserLockedUntil userID lockedUntilMs)) fun answer => answer

/-- `passwords.Verify` against an account's own hash. -/
def PasswordRules.verified (rules : PasswordRules) (password hash : String) : ServiceCall Bool := do
  Routine.ask (Request.compare password hash)
  return rules.verify password hash

/-- The refusal of an unknown identifier, a lockout and a wrong password alike. -/
def errInvalidCredentials : Err := .wrapped .unauthenticated "invalid email or password"

def tokenPurposePasswordChange : String := "password_change"

/-- How many hex digits of the digest a ticket keeps of the password it was minted for. -/
def passwordBindingDigits : Nat := 32

def passwordBinding (p : Platform) (passwordHash : String) : String :=
  String.ofList ((p.sha256Hex passwordHash).toList.take passwordBindingDigits)

namespace AuthService
variable (p : Platform) (s : AuthService)

/-- Count a failure, and lock the account at the threshold. -/
def recordFailedLogin (user : User) : ServiceCall Bool := do
  let newCount ← incrementFailedLoginCount user.id
  if newCount ≥ s.login.loginMaxFailedAttempts then do
    let now ← nowMs
    setUserLockedUntil user.id (now + s.login.loginLockoutSeconds * 1000)
    return true
  else return false

/-- Best effort, and only where the account as read had something to clear. -/
def resetFailedLogin (user : User) : ServiceCall Unit :=
  if user.failedLoginCount = 0 ∧ user.lockedUntil = 0 then pure ()
  else do
    let _ ← (resetFailedLoginCount user.id).attempt
    return

/-- The account an identifier names: an address, or a username. -/
def resolveIdentifier (identifier : String) : ServiceCall (Option User) :=
  if strings.containsAny identifier "@" then do
    check (s.login.validateEmailFormat identifier)
    refuseIf (!(emailaddr.mailbox s.toASCII identifier).2)
      (.wrapped .invalidArgument "email has no mailbox once its +tag is removed")
    check (s.enforceProjectAccessLogin (emailaddr.mailbox s.toASCII identifier).1)
    findUserByEmail (emailaddr.mailbox s.toASCII identifier).1
  else
    match s.validateUsernameShape (s.normalizeUsername identifier) with
    | .ok _ => findUserByUsername (s.normalizeUsername identifier)
    | .error _ => pure none

/-- A locked account is refused whatever the password. A lock that has run out is
    cleared, whatever the account's row holds by then. -/
def passLockout (user : User) : ServiceCall User :=
  if user.lockedUntil > 0 then do
    let now ← nowMs
    refuseIf (user.lockedUntil > now) errInvalidCredentials
    let now ← nowMs
    if user.lockedUntil ≤ now then do
      let _ ← (resetFailedLoginCount user.id).attempt
      return { user with failedLoginCount := 0, lockedUntil := 0 }
    else return user
  else pure user

/-- A wrong password is counted before it is refused. -/
def comparePassword (user : User) (password : String) : ServiceCall Unit := do
  refuseIf (user.passwordHash = "") errInvalidCredentials
  if ← s.passwords.verified password user.passwordHash then return
  else do
    let _ ← (s.recordFailedLogin user).attempt
    throw errInvalidCredentials

/-- Every gate after the password, ending in the login policy's answer. -/
def postPasswordGates (user : User) (checkAccess : Bool) : ServiceCall Bool := do
  s.checkAccountStatus user
  if checkAccess then s.enforceAccountAccessLogin user else pure ()
  check (s.enforceVerifiedEmail user)
  check (s.login.enforceLoginPolicy user.email .password)

/-- The whole check of a password sign-in: the account and whether a second factor is
    required. -/
def verifyPasswordCredential (email password : String) : ServiceCall (User × Bool) := do
  refuseIf (!s.login.authAllowLocal) (.sentinel .localAuthDisabled)
  refuseIf (password = "") (.wrapped .invalidArgument "password is required")
  let identifier := strings.trimSpace (strings.toLower email)
  refuseIf (identifier = "") (.wrapped .invalidArgument "email or username is required")
  match ← s.resolveIdentifier identifier with
  | none => throw errInvalidCredentials
  | some user =>
    let user ← passLockout user
    s.comparePassword user password
    let secondFactor ← s.postPasswordGates user (!strings.containsAny identifier "@")
    return (user, secondFactor)

/-- The refusal that hands out the ticket for replacing an issued password. -/
def requirePasswordChange (user : User) (policyForced : Bool) : ServiceCall LoginResult := do
  ensureSecondFactorEnrolled user policyForced
  let now ← nowMs
  let _ ← check (s.signPurposeTicket tokenPurposePasswordChange
    { sub := user.id, binding := passwordBinding p user.passwordHash, authTime := now.tdiv 1000 })
  throw (.sentinel .passwordChangeRequired)

/-- What a proven password leads to. -/
def afterPassword (user : User) (secondFactor : Bool) (client : ClientInfo) : ServiceCall LoginResult :=
  if user.passwordChangeRequired then s.requirePasswordChange p user secondFactor
  else if user.totpRequired ∨ secondFactor then s.requireSecondFactor user secondFactor
  else do
    let issued ← s.issueTokens p user client
    return s.signedIn issued

def passwordLogin (email password : String) (client : ClientInfo) : ServiceCall LoginResult := do
  let (user, secondFactor) ← s.verifyPasswordCredential email password
  resetFailedLogin user
  s.afterPassword p user secondFactor client

/-- Merge the account the other credential proves into the caller's own. -/
def mergeOwnAccounts (survivorID : String) (authTimeSec : Int) (otherIdentifier otherPassword : String)
    (takeAddress : Bool) : ServiceCall User := do
  refuseIf (!s.login.accountMergeEnabled) (.sentinel .accountMergeDisabled)
  refuseIf (survivorID = "") (.sentinel .unauthenticated)
  let now ← nowMs
  refuseIf (!s.login.recentlyAuthenticated authTimeSec now) (.sentinel .reauthenticationRequired)
  match ← getUser survivorID with
  | none => throw (.sentinel .unauthenticated)
  | some survivor =>
    checkSurvivor survivor
    let idpManaged := Err.wrapped .mergeRefused
      "an account your identity provider manages can only be merged by an admin"
    refuseIf (survivor.externalID ≠ "") idpManaged
    let (other, secondFactor) ← s.verifyPasswordCredential otherIdentifier otherPassword
    refuseIf (other.externalID ≠ "") idpManaged
    refuseIf (other.totpRequired ∨ secondFactor) (.wrapped .mergeRefused
      "the other account requires a second factor; turn two-step verification off there first")
    resetFailedLogin other
    let now ← nowMs
    let (merged, _) ← mergeAccounts survivor other takeAddress now
    return merged

/-- The display name a sign-up falls back to. -/
def fallbackDisplayName (email preferred : String) : String :=
  if strings.trimSpace preferred ≠ "" then strings.trimSpace preferred
  else if email.contains '@' ∧ mailboxName email ≠ "" then mailboxName email
  else "there"

end AuthService

/-- What a provider says about who signed in there, once its answer is verified. -/
structure ProviderIdentity where
  provider : String
  providerUserID : String
  email : String
  name : String := ""
  avatarURL : String := ""
deriving DecidableEq

/-- The address as a link records it: not canonical, since the spelling the provider
    proved decides what it proves. -/
def assertedAddress (identity : ProviderIdentity) : String := strings.trimSpace (strings.toLower identity.email)

def findUserByProviderID (provider providerUserID : String) : ServiceCall (Option User) :=
  Routine.ask (Request.user (.findUserByProviderID provider providerUserID))

def createOAuthIdentity (oi : OAuthIdentity) : ServiceCall Unit :=
  attemptRequest (.credential (.createOAuthIdentity oi)) fun answer => answer

end identity.service
