import Identity.Flows.SignIn.Issue

open identity.repository identity.memory
namespace identity.service

def listPasskeyCredentials (userID : String) : ServiceCall (List PasskeyCredRecord) :=
  Routine.ask (Request.credential (.listPasskeyCredentials userID))

def deletePasskeyCredentialsForUser (userID : String) : ServiceCall Unit :=
  Routine.ask (Request.credential (.deletePasskeyCredentialsForUser userID))

def listOAuthIdentitiesForUser (userID : String) : ServiceCall (List OAuthIdentity) :=
  Routine.ask (Request.credential (.listOAuthIdentitiesForUser userID))

def deleteOAuthIdentity (userID provider providerUserID : String) : ServiceCall Unit :=
  attemptRequest (.credential (.deleteOAuthIdentity userID provider providerUserID)) fun answer => answer

def setUserEmailVerified (userID email : String) (atMs : Int) (clearPassword : Bool) : ServiceCall (Bool × Bool) :=
  attemptRequest (.user (.setUserEmailVerified userID email atMs clearPassword)) fun answer => answer

/-- A proof of control of an address from outside: a provider's assertion, an emailed
    code or link redeemed at a sign-in, or a verification link. The provider link that
    presented it is named; only a verification link keeps the links whose provider
    asserted the account's own address. -/
structure ExternalProof where
  address : String
  provider : String := ""
  providerUserID : String := ""
  keepsAssertingLinks : Bool := false
deriving DecidableEq

/-- Whether the proof voids a link of an account that holds `accountEmail`. -/
def ExternalProof.voids (toASCII : emailaddr.ToASCII) (proof : ExternalProof) (accountEmail : String)
    (link : OAuthIdentity) : Bool :=
  if link.provider = proof.provider ∧ link.providerUserID = proof.providerUserID then false
  else !proof.keepsAssertingLinks || !proofCarriesTo toASCII link.emailAtLinkTime accountEmail

/-- The error a proof fails with when its sweep stops. -/
def externalProofSweepFailed : Err := .wrapped .unavailable "the address could not be proven"

/-- Delete the links a proof voids; one that is gone by now fails the proof. -/
def voidProviderLinks (userID : String) : List OAuthIdentity → ServiceCall Unit
  | [] => pure ()
  | link :: rest => do
    match ← (deleteOAuthIdentity userID link.provider link.providerUserID).attempt with
    | .error _ => throw externalProofSweepFailed
    | .ok _ => voidProviderLinks userID rest

def deletePasskeysIf (found : Bool) (userID : String) : ServiceCall Unit :=
  if found then deletePasskeyCredentialsForUser userID else pure ()

namespace AuthService
variable (s : AuthService)

def revokeSessionsForProof (userID : String) (now : Int) : ServiceCall Unit := do
  deleteRefreshTokensForUser userID
  if s.revocationModeSession then revokeSessionsForUser userID now else pure ()

def endSessionsIf (voided : Bool) (userID : String) (now : Int) : ServiceCall Unit :=
  if voided then s.revokeSessionsForProof userID now else pure ()

/-- What was attached between the first listing and the mark goes too, and the sessions
    once more. -/
def sweepAgain (user : User) (proof : ExternalProof) (now : Int) (voided : Bool) : ServiceCall Unit := do
  let passkeys ← listPasskeyCredentials user.id
  deletePasskeysIf (!passkeys.isEmpty) user.id
  let links ← listOAuthIdentitiesForUser user.id
  let lateLinks := links.filter (proof.voids s.toASCII user.email)
  voidProviderLinks user.id lateLinks
  s.endSessionsIf (voided || !passkeys.isEmpty || !lateLinks.isEmpty) user.id now

/-- The first proof of the account's own address marks it verified, clears the password
    and voids the passkeys and links that were there before it. The mark lands only
    while the account holds the address the proof was checked against. Returns the
    account as the caller sees it afterwards. -/
def markEmailVerifiedViaExternalProof (user : User) (proof : ExternalProof) (now : Int) : ServiceCall User :=
  if user.emailVerified ∨ !proofCarriesTo s.toASCII proof.address user.email then pure user
  else do
    let passkeys ← listPasskeyCredentials user.id
    let links ← listOAuthIdentitiesForUser user.id
    let plantedLinks := links.filter (proof.voids s.toASCII user.email)
    s.endSessionsIf (user.passwordHash != "" || !passkeys.isEmpty || !plantedLinks.isEmpty) user.id now
    deletePasskeysIf (!passkeys.isEmpty) user.id
    voidProviderLinks user.id plantedLinks
    match ← (setUserEmailVerified user.id user.email now true).attempt with
    | .error _ => throw externalProofSweepFailed
    | .ok (verified, passwordCleared) =>
      if !verified then return user
      else do
        s.sweepAgain user proof now (passwordCleared || !passkeys.isEmpty || !plantedLinks.isEmpty)
        return { user with
          emailVerified := true
          emailVerifiedAt := now
          passwordHash := ""
          passwordChangeRequired := false }

end AuthService

def findEmailTokenByHash (kind : EmailTokenKind) (hash : String) : ServiceCall (Option EmailTokenRecord) :=
  Routine.ask (Request.credential (.findEmailTokenByHash kind hash))

def markEmailTokenConsumed (kind : EmailTokenKind) (id : String) (atMs : Int) : ServiceCall Unit :=
  attemptRequest (.credential (.markEmailTokenConsumed kind id atMs)) fun answer => answer

def updateUserEmail (userID newEmail : String) (atMs : Int) : ServiceCall Unit :=
  attemptRequest (.user (.updateUserEmail userID newEmail atMs)) fun answer => answer

/-- How the refusals of a mailed token name it. -/
def tokenNoun : EmailTokenKind → String
  | .passwordReset => "reset"
  | .emailVerification => "verification"
  | .emailChange => "email change"

/-- The stored token a presented one names, refused when it is unknown, consumed or
    expired. The clock is read only for a token with an end. -/
def presentedToken (p : Platform) (kind : EmailTokenKind) (token : String) : ServiceCall EmailTokenRecord := do
  match ← findEmailTokenByHash kind (p.sha256Hex token) with
  | none => throw (.wrapped .unauthenticated ("invalid " ++ tokenNoun kind ++ " token"))
  | some rec =>
    refuseIf (rec.consumedAt > 0) (.wrapped .unauthenticated (tokenNoun kind ++ " token already used"))
    if rec.expiresAt > 0 then do
      let now ← nowMs
      refuseIf (rec.expiresAt < now) (.wrapped .tokenExpired (tokenNoun kind ++ " token expired"))
      return rec
    else return rec

/-- The patch of a new password that was proven by other means or set by a guardian: it
    owes no change and clears the lockout. -/
def resetPassword (pwHash : String) (now : Int) : Fields :=
  fields [("password_hash", .str pwHash), ("password_change_required", .bool false), ("updated_at", .int now),
    ("failed_login_count", .int 0), ("locked_until", .int 0)]

namespace AuthService
variable (p : Platform) (s : AuthService)

/-- Whether the account still holds the address a reset token was issued for. -/
def resetTokenBindsAddress (issuedFor current : String) : Bool :=
  if current = "" then issuedFor == "" else proofCarriesTo s.toASCII issuedFor current

def revokeUserSessionsIfModeSession (userID : String) : ServiceCall Unit :=
  if s.revocationModeSession then do
    let now ← nowMs
    revokeSessionsForUser userID now
  else pure ()

/-- The password is set, then the token is marked, then the sessions end. -/
def resetPasswordOf (rec : EmailTokenRecord) (user : User) (newPassword : String) : ServiceCall Unit := do
  check (s.passwords.validateStrengthForEmail user.email newPassword)
  let pwHash ← s.passwords.hashed newPassword
  let now ← nowMs
  updateUser user.id (resetPassword pwHash now)
  let _ ← (markEmailTokenConsumed .passwordReset rec.nodeID now).attempt
  deleteRefreshTokensForUser user.id
  s.revokeUserSessionsIfModeSession user.id

/-- A token issued for an address the account no longer holds is spent and refused. -/
def confirmPasswordReset (token newPassword : String) : ServiceCall Unit := do
  refuseIf (token = "") (.wrapped .invalidArgument "token is required")
  refuseIf (newPassword = "") (.wrapped .invalidArgument "new password is required")
  check (s.passwords.validateStrength newPassword)
  let rec ← presentedToken p .passwordReset token
  match ← getUser rec.userID with
  | none => throw (.wrapped .notFound "user not found")
  | some user =>
    if !s.resetTokenBindsAddress rec.email user.email then do
      let now ← nowMs
      let _ ← (markEmailTokenConsumed .passwordReset rec.nodeID now).attempt
      throw (.wrapped .unauthenticated "invalid reset token")
    else s.resetPasswordOf rec user newPassword

/-- An account without an address gains one only where people may sign up by email. -/
def enforceEmailAdded (user : User) : Except Err Unit :=
  if user.email ≠ "" then .ok () else s.login.enforceEmailSelfSignup

/-- The address is moved, then the account address follows, then the token is marked and
    the sessions end. -/
def changeEmailOf (rec : EmailTokenRecord) (user : User) (newEmail : String) : ServiceCall User := do
  check (s.enforceProjectAccessLogin newEmail)
  check (s.enforceEmailAdded user)
  let now ← nowMs
  updateUserEmail user.id newEmail now
  let user := { user with email := newEmail, emailVerified := true, emailVerifiedAt := now, updatedAt := now }
  s.reissueAddressAfterEmailChange user
  let _ ← (markEmailTokenConsumed .emailChange rec.nodeID now).attempt
  deleteRefreshTokensForUser user.id
  s.revokeUserSessionsIfModeSession user.id
  return user

/-- An address that another account holds by now is refused and the token kept. -/
def claimEmail (rec : EmailTokenRecord) (user : User) (newEmail : String) : ServiceCall User := do
  let existing ← findUserByEmail newEmail
  refuseIf (existing.any fun existing => existing.id != user.id) (.wrapped .alreadyExists "email already in use")
  s.changeEmailOf rec user newEmail

def confirmEmailChange (token : String) : ServiceCall User := do
  refuseIf (token = "") (.wrapped .invalidArgument "token is required")
  let rec ← presentedToken p .emailChange token
  match ← getUser rec.userID with
  | none => throw (.wrapped .notFound "user not found")
  | some user =>
    refuseIf (!(emailaddr.mailbox s.toASCII rec.newEmail).2)
      (.wrapped .invalidArgument "email has no mailbox once its +tag is removed")
    s.claimEmail rec user (emailaddr.mailbox s.toASCII rec.newEmail).1

end AuthService

def getGuardianEdge (guardianUserID childUserID : String) : ServiceCall (Option GuardianEdge) :=
  Routine.ask (Request.guardian (.getGuardianEdge guardianUserID childUserID))

namespace AuthService
variable (s : AuthService)

/-- Whether the caller may proceed, and whether they proved a password. -/
def stepUp (user : User) (stepUpPassword : String) : Bool × Bool :=
  if user.passwordHash = "" then (s.guardianStepUpAllowNoPassword, false)
  else
    let proven := stepUpPassword != "" && s.passwords.verify stepUpPassword user.passwordHash
    (proven, proven)

end AuthService

def findUserByUsername (username : String) : ServiceCall (Option User) :=
  Routine.ask (Request.user (.findUserByUsername username))

/-- The one message of every refusal of someone who is not a guardian. -/
def notGuardian : Err := .wrapped .permissionDenied "caller is not a guardian of this account"

namespace AuthService
variable (s : AuthService)

/-- The one guard of every guardian operation: an edge, an active guardian who proves
    their password, and a child who is not known to be an adult. -/
def authorizeGuardianAction (guardianUserID childUserID stepUpPassword : String) : ServiceCall User := do
  refuseIf (guardianUserID = "") (.sentinel .unauthenticated)
  let childUserID := strings.trimSpace childUserID
  refuseIf (childUserID = "") (.wrapped .invalidArgument "child_user_id is required")
  let edge ← getGuardianEdge guardianUserID childUserID
  refuseIf edge.isNone notGuardian
  match ← getUser guardianUserID with
  | none => throw notGuardian
  | some guardian =>
    refuseIf (!isActiveStatus guardian.status) (.sentinel .accountNotActive)
    refuseIf (!(s.stepUp guardian stepUpPassword).1) (.sentinel .parentalConsentStepUpFailed)
    match ← getUser childUserID with
    | none => throw notGuardian
    | some child =>
      let now ← nowMs
      refuseIf (s.ageGate.determine child child.dateOfBirthMs now = .adult) (.sentinel .guardianRightsExpired)
      return child

def setManagedChildPassword (guardianUserID childUserID newPassword stepUpPassword : String) : ServiceCall Unit := do
  let child ← s.authorizeGuardianAction guardianUserID childUserID stepUpPassword
  check (s.passwords.validateStrengthForEmail child.username newPassword)
  let hash ← s.passwords.hashed newPassword
  let now ← nowMs
  updateUser child.id (resetPassword hash now)
  revokeAllUserSessions child.id now

end AuthService

namespace AuthService
variable (s : AuthService)

/-- A date of birth must be given, past, and not implausibly old. -/
def validateCompletionDOB (dobMs now : Int) : Except Err Unit :=
  if dobMs ≤ 0 then .error (.wrapped .invalidArgument "date of birth is required")
  else if now < dobMs then .error (.wrapped .invalidArgument "date of birth cannot be in the future")
  else if s.ageGate.implausiblyOld dobMs now then
    .error (.wrapped .invalidArgument "date of birth is implausibly old")
  else .ok ()

end AuthService

def setDateOfBirthOnce (userID : String) (dobMs : Int) (status : String) (now : Int) : ServiceCall Bool :=
  attemptRequest (.user (.setDateOfBirthOnce userID dobMs status now)) fun answer => answer

def tokenPurposeDOBCompletion : String := "dob_completion"

namespace AuthService
variable (p : Platform) (s : AuthService)

/-- A date of birth in the child band puts the account behind the gate. -/
def childBand (user : User) (dobMs now : Int) : Bool :=
  s.ageGate.enabled && s.ageGate.determine user dobMs now == .child

/-- Store the date once, gating a child with the same write; only the call that set it
    goes on to a session, and a child gets none. -/
def completeDateOfBirth (user : User) (dobMs authTime : Int) (client : ClientInfo) : ServiceCall LoginResult := do
  let today ← nowMs
  let child := s.childBand user dobMs today
  let now ← nowMs
  let won ← setDateOfBirthOnce user.id dobMs (if child then statusPendingParentalConsent else "") now
  refuseIf (!won) (.sentinel .dobAlreadySet)
  let user := { user with dateOfBirthMs := dobMs, updatedAt := now }
  if child then return { user := { user with status := statusPendingParentalConsent } }
  else do
    let issued ← s.issueSignInTokens p user client (authTime * 1000) (authTime * 1000)
    return s.signedIn issued

def submitDateOfBirth (completionToken : String) (dobMs : Int) (client : ClientInfo) : ServiceCall LoginResult := do
  let claims ← check (s.verifyPurposeTicket tokenPurposeDOBCompletion completionToken)
  let today ← nowMs
  check (s.validateCompletionDOB dobMs today)
  match ← getUser claims.sub with
  | none => throw (.wrapped .unauthenticated "invalid or expired completion token")
  | some user =>
    refuseIf (user.dateOfBirthMs ≠ 0) (.sentinel .dobAlreadySet)
    s.checkAccountStatus user
    check (s.enforceVerifiedEmail user)
    s.completeDateOfBirth p user dobMs claims.authTime client

end AuthService

def findInvitationByHash (tokenHash : String) : ServiceCall (Option InvitationRecord) :=
  Routine.ask (Request.signIn (.findInvitationByHash tokenHash))

def updateInvitation (nodeID : String) (acceptedAt : Int) : ServiceCall Unit :=
  attemptRequest (.signIn (.updateInvitation nodeID acceptedAt)) fun answer => answer

def createEmailToken (kind : EmailTokenKind) (t : EmailTokenRecord) : ServiceCall Unit :=
  Routine.ask (Request.credential (.createEmailToken kind t))

namespace AuthService
variable (p : Platform) (s : AuthService)

/-- Store a verification token; the mail itself is not modelled. -/
def mailEmailVerification (user : User) : ServiceCall Unit := do
  let rawToken ← randText
  let now ← nowMs
  createEmailToken .emailVerification
    { tokenHash := p.sha256Hex rawToken
      userID := user.id
      email := user.email
      expiresAt := now + s.emailTokenExpiryMs
      createdAt := now }

def sendEmailVerification (userID : String) : ServiceCall Unit := do
  refuseIf (userID = "") (.wrapped .invalidArgument "user id is required")
  match ← getUser userID with
  | none => throw (.wrapped .notFound "user not found")
  | some user =>
    if s.emailThrottleAllows (strings.toLower user.email) then s.mailEmailVerification p user else pure ()

/-- The account an invitation is for: by its id, else by its address. -/
def invitedUser (inv : InvitationRecord) : ServiceCall (Option User) := do
  let byID ← if inv.userID ≠ "" then getUser inv.userID else pure none
  if byID.isNone ∧ inv.email ≠ "" then findUserByEmail inv.email else pure byID

/-- An invitation past its end is refused; the clock is read only when it has one. -/
def checkInvitationExpiry (inv : InvitationRecord) : ServiceCall Unit :=
  if inv.expiresAt > 0 then do
    let now ← nowMs
    refuseIf (inv.expiresAt < now) (.sentinel .invitationExpired)
  else pure ()

/-- The patch of an accepted invitation. -/
def acceptedInvitation (pwHash name : String) (now : Int) : Fields :=
  fields ([("password_hash", .str pwHash), ("password_change_required", .bool false),
    ("status", .str statusActive), ("updated_at", .int now)] ++
      if name ≠ "" then [("name", .str (strings.trimSpace name))] else [])

/-- While an address must be proven, an invitee whose address is not gets a mail
    instead of a session. -/
def openInvitedSession (user : User) (client : ClientInfo) : ServiceCall LoginResult :=
  if s.needsEmailVerification user then do
    let _ ← (s.sendEmailVerification p user.id).attempt
    return { user := user }
  else do
    let issued ← s.issueTokens p user client
    return s.signedIn issued

/-- Set the password and the status, then mark the invitation, then sign in. The
    status the account has by then is not looked at, except that it was not merged. -/
def acceptForUser (inv : InvitationRecord) (user : User) (password name : String) (client : ClientInfo) :
    ServiceCall LoginResult := do
  refuseIf (user.mergedIntoUserID ≠ "") (.wrapped .mergeRefused "a merged account cannot accept an invitation")
  s.enforceAccountAccessLogin user
  check (s.passwords.validateStrengthForEmail user.email password)
  let pwHash ← s.passwords.hashed password
  let now ← nowMs
  updateUser user.id (acceptedInvitation pwHash name now)
  let _ ← (updateInvitation inv.nodeID now).attempt
  let user := { user with
    name := if name ≠ "" then strings.trimSpace name else user.name
    status := statusActive
    updatedAt := now }
  s.openInvitedSession p user client

def acceptInvitation (invitationToken password name : String) (client : ClientInfo) : ServiceCall LoginResult := do
  refuseIf (invitationToken = "") (.wrapped .invalidArgument "invitation token is required")
  refuseIf (password = "") (.wrapped .invalidArgument "password is required")
  check (s.passwords.validateStrength password)
  match ← findInvitationByHash (p.sha256Hex invitationToken) with
  | none => throw (.wrapped .unauthenticated "invalid invitation token")
  | some inv =>
    refuseIf (inv.acceptedAt > 0) (.sentinel .invitationUsed)
    checkInvitationExpiry inv
    match ← invitedUser inv with
    | none => throw (.wrapped .notFound "user for invitation not found")
    | some user => s.acceptForUser p inv user password name client

end AuthService

def updateUserNode (userID : String) (patch : Fields) : ServiceCall Unit :=
  Routine.ask (Request.user (.updateUserNode userID patch))

def applyAccountMerge (m : AccountMerge) : ServiceCall Unit :=
  attemptRequest (.user (.applyAccountMerge m)) fun answer => answer

def listChildrenOfGuardian (guardianUserID : String) (limit offset : Int) : ServiceCall (List GuardianEdge) :=
  attemptRequest (.guardian (.listChildrenOfGuardian guardianUserID limit offset)) fun answer => answer

/-- The administrators' settings: the password rules and the passwords they issue. -/
structure AdminService where
  passwords : PasswordRules
  generateTempPassword : String → String

/-- `strings.Split(email, "@")[0]`. -/
def mailboxName (email : String) : String := String.ofList (email.toList.takeWhile fun r => r != '@')

namespace AdminService
variable (p : Platform) (s : AdminService)

def requireAdmin (actorID : String) : ServiceCall User := do
  match ← getUser actorID with
  | none => throw (.text "actor user not found")
  | some u => if strings.toLower u.role ≠ roleAdmin then throw (.text "admin role required") else return u

end AdminService

def refuseManagedChild (u : User) : ServiceCall Unit := do
  let guardians ← listGuardiansOfChild u.id 1 0
  refuseIf (!guardians.isEmpty) (.wrapped .mergeRefused "a managed child's account stays with its guardian")

/-- An account that cannot take another one in. -/
def checkSurvivor (survivor : User) : ServiceCall Unit := do
  refuseIf (survivor.status ≠ statusActive ∨ survivor.mergedIntoUserID ≠ "")
    (.wrapped .mergeRefused "both accounts must be active")
  refuseIf survivor.isAnonymous
    (.wrapped .mergeRefused "upgrade an anonymous account instead of merging into it")
  refuseIf survivor.isAgent (.wrapped .mergeRefused "an agent account cannot be merged")
  refuseManagedChild survivor

def checkMergeable (survivor other : User) : ServiceCall Unit := do
  refuseIf (survivor.id = other.id) (.wrapped .mergeRefused "an account cannot be merged into itself")
  checkSurvivor survivor
  refuseIf (other.status ≠ statusActive ∨ other.mergedIntoUserID ≠ "")
    (.wrapped .mergeRefused "both accounts must be active")
  refuseIf other.isAnonymous (.wrapped .mergeRefused "upgrade an anonymous account instead of merging it")
  refuseIf other.isAgent (.wrapped .mergeRefused "an agent account cannot be merged")
  refuseIf other.passwordChangeRequired (.wrapped .mergeRefused
    "the other account still has the password it was issued; sign in to it and choose a new one first")
  refuseManagedChild other
  let children ← listChildrenOfGuardian other.id 1 0
  refuseIf (!children.isEmpty)
    (.wrapped .mergeRefused "the other account is a guardian; move its children first")

/-- What moves, decided from the accounts as they were read. -/
def mergeOf (survivor other : User) (takeAddress : Bool) (now : Int) : AccountMerge where
  survivorID := survivor.id
  otherID := other.id
  moveUsername := other.username != "" && survivor.username == ""
  movePassword := other.passwordHash != "" && survivor.passwordHash == "" && !other.totpRequired
  moveEmail := other.email != "" && survivor.email == ""
  swapAddress := takeAddress && other.accountAddress != ""
  atMs := now

/-- Check the pair, merge in one step of the store, and read both accounts back. -/
def mergeAccounts (survivor other : User) (takeAddress : Bool) (now : Int) : ServiceCall (User × User) := do
  checkMergeable survivor other
  applyAccountMerge (mergeOf survivor other takeAddress now)
  let merged ← getUser survivor.id
  let retired ← getUser other.id
  match merged, retired with
  | some merged, some retired => return (merged, retired)
  | _, _ => throw (.prefixed "merge" .notFound)

namespace AdminService

def mergeUsers (actorID survivorID otherID : String) (takeAddress : Bool) : ServiceCall User := do
  let _ ← requireAdmin actorID
  refuseIf (otherID = actorID) (.wrapped .mergeRefused "an admin cannot merge away their own account")
  let survivor ← getUser survivorID
  let other ← getUser otherID
  match survivor, other with
  | some survivor, some other =>
    let now ← nowMs
    let (merged, _) ← mergeAccounts survivor other takeAddress now
    return merged
  | _, _ => throw (.sentinel .notFound)

end AdminService
end identity.service
