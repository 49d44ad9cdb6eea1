import Identity.Flows.SignIn.Password

open identity.repository identity.memory
namespace identity.service

def queryRefreshTokenNodes (userID : String) : ServiceCall (List RefreshTokenRecord) :=
  Routine.ask (Request.session (.queryRefreshTokenNodes userID))

def deleteRefreshToken (nodeID : String) : ServiceCall Unit :=
  Routine.ask (Request.session (.deleteRefreshToken nodeID))

namespace ProfileService
variable (s : ProfileService)

/-- The loop over a user's refresh tokens, counting those deleted. -/
def deleteEach : List RefreshTokenRecord → ServiceCall Nat
  | [] => pure 0
  | token :: rest => do
    deleteRefreshToken token.nodeID
    let deleted ← deleteEach rest
    return deleted + 1

/-- Every refresh token of the user goes, one by one. The session rows are not looked
    at. -/
def revokeAllUserSessions (userID : String) : ServiceCall Nat := do
  let tokens ← queryRefreshTokenNodes userID
  deleteEach tokens

def changePassword (userID currentPassword newPassword : String) : ServiceCall Unit := do
  refuseIf (currentPassword = "" ∨ newPassword = "") (.text "both current and new password are required")
  match ← getUser userID with
  | none => throw (.text "user not found")
  | some user =>
    check (s.passwords.validateStrengthForEmail user.email newPassword)
    refuseIf (user.passwordHash = "") (.sentinel .noPasswordSet)
    refuseIf (!s.passwords.verify currentPassword user.passwordHash) (.text "current password is incorrect")
    let newHash ← s.passwords.hashed newPassword
    let now ← nowMs
    updateUserNode userID (fields [("password_hash", .str newHash), ("password_change_required", .bool false),
      ("updated_at", .int now)])
    let _ ← revokeAllUserSessions userID
    return

def revokeAllSessions (userID password : String) : ServiceCall Nat := do
  refuseIf (password = "") (.text "password confirmation required")
  match ← getUser userID with
  | none => throw (.text "user not found")
  | some user =>
    refuseIf (user.passwordHash = "" ∨ !s.passwords.verify password user.passwordHash) (.text "invalid password")
    revokeAllUserSessions userID

end ProfileService

/-- What a reset hands back to the administrator. -/
structure ResetPasswordResult where
  temporaryPassword : String := ""
  resetToken : String := ""

/-- The reset token itself is only ever stored as its hash. -/
def newPasswordReset (p : Platform) (user : User) (rawToken : String) (expirySeconds now : Int) :
    EmailTokenRecord where
  tokenHash := p.sha256Hex rawToken
  userID := user.id
  email := user.email
  expiresAt := now + expirySeconds * 1000
  createdAt := now

/-- The patch of an issued password. -/
def issuedPassword (pwHash : String) (now : Int) : Fields :=
  fields [("password_hash", .str pwHash), ("password_change_required", .bool true), ("updated_at", .int now)]

/-- An administrator issues a password that has to be replaced, or a token to set one. -/
def AdminService.resetUserPassword (p : Platform) (s : AdminService) (passwordResetExpirySeconds : Int)
    (actorID targetUserID : String) (generateTemp : Bool) : ServiceCall ResetPasswordResult := do
  let _ ← AdminService.requireAdmin actorID
  refuseIf (targetUserID = "") (.text "user_id is required")
  match ← getUser targetUserID with
  | none => throw (.text "user not found")
  | some target =>
    refuseIf target.isAgent (.sentinel .agentCredential)
    refuseIf target.isAnonymous (.wrapped .anonymousMustUpgrade
      "attaching one here would leave the account subject to the anonymous retention sweep")
    let now ← nowMs
    if generateTemp then do
      let drawn ← randText
      let hash ← s.passwords.hashed (s.generateTempPassword drawn)
      updateUserNode targetUserID (issuedPassword hash now)
      return { temporaryPassword := s.generateTempPassword drawn }
    else do
      let rawToken ← randText
      createEmailToken .passwordReset
        (newPasswordReset p { target with id := targetUserID } rawToken passwordResetExpirySeconds now)
      return { resetToken := rawToken }

namespace AuthService
variable (p : Platform) (s : AuthService)

/-- A wrong code counts toward the lockout as a wrong password does. -/
def countFailedSecondFactor (user : User) : ServiceCall Unit := do
  let _ ← (s.recordFailedLogin user).attempt
  return

/-- The second factor of a required change, where one is required. -/
def proveSecondFactor (user : User) (policyForced : Bool) (code : String) : ServiceCall Unit :=
  if user.totpRequired ∨ policyForced then do
    ensureSecondFactorEnrolled user policyForced
    match ← (s.verifySecondFactorCode user.id code).attempt with
    | .ok _ => return
    | .error err => do
      s.countFailedSecondFactor user
      throw err
  else pure ()

/-- The password is set, every session ends, and a new one is opened. -/
def replaceIssuedPassword (user : User) (newPassword : String) (authTime : Int) (client : ClientInfo) :
    ServiceCall LoginResult := do
  let pwHash ← s.passwords.hashed newPassword
  let now ← nowMs
  updateUser user.id (resetPassword pwHash now)
  deleteRefreshTokensForUser user.id
  s.revokeUserSessionsIfModeSession user.id
  let started ← nowMs
  let issued ← s.issueSignInTokens p
    { user with passwordHash := pwHash, passwordChangeRequired := false, updatedAt := now } client started
      (authTime * 1000)
  return s.signedIn issued

/-- A ticket is spent once the password it was minted for is replaced. -/
def completeRequiredPasswordChange (completionToken newPassword secondFactorCode : String) (client : ClientInfo) :
    ServiceCall LoginResult := do
  let claims ← check (s.verifyPurposeTicket tokenPurposePasswordChange completionToken)
  refuseIf (newPassword = "") (.wrapped .invalidArgument "new password is required")
  let spent := Err.wrapped .unauthenticated ("invalid or expired " ++ tokenPurposePasswordChange ++ " ticket")
  match ← getUser claims.sub with
  | none => throw spent
  | some user =>
    refuseIf (!user.passwordChangeRequired ∨ claims.binding ≠ passwordBinding p user.passwordHash) spent
    let policyForced ← s.postPasswordGates user true
    refuseIf ((user.totpRequired ∨ policyForced) ∧ secondFactorCode = "")
      (.wrapped .invalidArgument "second_factor_code is required")
    check (s.passwords.validateStrengthForEmail user.email newPassword)
    refuseIf (s.passwords.verify newPassword user.passwordHash)
      (.wrapped .invalidArgument "choose a password different from the one you were given")
    s.proveSecondFactor user policyForced secondFactorCode
    s.replaceIssuedPassword p user newPassword claims.authTime client

end AuthService
end identity.service
