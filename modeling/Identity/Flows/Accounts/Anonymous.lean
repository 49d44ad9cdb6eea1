import Identity.Flows.SignIn.Password

open identity.repository identity.memory
namespace identity.service

/-- The email and password an anonymous account is given. -/
structure AnonymousPasswordCredential where
  email : String
  password : String
  name : String := ""
  client : ClientInfo := ⟨"", ""⟩

/-- The provider identity it is given: what the code exchange answered. -/
structure AnonymousOAuthCredential where
  exchanged : Except Err ProviderIdentity
  client : ClientInfo := ⟨"", ""⟩

/-- The patch that clears the flag and stamps the identifying columns. -/
def promotion (now : Int) (columns : List (String × FieldValue)) : Fields :=
  fields (("is_anonymous", .bool false) :: ("updated_at", .int now) :: columns)

/-- The columns an email and password stamp; a typed address is unproven. -/
def passwordColumns (email name hash : String) : List (String × FieldValue) :=
  [("email", .str email), ("name", .str name), ("password_hash", .str hash), ("email_verified", .bool false)]

/-- The columns a provider identity stamps. -/
def providerColumns (email name : String) (verified : Bool) (verifiedAt : Int) : List (String × FieldValue) :=
  [("email", .str email), ("email_verified", .bool verified), ("email_verified_at", .int verifiedAt),
    ("name", .str name)]

/-- Promote an anonymous account in place. Forming the tenant and the events are not
    modelled; the read that serves them is. -/
def upgradeAnonymousUser (userID : String) (columns : List (String × FieldValue)) : ServiceCall Unit := do
  refuseIf (strings.trimSpace userID = "") (.wrapped .unauthenticated "missing user ID")
  match ← getUser userID with
  | none => throw (.sentinel .notFound)
  | some u =>
    refuseIf (!u.isAnonymous) (.sentinel .notAnonymous)
    let now ← nowMs
    updateUser userID (promotion now columns)
    let _ ← getUser userID
    return

/-- A conflict that the promotion meets is the caller's to learn about. -/
def mapUpgradeConflict (err : Err) : Err :=
  if err.is .alreadyExists then .wrapped .alreadyExists "email already registered" else err

/-- Only an anonymous account may ask whether an address is taken. -/
def requireAnonymous (userID : String) : ServiceCall Unit := do
  match ← getUser userID with
  | none => throw (.sentinel .notFound)
  | some u => refuseIf (!u.isAnonymous) (.sentinel .notAnonymous)

def refuseTakenEmail (email : String) : ServiceCall Unit := do
  let taken ← findUserByEmail email
  refuseIf taken.isSome (.wrapped .alreadyExists "email already registered")

namespace AuthService
variable (p : Platform) (s : AuthService)

/-- The verification mail of an unproven address; a failure to send it is only logged. -/
def mailIfUnproven (u : User) (userID : String) : ServiceCall Unit :=
  if u.emailVerified = false ∧ u.email ≠ "" then do
    let _ ← (s.sendEmailVerification p userID).attempt
    return
  else pure ()

/-- Re-read the promoted account and mint a pair for it. While its address has to be
    proven first, the anonymous session ends and no pair is minted. -/
def reissueAfterUpgrade (userID : String) (client : ClientInfo) (authTimeMs : Int) : ServiceCall LoginResult := do
  match ← getUser userID with
  | none => throw (.sentinel .notFound)
  | some u =>
    s.mailIfUnproven p u userID
    if s.needsEmailVerification u then do
      deleteRefreshTokensForUser userID
      s.revokeUserSessionsIfModeSession userID
      return { user := u }
    else do
      let now ← nowMs
      let issued ← s.issueSignInTokens p u client now authTimeMs
      return s.signedIn issued

/-- The rules a typed credential is held to before the store is asked: the address it
    stands for. -/
def admitPasswordUpgrade (cred : AnonymousPasswordCredential) : Except Err String := do
  if !s.login.authAllowLocal then throw (.sentinel .localAuthDisabled)
  if !s.login.passwordSignupEnabled then throw (.sentinel .signupDisabled)
  if s.ageGate.enabled && s.ageGateRequireDOB then
    throw (.wrapped .invalidArgument
      "this deployment requires a date of birth at signup; the anonymous upgrade cannot collect one")
  let email := strings.trimSpace (strings.toLower cred.email)
  s.login.validateEmailFormat email
  let (email, usable) := emailaddr.mailbox s.toASCII email
  if !usable then throw (.wrapped .invalidArgument "email has no mailbox once its +tag is removed")
  s.login.enforceProjectAccessSignup email
  if cred.password = "" then throw (.wrapped .invalidArgument "password is required")
  s.passwords.validateStrengthForEmail email cred.password
  return email

def upgradeAnonymousWithPassword (userID : String) (cred : AnonymousPasswordCredential) : ServiceCall LoginResult := do
  let email ← check (s.admitPasswordUpgrade cred)
  requireAnonymous userID
  refuseTakenEmail email
  let hash ← s.passwords.hashed cred.password
  match ← (upgradeAnonymousUser userID
      (passwordColumns email (fallbackDisplayName email cred.name) hash)).attempt with
  | .error err => throw (mapUpgradeConflict err)
  | .ok _ => s.reissueAfterUpgrade p userID cred.client 0

/-- The rules a provider identity is held to: the address it stands for. -/
def admitProviderUpgrade (identity : ProviderIdentity) : Except Err String := do
  if identity.providerUserID = "" then throw (.wrapped .unauthenticated "provider returned no stable subject")
  let (email, usable) := emailaddr.mailbox s.toASCII identity.email
  if email = "" then
    throw (.wrapped .invalidArgument "provider returned no email, which a permanent account requires")
  if !usable then throw (.wrapped .invalidArgument "email has no mailbox once its +tag is removed")
  s.login.enforceProjectAccessSignup email
  return email

/-- The link, unless the account has it already from an attempt that did not get further.
    Says whether this call created it. -/
def linkForUpgrade (userID : String) (identity : ProviderIdentity) : ServiceCall Bool := do
  match ← findUserByProviderID identity.provider identity.providerUserID with
  | some existing =>
    refuseIf (existing.id ≠ userID) (.wrapped .alreadyExists "provider identity already linked")
    return false
  | none =>
    let now ← nowMs
    match ← (createOAuthIdentity
        { userID := userID
          provider := identity.provider
          providerUserID := identity.providerUserID
          emailAtLinkTime := assertedAddress identity
          createdAt := now }).attempt with
    | .ok _ => return true
    | .error err =>
      if err.is .alreadyExists then throw (.wrapped .alreadyExists "provider identity already linked") else throw err

/-- Best effort. -/
def unlinkAfterFailure (created : Bool) (userID : String) (identity : ProviderIdentity) : ServiceCall Unit :=
  if created then do
    let _ ← (deleteOAuthIdentity userID identity.provider identity.providerUserID).attempt
    return
  else pure ()

/-- When the provider proved the stored address. -/
def verifiedNow (verified : Bool) : ServiceCall Int := if verified then nowMs else pure 0

def upgradeAnonymousWithOAuth (userID : String) (cred : AnonymousOAuthCredential) : ServiceCall LoginResult := do
  requireAnonymous userID
  let identity ← check cred.exchanged
  let email ← check (s.admitProviderUpgrade identity)
  refuseTakenEmail email
  let created ← linkForUpgrade userID identity
  let verified := proofCarriesTo s.toASCII identity.email email
  let verifiedAt ← verifiedNow verified
  match ← (upgradeAnonymousUser userID
      (providerColumns email (fallbackDisplayName email identity.name) verified verifiedAt)).attempt with
  | .error err => do
    unlinkAfterFailure created userID identity
    throw (mapUpgradeConflict err)
  | .ok _ =>
    let now ← nowMs
    s.reissueAfterUpgrade p userID cred.client now

end AuthService
end identity.service
