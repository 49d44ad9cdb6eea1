import Identity.Interleaving.Pool
import Identity.Memory.AgentOAuth
import Identity.Memory.Codes
import Identity.Memory.Credentials
import Identity.Memory.Guardians

open identity.service identity.memory
namespace identity.repository

/-- Operations on user rows. -/
inductive UserRequest where
  | getUser (userID : String)
  | findUserByEmail (email : String)
  | findUserByUsername (username : String)
  | listUsersPendingDeletionBefore (cutoffMs limit : Int)
  | findUserByProviderID (provider providerUserID : String)
  | listOwnedAgents (ownerID : String)
  | createUser (u : User)
  | updateUser (userID : String) (fields : Fields)
  | updateUserNode (userID : String) (patch : Fields)
  | deleteUser (userID : String)
  | deleteStaleAnonymousUsers (beforeMs limit : Int)
  | setDateOfBirthOnce (userID : String) (dobMs : Int) (status : String) (nowMs : Int)
  | incrementFailedLoginCount (userID : String)
  | resetFailedLoginCount (userID : String)
  | setUserLockedUntil (userID : String) (lockedUntilMs : Int)
  | setUserPhoneVerified (userID phoneNumber : String) (atMs : Int)
  | setUserEmailVerified (userID email : String) (atMs : Int) (clearPassword : Bool)
  | setUserIDVVerified (userID : String) (atMs : Int)
  | updateUserEmail (userID newEmail : String) (atMs : Int)
  | assignAccountAddress (userID address : String)
  | createAgent (request : AgentCreation)
  | settleAgentTransfer (agentID pendingOwnerID : String) (accept : Bool) (atMs : Int)
  | setAgentOwnership (agentID expectedOwnerID ownerID pendingOwnerID : String) (atMs : Int)
  | applyAccountMerge (m : AccountMerge)

def UserRequest.Response : UserRequest → Type
  | getUser _ => Option User
  | findUserByEmail _ => Option User
  | findUserByUsername _ => Option User
  | listUsersPendingDeletionBefore _ _ => Except Err (List User)
  | findUserByProviderID _ _ => Option User
  | listOwnedAgents _ => List User
  | createUser _ => Except Err String
  | updateUser _ _ => Except Err Unit
  | updateUserNode _ _ => Unit
  | deleteUser _ => Unit
  | deleteStaleAnonymousUsers _ _ => Except Err Unit
  | setDateOfBirthOnce _ _ _ _ => Except Err Bool
  | incrementFailedLoginCount _ => Except Err Int
  | resetFailedLoginCount _ => Except Err Unit
  | setUserLockedUntil _ _ => Except Err Unit
  | setUserPhoneVerified _ _ _ => Except Err Unit
  | setUserEmailVerified _ _ _ _ => Except Err (Bool × Bool)
  | setUserIDVVerified _ _ => Except Err Unit
  | updateUserEmail _ _ _ => Except Err Unit
  | assignAccountAddress _ _ => Except Err String
  | createAgent _ => Except Err (User × Bool)
  | settleAgentTransfer _ _ _ _ => Except Err Bool
  | setAgentOwnership _ _ _ _ _ => Except Err Bool
  | applyAccountMerge _ => Except Err Unit

def UserRequest.handle (now : Int) (r : Repo) : (q : UserRequest) → q.Response × Repo
  | getUser userID => (r.getUser userID, r)
  | findUserByEmail email => (r.findUserByEmail email, r)
  | findUserByUsername username => (r.findUserByUsername username, r)
  | listUsersPendingDeletionBefore cutoffMs limit => (r.listUsersPendingDeletionBefore cutoffMs limit, r)
  | findUserByProviderID provider providerUserID => (r.findUserByProviderID provider providerUserID, r)
  | listOwnedAgents ownerID => (r.listOwnedAgents ownerID, r)
  | createUser u => r.createUser u
  | updateUser userID fields => r.updateUser now userID fields
  | updateUserNode userID patch => ((), r.updateUserNode now userID patch)
  | deleteUser userID => ((), r.deleteUser now userID)
  | deleteStaleAnonymousUsers beforeMs limit => r.deleteStaleAnonymousUsers now beforeMs limit
  | setDateOfBirthOnce userID dobMs status nowMs => r.setDateOfBirthOnce userID dobMs status nowMs
  | incrementFailedLoginCount userID => r.incrementFailedLoginCount userID
  | resetFailedLoginCount userID => r.resetFailedLoginCount userID
  | setUserLockedUntil userID lockedUntilMs => r.setUserLockedUntil userID lockedUntilMs
  | setUserPhoneVerified userID phoneNumber atMs => r.setUserPhoneVerified userID phoneNumber atMs
  | setUserEmailVerified userID email atMs clearPassword =>
    r.setUserEmailVerified userID email atMs clearPassword
  | setUserIDVVerified userID atMs => r.setUserIDVVerified userID atMs
  | updateUserEmail userID newEmail atMs => r.updateUserEmail userID newEmail atMs
  | assignAccountAddress userID address => r.assignAccountAddress userID address
  | createAgent request => r.createAgent request
  | settleAgentTransfer agentID pendingOwnerID accept atMs =>
    r.settleAgentTransfer agentID pendingOwnerID accept atMs
  | setAgentOwnership agentID expectedOwnerID ownerID pendingOwnerID atMs =>
    r.setAgentOwnership agentID expectedOwnerID ownerID pendingOwnerID atMs
  | applyAccountMerge m => r.applyAccountMerge m

/-- The times an operation is told. -/
def UserRequest.timestamps : UserRequest → List Int
  | setDateOfBirthOnce _ _ _ nowMs => [nowMs]
  | setUserPhoneVerified _ _ atMs => [atMs]
  | setUserEmailVerified _ _ atMs _ => [atMs]
  | setUserIDVVerified _ atMs => [atMs]
  | updateUserEmail _ _ atMs => [atMs]
  | settleAgentTransfer _ _ _ atMs => [atMs]
  | setAgentOwnership _ _ _ _ atMs => [atMs]
  | applyAccountMerge m => [m.atMs]
  | _ => []

/-- Operations on sessions and refresh tokens. -/
inductive SessionRequest where
  | createSession (s : SessionRecord)
  | getSessionBySid (sid : String)
  | revokeSession (sid : String) (atMs : Int)
  | revokeSessionsForUser (userID : String) (atMs : Int)
  | findRefreshTokenByHash (hash : String)
  | findRefreshTokenByHashIncludingConsumed (hash : String)
  | queryRefreshTokenNodes (userID : String)
  | createRefreshToken (t : RefreshTokenRecord)
  | deleteRefreshToken (nodeID : String)
  | deleteRefreshTokensForUser (userID : String)
  | consumeRefreshTokenByHash (hash : String) (atMs : Int)

def SessionRequest.Response : SessionRequest → Type
  | createSession _ => Except Err String
  | getSessionBySid _ => Option SessionRecord
  | revokeSession _ _ => Unit
  | revokeSessionsForUser _ _ => Unit
  | findRefreshTokenByHash _ => Option RefreshTokenRecord
  | findRefreshTokenByHashIncludingConsumed _ => Option RefreshTokenRecord
  | queryRefreshTokenNodes _ => List RefreshTokenRecord
  | createRefreshToken _ => String
  | deleteRefreshToken _ => Unit
  | deleteRefreshTokensForUser _ => Unit
  | consumeRefreshTokenByHash _ _ => Except Err Unit

def SessionRequest.handle (now : Int) (r : Repo) : (q : SessionRequest) → q.Response × Repo
  | createSession s => r.createSession s
  | getSessionBySid sid => (r.getSessionBySid sid, r)
  | revokeSession sid atMs => ((), r.revokeSession sid atMs)
  | revokeSessionsForUser userID atMs => ((), r.revokeSessionsForUser userID atMs)
  | findRefreshTokenByHash hash => (r.findRefreshTokenByHash hash, r)
  | findRefreshTokenByHashIncludingConsumed hash => (r.findRefreshTokenByHashIncludingConsumed hash, r)
  | queryRefreshTokenNodes userID => (r.queryRefreshTokenNodes userID, r)
  | createRefreshToken t => r.createRefreshToken t
  | deleteRefreshToken nodeID => ((), r.deleteRefreshToken now nodeID)
  | deleteRefreshTokensForUser userID => ((), r.deleteRefreshTokensForUser now userID)
  | consumeRefreshTokenByHash hash atMs => r.consumeRefreshTokenByHash hash atMs

def SessionRequest.timestamps : SessionRequest → List Int
  | createSession s => [s.createdAtMs]
  | revokeSession _ atMs => [atMs]
  | revokeSessionsForUser _ atMs => [atMs]
  | consumeRefreshTokenByHash _ atMs => [atMs]
  | _ => []

/-- Operations on QR sessions, one-time codes and invitations. -/
inductive SignInRequest where
  | findQrLoginSession (sessionID : String)
  | createQrLoginSession (s : QrLoginSessionRecord)
  | updateQrLoginSession (nodeID : String) (fields : Fields)
  | consumeQrLoginSession (nodeID : String) (atMs : Int)
  | upsertCode (channel : CodeChannel) (code : OneTimeCodeRecord)
  | findCode (channel : CodeChannel) (holder : String)
  | incrementCodeAttempts (channel : CodeChannel) (nodeID : String)
  | consumeCode (channel : CodeChannel) (holder : String) (atMs : Int)
  | findInvitationByHash (tokenHash : String)
  | createInvitation (inv : InvitationRecord)
  | updateInvitation (nodeID : String) (acceptedAt : Int)

def SignInRequest.Response : SignInRequest → Type
  | findQrLoginSession _ => Option QrLoginSessionRecord
  | createQrLoginSession _ => String
  | updateQrLoginSession _ _ => Except Err Unit
  | consumeQrLoginSession _ _ => Except Err Unit
  | upsertCode _ _ => String
  | findCode _ _ => Option OneTimeCodeRecord
  | incrementCodeAttempts _ _ => Except Err Unit
  | consumeCode _ _ _ => Except Err OneTimeCodeRecord
  | findInvitationByHash _ => Option InvitationRecord
  | createInvitation _ => String
  | updateInvitation _ _ => Except Err Unit

def SignInRequest.handle (r : Repo) : (q : SignInRequest) → q.Response × Repo
  | findQrLoginSession sessionID => (r.findQrLoginSession sessionID, r)
  | createQrLoginSession s => r.createQrLoginSession s
  | updateQrLoginSession nodeID fields => r.updateQrLoginSession nodeID fields
  | consumeQrLoginSession nodeID atMs => r.consumeQrLoginSession nodeID atMs
  | upsertCode .email code => r.upsertEmailLoginCode code
  | upsertCode .phone code => r.upsertPhoneVerificationCode code
  | findCode .email email => (r.findEmailLoginCodeByEmail email, r)
  | findCode .phone userID => (r.findPhoneVerificationCodeByUser userID, r)
  | incrementCodeAttempts .email nodeID => r.incrementEmailLoginCodeAttempts nodeID
  | incrementCodeAttempts .phone nodeID => r.incrementPhoneVerificationCodeAttempts nodeID
  | consumeCode .email email atMs => r.consumeEmailLoginCode email atMs
  | consumeCode .phone userID atMs => r.consumePhoneVerificationCode userID atMs
  | findInvitationByHash tokenHash => (r.findInvitationByHash tokenHash, r)
  | createInvitation inv => r.createInvitation inv
  | updateInvitation nodeID acceptedAt => r.updateInvitation nodeID acceptedAt

def SignInRequest.timestamps : SignInRequest → List Int
  | createQrLoginSession s => [s.createdAt]
  | consumeQrLoginSession _ atMs => [atMs]
  | upsertCode _ code => [code.createdAt]
  | consumeCode _ _ atMs => [atMs]
  | createInvitation inv => [inv.createdAt]
  | updateInvitation _ acceptedAt => [acceptedAt]
  | _ => []

/-- Operations on what a user signs in with or proves an address by: passkeys, second
    factors, provider links and mailed tokens. -/
inductive CredentialRequest where
  | listPasskeyCredentials (userID : String)
  | getPasskeyCredentialByCredID (credentialID : String)
  | createPasskeyCredential (rec : PasskeyCredRecord)
  | updatePasskeyCredential (nodeID : String) (fields : Fields)
  | deletePasskeyCredentialsForUser (userID : String)
  | deletePasskeyCredential (userID credentialID : String)
  | getPasskeyChallenge (nodeID : String)
  | createPasskeyChallenge (rec : PasskeyChallengeRecord)
  | deletePasskeyChallenge (nodeID : String)
  | getTotpCredential (userID : String)
  | createTotpCredential (rec : TotpCredRecord)
  | updateTotpCredential (nodeID : String) (fields : Fields)
  | createRecoveryCode (rec : RecoveryCodeRecord)
  | findRecoveryCodeByHash (userID hash : String)
  | updateRecoveryCode (nodeID : String) (fields : Fields)
  | createLoginChallenge (rec : LoginChallengeRecord)
  | getLoginChallengeByChallengeID (challengeID : String)
  | deleteLoginChallenge (nodeID : String)
  | createOAuthIdentity (oi : OAuthIdentity)
  | listOAuthIdentitiesForUser (userID : String)
  | deleteOAuthIdentity (userID provider providerUserID : String)
  | createEmailToken (kind : EmailTokenKind) (t : EmailTokenRecord)
  | findEmailTokenByHash (kind : EmailTokenKind) (hash : String)
  | markEmailTokenConsumed (kind : EmailTokenKind) (id : String) (atMs : Int)
  | createMagicLinkToken (rec : MagicLinkTokenRecord)
  | consumeMagicLinkToken (tokenHash : String) (atMs : Int)

def CredentialRequest.Response : CredentialRequest → Type
  | listPasskeyCredentials _ => List PasskeyCredRecord
  | getPasskeyCredentialByCredID _ => Option PasskeyCredRecord
  | createPasskeyCredential _ => String
  | updatePasskeyCredential _ _ => Except Err Unit
  | deletePasskeyCredentialsForUser _ => Unit
  | deletePasskeyCredential _ _ => Except Err Unit
  | getPasskeyChallenge _ => Option PasskeyChallengeRecord
  | createPasskeyChallenge _ => String
  | deletePasskeyChallenge _ => Unit
  | getTotpCredential _ => Option TotpCredRecord
  | createTotpCredential _ => String
  | updateTotpCredential _ _ => Except Err Unit
  | createRecoveryCode _ => String
  | findRecoveryCodeByHash _ _ => Option RecoveryCodeRecord
  | updateRecoveryCode _ _ => Except Err Unit
  | createLoginChallenge _ => String
  | getLoginChallengeByChallengeID _ => Option LoginChallengeRecord
  | deleteLoginChallenge _ => Unit
  | createOAuthIdentity _ => Except Err Unit
  | listOAuthIdentitiesForUser _ => List OAuthIdentity
  | deleteOAuthIdentity _ _ _ => Except Err Unit
  | createEmailToken _ _ => Unit
  | findEmailTokenByHash _ _ => Option EmailTokenRecord
  | markEmailTokenConsumed _ _ _ => Except Err Unit
  | createMagicLinkToken _ => String
  | consumeMagicLinkToken _ _ => Except Err MagicLinkTokenRecord

def CredentialRequest.handle (r : Repo) : (q : CredentialRequest) → q.Response × Repo
  | listPasskeyCredentials userID => (r.listPasskeyCredentials userID, r)
  | getPasskeyCredentialByCredID credentialID => (r.getPasskeyCredentialByCredID credentialID, r)
  | createPasskeyCredential rec => r.createPasskeyCredential rec
  | updatePasskeyCredential nodeID fields => r.updatePasskeyCredential nodeID fields
  | deletePasskeyCredentialsForUser userID => ((), r.deletePasskeyCredentialsForUser userID)
  | deletePasskeyCredential userID credentialID => r.deletePasskeyCredential userID credentialID
  | getPasskeyChallenge nodeID => (r.getPasskeyChallenge nodeID, r)
  | createPasskeyChallenge rec => r.createPasskeyChallenge rec
  | deletePasskeyChallenge nodeID => ((), r.deletePasskeyChallenge nodeID)
  | getTotpCredential userID => (r.getTotpCredential userID, r)
  | createTotpCredential rec => r.createTotpCredential rec
  | updateTotpCredential nodeID fields => r.updateTotpCredential nodeID fields
  | createRecoveryCode rec => r.createRecoveryCode rec
  | findRecoveryCodeByHash userID hash => (r.findRecoveryCodeByHash userID hash, r)
  | updateRecoveryCode nodeID fields => r.updateRecoveryCode nodeID fields
  | createLoginChallenge rec => r.createLoginChallenge rec
  | getLoginChallengeByChallengeID challengeID => (r.getLoginChallengeByChallengeID challengeID, r)
  | deleteLoginChallenge nodeID => ((), r.deleteLoginChallenge nodeID)
  | createOAuthIdentity oi => r.createOAuthIdentity oi
  | listOAuthIdentitiesForUser userID => (r.listOAuthIdentitiesForUser userID, r)
  | deleteOAuthIdentity userID provider providerUserID => r.deleteOAuthIdentity userID provider providerUserID
  | createEmailToken .passwordReset t => ((), r.createPasswordResetToken t)
  | createEmailToken .emailVerification t => ((), r.createEmailVerificationToken t)
  | createEmailToken .emailChange t => ((), r.createEmailChangeToken t)
  | findEmailTokenByHash .passwordReset hash => (r.findPasswordResetTokenByHash hash, r)
  | findEmailTokenByHash .emailVerification hash => (r.findEmailVerificationTokenByHash hash, r)
  | findEmailTokenByHash .emailChange hash => (r.findEmailChangeTokenByHash hash, r)
  | markEmailTokenConsumed .passwordReset id atMs => r.markPasswordResetTokenConsumed id atMs
  | markEmailTokenConsumed .emailVerification id atMs => r.markEmailVerificationTokenConsumed id atMs
  | markEmailTokenConsumed .emailChange id atMs => r.markEmailChangeTokenConsumed id atMs
  | createMagicLinkToken rec => r.createMagicLinkToken rec
  | consumeMagicLinkToken tokenHash atMs => r.consumeMagicLinkToken tokenHash atMs

def CredentialRequest.timestamps : CredentialRequest → List Int
  | createPasskeyCredential rec => [rec.createdAt]
  | createPasskeyChallenge rec => [rec.createdAt]
  | createTotpCredential rec => [rec.createdAt]
  | createRecoveryCode rec => [rec.createdAt]
  | createLoginChallenge rec => [rec.createdAt]
  | createOAuthIdentity oi => [oi.createdAt]
  | createEmailToken _ t => [t.createdAt]
  | markEmailTokenConsumed _ _ atMs => [atMs]
  | createMagicLinkToken rec => [rec.createdAt]
  | consumeMagicLinkToken _ atMs => [atMs]
  | _ => []

/-- Operations on guardian edges and parental consents. -/
inductive GuardianRequest where
  | upsertGuardianEdge (e : GuardianEdge)
  | deleteGuardianEdge (guardianUserID childUserID : String)
  | getGuardianEdge (guardianUserID childUserID : String)
  | listGuardiansOfChild (childUserID : String) (limit offset : Int)
  | listChildrenOfGuardian (guardianUserID : String) (limit offset : Int)
  | createParentalConsent (consent : ParentalConsentRecord)
  | getActiveParentalConsentForChild (childUserID : String)
  | listActiveParentalConsentsForChild (childUserID : String)
  | markParentalConsentRevoked (consentID revokedByUserID : String) (atMs : Int)
  | createManagedChildAccount (u : User) (edge : GuardianEdge) (consent : ParentalConsentRecord)

def GuardianRequest.Response : GuardianRequest → Type
  | upsertGuardianEdge _ => Except Err Unit
  | deleteGuardianEdge _ _ => Unit
  | getGuardianEdge _ _ => Option GuardianEdge
  | listGuardiansOfChild _ _ _ => Except Err (List GuardianEdge)
  | listChildrenOfGuardian _ _ _ => Except Err (List GuardianEdge)
  | createParentalConsent _ => Except Err Unit
  | getActiveParentalConsentForChild _ => Option ParentalConsentRecord
  | listActiveParentalConsentsForChild _ => List ParentalConsentRecord
  | markParentalConsentRevoked _ _ _ => Except Err Unit
  | createManagedChildAccount _ _ _ => Except Err String

def GuardianRequest.handle (now : Int) (r : Repo) : (q : GuardianRequest) → q.Response × Repo
  | upsertGuardianEdge e => r.upsertGuardianEdge e
  | deleteGuardianEdge guardianUserID childUserID =>
    ((), r.deleteGuardianEdge now guardianUserID childUserID)
  | getGuardianEdge guardianUserID childUserID => (r.getGuardianEdge guardianUserID childUserID, r)
  | listGuardiansOfChild childUserID limit offset => (r.listGuardiansOfChild childUserID limit offset, r)
  | listChildrenOfGuardian guardianUserID limit offset =>
    (r.listChildrenOfGuardian guardianUserID limit offset, r)
  | createParentalConsent consent => r.createParentalConsent consent
  | getActiveParentalConsentForChild childUserID => (r.getActiveParentalConsentForChild childUserID, r)
  | listActiveParentalConsentsForChild childUserID => (r.listActiveParentalConsentsForChild childUserID, r)
  | markParentalConsentRevoked consentID revokedByUserID atMs =>
    r.markParentalConsentRevoked consentID revokedByUserID atMs
  | createManagedChildAccount u edge consent => r.createManagedChildAccount u edge consent

def GuardianRequest.timestamps : GuardianRequest → List Int
  | upsertGuardianEdge e => [e.createdAtMs]
  | createParentalConsent consent => [consent.grantedAt]
  | markParentalConsentRevoked _ _ atMs => [atMs]
  | createManagedChildAccount _ edge consent => [edge.createdAtMs, consent.grantedAt]
  | _ => []

/-- Operations on OAuth clients, delegated grants and machines. -/
inductive AgentRequest where
  | createOAuthClient (client : OAuthClient)
  | getOAuthClient (id : String)
  | updateOAuthClient (id : String) (expected : Int) (registration : OAuthClientRegistration) (atMs : Int)
  | createAgentAuthorization (request : AgentAuthorization)
  | getAgentAuthorization (id : String)
  | findAgentAuthorizationByCode (hash : String)
  | findAgentAuthorizationByRefresh (hash : String)
  | agentOAuthAuthority (ownerID agentID sid clientID : String)
  | mutateAgentAuthorization (id : String) (m : AgentOAuthMutation)
  | deleteExpiredAgentAuthorizations (beforeMs limit : Int)
  | createAgentMachine (input : AgentMachine) (fingerprint : String)
  | getAgentMachine (id : String)
  | mutateAgentMachine (id : String) (m : AgentMachineMutation)
  | agentMachineAuthority (id agent : String)
  | ensureAgentMachineDelegation (id : String) (candidate : AgentAuthorization)
      (enginePublicKey fingerprint : String)
  | getAgentMachineDelegation (machine agent : String)
  | createAgentMachineChallenge (input : AgentMachineChallenge)
  | getAgentMachineChallenge (id : String)
  | consumeAgentMachineChallenge (id : String) (now : Int)
  | deleteExpiredAgentMachineChallenges (before limit : Int)

def AgentRequest.Response : AgentRequest → Type
  | createOAuthClient _ => Except Err Unit
  | getOAuthClient _ => Option OAuthClient
  | updateOAuthClient _ _ _ _ => Except Err (Option OAuthClient)
  | createAgentAuthorization _ => Except Err Unit
  | getAgentAuthorization _ => Option AgentAuthorization
  | findAgentAuthorizationByCode _ => Option AgentAuthorization
  | findAgentAuthorizationByRefresh _ => Option AgentAuthorization
  | agentOAuthAuthority _ _ _ _ => AgentOAuthAuthority
  | mutateAgentAuthorization _ _ => Except Err AgentAuthorization
  | deleteExpiredAgentAuthorizations _ _ => Except Err Unit
  | createAgentMachine _ _ => Except Err (Option AgentMachine)
  | getAgentMachine _ => Option AgentMachine
  | mutateAgentMachine _ _ => Except Err AgentMachine
  | agentMachineAuthority _ _ => AgentOAuthAuthority
  | ensureAgentMachineDelegation _ _ _ _ => Except Err AgentAuthorization
  | getAgentMachineDelegation _ _ => Option AgentAuthorization
  | createAgentMachineChallenge _ => Except Err Unit
  | getAgentMachineChallenge _ => Option AgentMachineChallenge
  | consumeAgentMachineChallenge _ _ => Bool
  | deleteExpiredAgentMachineChallenges _ _ => Except Err Unit

def AgentRequest.handle (p : Platform) (r : Repo) : (q : AgentRequest) → q.Response × Repo
  | createOAuthClient client => r.createOAuthClient p client
  | getOAuthClient id => (r.oauthClients.lookup id, r)
  | updateOAuthClient id expected registration atMs => r.updateOAuthClient p id expected registration atMs
  | createAgentAuthorization request => r.createAgentAuthorization p request
  | getAgentAuthorization id => (r.getAgentAuthorization id, r)
  | findAgentAuthorizationByCode hash => (r.findAgentAuthorizationByCode hash, r)
  | findAgentAuthorizationByRefresh hash => (r.findAgentAuthorizationByRefresh hash, r)
  | agentOAuthAuthority ownerID agentID sid clientID => (r.oauthAuthorityLocked ownerID agentID sid clientID, r)
  | mutateAgentAuthorization id m => r.mutateAgentAuthorization p id m
  | deleteExpiredAgentAuthorizations beforeMs limit => r.deleteExpiredAgentAuthorizations beforeMs limit
  | createAgentMachine input fingerprint => r.createAgentMachine p input fingerprint
  | getAgentMachine id => (r.agentMachines.lookup id, r)
  | mutateAgentMachine id m => r.mutateAgentMachine p id m
  | agentMachineAuthority id agent => (r.agentMachineAuthority id agent, r)
  | ensureAgentMachineDelegation id candidate enginePublicKey fingerprint =>
    r.ensureAgentMachineDelegation p id candidate enginePublicKey fingerprint
  | getAgentMachineDelegation machine agent => (r.getAgentMachineDelegation machine agent, r)
  | createAgentMachineChallenge input => r.createAgentMachineChallenge input
  | getAgentMachineChallenge id => (r.agentMachineChallenges.lookup id, r)
  | consumeAgentMachineChallenge id now => r.consumeAgentMachineChallenge id now
  | deleteExpiredAgentMachineChallenges before limit => r.deleteExpiredAgentMachineChallenges before limit

def AgentRequest.timestamps : AgentRequest → List Int
  | createOAuthClient client => [client.createdAt, client.updatedAt]
  | updateOAuthClient _ _ _ atMs => [atMs]
  | createAgentAuthorization request => [request.createdAtMs, request.expiresAtMs]
  | mutateAgentAuthorization _ m => [m.atMs]
  | deleteExpiredAgentAuthorizations beforeMs _ => [beforeMs]
  | createAgentMachine input _ => [input.createdAtMs]
  | mutateAgentMachine _ m => [m.atMs]
  | ensureAgentMachineDelegation _ candidate _ _ => [candidate.createdAtMs]
  | createAgentMachineChallenge input => [input.createdAtMs, input.expiresAtMs]
  | consumeAgentMachineChallenge _ now => [now]
  | deleteExpiredAgentMachineChallenges before _ => [before]
  | _ => []

/-- What the environment supplies to one step: the clock in epoch milliseconds,
    which is past the epoch, and fresh random text. -/
structure Tick where
  now : Int
  pos : 0 < now
  rand : String := ""

/-- One atomic operation of the repository, a reading of the clock or of the random
    source, or the moment a password is held against an account's hash, which touches
    nothing. -/
inductive Request where
  | user (q : UserRequest)
  | session (q : SessionRequest)
  | guardian (q : GuardianRequest)
  | agent (q : AgentRequest)
  | signIn (q : SignInRequest)
  | credential (q : CredentialRequest)
  | clock
  | random
  | compare (password hash : String)

def Request.Response : Request → Type
  | user q => q.Response
  | session q => q.Response
  | guardian q => q.Response
  | agent q => q.Response
  | signIn q => q.Response
  | credential q => q.Response
  | clock => Int
  | random => String
  | compare _ _ => Unit

/-- The answer to an operation and the store after it. -/
def handle (p : Platform) : Handler Request.Response Tick Repo
  | .user q, tick, r => q.handle tick.now r
  | .session q, tick, r => q.handle tick.now r
  | .guardian q, tick, r => q.handle tick.now r
  | .agent q, _, r => q.handle p r
  | .signIn q, _, r => q.handle r
  | .credential q, _, r => q.handle r
  | .clock, tick, r => (tick.now, r)
  | .random, tick, r => (tick.rand, r)
  | .compare _ _, _, r => ((), r)

/-- The times an operation is told. -/
def Request.timestamps : Request → List Int
  | user q => q.timestamps
  | session q => q.timestamps
  | guardian q => q.timestamps
  | agent q => q.timestamps
  | signIn q => q.timestamps
  | credential q => q.timestamps
  | clock => []
  | random => []
  | compare _ _ => []

/-- The user ids an operation's caller chooses. An empty id asks for a generated one. -/
def Request.suppliedUserIDs : Request → List String
  | user (.createUser u) => [u.id]
  | guardian (.createManagedChildAccount u _ _) => [u.id]
  | _ => []

/-- An operation as callers may issue it: its times are past the epoch, and a user
    id it supplies is not one the store generates. -/
@[grind]
structure Request.Admissible (q : Request) : Prop where
  timestamps_pos : ∀ atMs ∈ q.timestamps, 0 < atMs
  ids_not_generated : ∀ id ∈ q.suppliedUserIDs, ∀ n, id ≠ memID n

/-- A finite sequence of operations, from a given store. -/
def run (p : Platform) (r : Repo) (ops : List (Request × Tick)) : Repo :=
  ops.foldl (fun r' op => (handle p op.1 op.2 r').2) r

/-- One step of a call on the store. -/
abbrev StoreEvent : Type := Event Request.Response

/-- The steps that have been taken, the last one first. -/
abbrev Trace : Type := List StoreEvent

def UserRequest.isRead : UserRequest → Bool
  | getUser _ => true
  | findUserByEmail _ => true
  | findUserByUsername _ => true
  | listUsersPendingDeletionBefore _ _ => true
  | findUserByProviderID _ _ => true
  | listOwnedAgents _ => true
  | _ => false

def SessionRequest.isRead : SessionRequest → Bool
  | getSessionBySid _ => true
  | findRefreshTokenByHash _ => true
  | findRefreshTokenByHashIncludingConsumed _ => true
  | queryRefreshTokenNodes _ => true
  | _ => false

def GuardianRequest.isRead : GuardianRequest → Bool
  | getGuardianEdge _ _ => true
  | listGuardiansOfChild _ _ _ => true
  | listChildrenOfGuardian _ _ _ => true
  | getActiveParentalConsentForChild _ => true
  | listActiveParentalConsentsForChild _ => true
  | _ => false

def AgentRequest.isRead : AgentRequest → Bool
  | getOAuthClient _ => true
  | getAgentAuthorization _ => true
  | findAgentAuthorizationByCode _ => true
  | findAgentAuthorizationByRefresh _ => true
  | agentOAuthAuthority _ _ _ _ => true
  | getAgentMachine _ => true
  | agentMachineAuthority _ _ => true
  | getAgentMachineDelegation _ _ => true
  | getAgentMachineChallenge _ => true
  | _ => false

def SignInRequest.isRead : SignInRequest → Bool
  | findQrLoginSession _ => true
  | findCode _ _ => true
  | findInvitationByHash _ => true
  | _ => false

def CredentialRequest.isRead : CredentialRequest → Bool
  | listPasskeyCredentials _ => true
  | getPasskeyCredentialByCredID _ => true
  | getPasskeyChallenge _ => true
  | getTotpCredential _ => true
  | findRecoveryCodeByHash _ _ => true
  | getLoginChallengeByChallengeID _ => true
  | listOAuthIdentitiesForUser _ => true
  | findEmailTokenByHash _ _ => true
  | _ => false

/-- The operations that only look. -/
def Request.isRead : Request → Bool
  | user q => q.isRead
  | session q => q.isRead
  | guardian q => q.isRead
  | agent q => q.isRead
  | signIn q => q.isRead
  | credential q => q.isRead
  | clock => true
  | random => true
  | compare _ _ => true

/-- The lookups of what can be presented once: a mailed token, an invitation, a recovery
    code, a login challenge, a refresh token. -/
def Request.findsSlip : Request → Bool
  | session (.findRefreshTokenByHashIncludingConsumed _) => true
  | credential (.findEmailTokenByHash _ _) => true
  | credential (.findRecoveryCodeByHash _ _) => true
  | credential (.getLoginChallengeByChallengeID _) => true
  | signIn (.findInvitationByHash _) => true
  | _ => false

/-- The other reads. -/
def Request.isPlain (q : Request) : Bool := q.isRead && !q.findsSlip

lemma isRead_of_isPlain {q : Request} (hplain : q.isPlain = true) : q.isRead = true :=
  (Bool.and_eq_true_iff.mp hplain).1

/-- Looking leaves the store as it is. -/
lemma handle_isRead (hread : q.isRead = true) (p : Platform) (tick : Tick) (r : Repo) : (handle p q tick r).2 = r := by
  cases q with
  | user q | session q | guardian q | agent q => cases q <;> first | rfl | cases hread
  | signIn q =>
    cases q with
    | findCode channel holder => cases channel <;> rfl
    | _ => first | rfl | cases hread
  | credential q =>
    cases q with
    | findEmailTokenByHash kind hash => cases kind <;> rfl
    | _ => first | rfl | cases hread
  | clock | random | compare => rfl

end identity.repository
