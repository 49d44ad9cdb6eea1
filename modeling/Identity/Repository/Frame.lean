import Identity.Memory.Frame
import Identity.Repository.Request

open identity.service identity.memory
namespace identity.repository
open AgentRequest (handle)
open CredentialRequest (handle)
open GuardianRequest (handle)
open Nat (le_succ)

/-- The operations on user rows that touch no other table. -/
def UserRequest.usersOnly : UserRequest → Bool
  | deleteUser _ => false
  | deleteStaleAnonymousUsers _ _ => false
  | applyAccountMerge _ => false
  | _ => true

/-- The operations that write one account's row. -/
def UserRequest.onAccount : UserRequest → Bool
  | updateUser _ _ => true
  | setDateOfBirthOnce _ _ _ _ => true
  | incrementFailedLoginCount _ => true
  | resetFailedLoginCount _ => true
  | setUserLockedUntil _ _ => true
  | setUserPhoneVerified _ _ _ => true
  | setUserEmailVerified _ _ _ _ => true
  | setUserIDVVerified _ _ => true
  | updateUserEmail _ _ _ => true
  | assignAccountAddress _ _ => true
  | settleAgentTransfer _ _ _ _ => true
  | setAgentOwnership _ _ _ _ _ => true
  | _ => false

lemma UserRequest.handle_accountStep {q : UserRequest} (honly : q.onAccount = true) (now : Int) (r : Repo) :
    ∃ userID atMs, (atMs = now ∨ atMs ∈ q.timestamps) ∧ UserWrite r userID atMs (q.handle now r).2 := by
  have hsame : ∀ u, u.id = u.id ∧ agentOAuthAuthorityLost (some u) (some u) = false ∧
      agentCreationAuthorityLost u u = false := fun u => ⟨rfl, authority_kept_self u, creation_kept_self u⟩
  cases q with
  | updateUser userID patch => exact ⟨_, _, .inl rfl, updateUser_step r userID now patch⟩
  | setDateOfBirthOnce userID dobMs status nowMs =>
    exact ⟨_, _, .inr List.mem_cons_self, setDateOfBirthOnce_step r userID nowMs dobMs status⟩
  | incrementFailedLoginCount userID => exact ⟨_, _, .inl rfl, incrementFailedLoginCount_step r userID now⟩
  | resetFailedLoginCount userID | setUserLockedUntil userID | setUserPhoneVerified userID =>
    exact ⟨_, _, .inl rfl, touchUser_step r userID now hsame⟩
  | setUserEmailVerified userID email atMs clearPassword =>
    exact ⟨_, _, .inr List.mem_cons_self, setUserEmailVerified_step r userID atMs email clearPassword⟩
  | setUserIDVVerified userID atMs => exact ⟨_, _, .inr List.mem_cons_self, setUserIDVVerified_step r userID atMs⟩
  | updateUserEmail userID newEmail atMs =>
    exact ⟨_, _, .inr List.mem_cons_self, updateUserEmail_step r userID atMs newEmail⟩
  | assignAccountAddress userID address => exact ⟨_, _, .inl rfl, assignAccountAddress_step r userID now address⟩
  | settleAgentTransfer agentID pendingOwnerID accept atMs =>
    exact ⟨_, _, .inr List.mem_cons_self, settleAgentTransfer_step r agentID atMs pendingOwnerID accept⟩
  | setAgentOwnership agentID expectedOwnerID ownerID pendingOwnerID atMs =>
    exact ⟨_, _, .inr List.mem_cons_self, setAgentOwnership_step r agentID atMs expectedOwnerID ownerID pendingOwnerID⟩
  | _ => cases honly

lemma UserRequest.handle_usersOnly {q : UserRequest} (honly : q.usersOnly = true) (now : Int) (r : Repo) :
    UsersOnly r (q.handle now r).2 := by
  by_cases haccount : q.onAccount = true
  · obtain ⟨userID, atMs, -, hstep⟩ := handle_accountStep haccount now r
    exact hstep.usersOnly
  cases q with
  | createUser u =>
    dsimp only [handle, Repo.createUser]
    split
    · rfl
    · exact insertUser_usersOnly r u
  | updateUserNode userID patch =>
    dsimp only [handle, Repo.updateUserNode]
    split
    · rfl
    · exact writeUser_usersOnly r userID _ _ now
  | createAgent request => exact createAgent_usersOnly r request
  | _ => first | rfl | exact absurd rfl haccount | cases honly

lemma SessionRequest.handle_sessionsOnly (q : SessionRequest) (now : Int) (r : Repo) :
    SessionsOnly r (q.handle now r).2 := by
  cases q with
  | createSession s =>
    dsimp only [handle, Repo.createSession]
    split
    · rfl
    split
    · rfl
    split
    · rfl
    · exact ⟨rfl, le_succ _⟩
  | revokeSession sid atMs =>
    dsimp only [handle, Repo.revokeSession]
    split
    · rfl
    split
    · rfl
    · exact revokeSessionRow_sessionsOnly r _ atMs
  | revokeSessionsForUser userID atMs => exact revokeSessionsForUser_sessionsOnly r userID atMs
  | createRefreshToken t => exact ⟨rfl, le_succ _⟩
  | deleteRefreshToken nodeID => exact deleteRefreshToken_sessionsOnly r now nodeID
  | deleteRefreshTokensForUser userID => exact deleteRefreshTokensForUser_sessionsOnly r now userID
  | consumeRefreshTokenByHash hash atMs =>
    dsimp only [handle, Repo.consumeRefreshTokenByHash]
    split
    · rfl
    split
    · rfl
    · exact ⟨rfl, le_rfl⟩
  | _ => rfl

def GuardianRequest.guardiansOnly : GuardianRequest → Bool
  | createManagedChildAccount _ _ _ => false
  | _ => true

lemma GuardianRequest.handle_guardiansOnly {q : GuardianRequest} (honly : q.guardiansOnly = true) (now : Int)
    (r : Repo) : GuardiansOnly r (q.handle now r).2 := by
  cases q with
  | upsertGuardianEdge | createParentalConsent =>
    dsimp only [handle, Repo.upsertGuardianEdge, Repo.createParentalConsent]
    split
    · rfl
    split
    · rfl
    · exact ⟨rfl⟩
  | deleteGuardianEdge guardianUserID childUserID =>
    dsimp only [handle, Repo.deleteGuardianEdge]
    split
    · exact ⟨by rw [(revokeAgentOAuthOwnerLocked_grantsOnly r childUserID now).frame]⟩
    · rfl
  | markParentalConsentRevoked consentID revokedByUserID atMs =>
    dsimp only [handle, Repo.markParentalConsentRevoked]
    split
    · rfl
    · exact ⟨rfl⟩
  | createManagedChildAccount u edge consent => cases honly
  | _ => rfl

/-- A guardian's operation touches user rows, if any, before the edges and consents. -/
lemma GuardianRequest.handle_frame (q : GuardianRequest) (now : Int) (r : Repo) :
    ∃ r1, UsersOnly r r1 ∧ GuardiansOnly r1 (q.handle now r).2 := by
  by_cases honly : q.guardiansOnly = true
  · exact ⟨r, .refl r, handle_guardiansOnly honly now r⟩
  cases q with
  | createManagedChildAccount u edge consent => exact createManagedChildAccount_frame r u edge consent
  | _ => exact absurd rfl honly

lemma AgentRequest.handle_agentsOnly (p : Platform) (r : Repo) (q : AgentRequest) : AgentsOnly r (q.handle p r).2 := by
  cases q with
  | createOAuthClient | mutateAgentMachine | consumeAgentMachineChallenge =>
    dsimp only [handle, Repo.createOAuthClient, Repo.mutateAgentMachine, Repo.consumeAgentMachineChallenge]
    split
    · rfl
    split
    · rfl
    · exact ⟨rfl⟩
  | createAgentMachineChallenge input =>
    dsimp only [handle, Repo.createAgentMachineChallenge]
    split
    · rfl
    split
    · rfl
    · grind
  | updateOAuthClient id expected registration atMs =>
    exact updateOAuthClient_agentsOnly r p id expected registration atMs
  | createAgentAuthorization request =>
    dsimp only [handle, Repo.createAgentAuthorization]
    split
    · rfl
    split
    · rfl
    split
    · rfl
    split
    · rfl
    · exact ⟨rfl⟩
  | mutateAgentAuthorization id m => exact mutateAgentAuthorization_agentsOnly r p id m
  | deleteExpiredAgentAuthorizations beforeMs limit =>
    exact deleteExpiredAgentAuthorizations_agentsOnly r beforeMs limit
  | createAgentMachine input fingerprint => exact createAgentMachine_agentsOnly r p input fingerprint
  | ensureAgentMachineDelegation id candidate enginePublicKey fingerprint =>
    exact ensureAgentMachineDelegation_agentsOnly r p id candidate enginePublicKey fingerprint
  | deleteExpiredAgentMachineChallenges before limit =>
    dsimp only [handle, Repo.deleteExpiredAgentMachineChallenges]
    split
    · rfl
    · exact ⟨rfl⟩
  | _ => rfl

lemma SignInRequest.handle_signInOnly (r : Repo) (q : SignInRequest) : SignInOnly r (q.handle r).2 := by
  cases q with
  | findQrLoginSession | findInvitationByHash => rfl
  | createQrLoginSession | createInvitation => exact ⟨rfl, le_succ _⟩
  | updateQrLoginSession | updateInvitation =>
    dsimp only [handle, Repo.updateQrLoginSession, Repo.updateInvitation]
    split
    · rfl
    · exact ⟨rfl, le_rfl⟩
  | consumeQrLoginSession nodeID atMs =>
    dsimp only [handle, Repo.consumeQrLoginSession]
    split
    · rfl
    split
    · rfl
    · exact ⟨rfl, le_rfl⟩
  | upsertCode channel code => cases channel <;> exact upsertCode_signInOnly r _ code
  | findCode channel holder => cases channel <;> rfl
  | incrementCodeAttempts channel nodeID => cases channel <;> exact incrementCodeAttempts_signInOnly r _ _ nodeID
  | consumeCode channel holder atMs => cases channel <;> exact consumeCode_signInOnly r _ holder atMs

lemma CredentialRequest.handle_credentialsOnly (r : Repo) (q : CredentialRequest) :
    CredentialsOnly r (q.handle r).2 := by
  cases q with
  | createPasskeyCredential | createPasskeyChallenge | createTotpCredential | createRecoveryCode | createLoginChallenge
  | createMagicLinkToken => exact ⟨rfl, le_succ _⟩
  | deletePasskeyChallenge | deleteLoginChallenge => exact ⟨rfl, le_rfl⟩
  | updatePasskeyCredential | deletePasskeyCredentialsForUser | deletePasskeyCredential | updateTotpCredential
  | updateRecoveryCode | deleteOAuthIdentity =>
    dsimp only [handle, Repo.updatePasskeyCredential, Repo.deletePasskeyCredentialsForUser,
      Repo.deletePasskeyCredential, Repo.updateTotpCredential, Repo.updateRecoveryCode, Repo.deleteOAuthIdentity]
    split
    · rfl
    · exact ⟨rfl, le_rfl⟩
  | createOAuthIdentity oi =>
    dsimp only [handle, Repo.createOAuthIdentity]
    split
    · rfl
    · exact ⟨rfl, le_succ _⟩
  | createEmailToken kind t => cases kind <;> exact ⟨rfl, le_succ _⟩
  | findEmailTokenByHash kind hash => cases kind <;> rfl
  | markEmailTokenConsumed kind id atMs => cases kind <;> exact markEmailTokenConsumed_credentialsOnly r _ id atMs
  | consumeMagicLinkToken tokenHash atMs =>
    dsimp only [handle, Repo.consumeMagicLinkToken]
    split
    · rfl
    split
    · rfl
    · exact ⟨rfl, le_rfl⟩
  | _ => rfl

/-! Which operations leave a table alone. -/

def Request.leavesUsers : Request → Bool
  | user q => q.isRead
  | guardian q => q.guardiansOnly
  | _ => true

def Request.leavesSessions : Request → Bool
  | user q => q.usersOnly
  | session q => q.isRead
  | _ => true

def Request.leavesCredentials : Request → Bool
  | user q => q.usersOnly
  | credential q => q.isRead
  | _ => true

/-- QR sessions, one-time codes and invitations. -/
def Request.leavesSignIns : Request → Bool
  | user q => q.usersOnly
  | signIn q => q.isRead
  | _ => true

section
variable (p : Platform) (tick : Tick) (r : Repo)

lemma handle_users (hleaves : q.leavesUsers = true) : (handle p q tick r).2.users = r.users := by
  cases q with
  | user q =>
    have hread : (Request.user q).isRead = true := hleaves
    rw [handle_isRead hread]
  | session q => exact (q.handle_sessionsOnly tick.now r).users
  | guardian q => exact (GuardianRequest.handle_guardiansOnly hleaves tick.now r).users
  | agent q => exact (q.handle_agentsOnly p r).users
  | signIn q => exact (q.handle_signInOnly r).users
  | credential q => exact (q.handle_credentialsOnly r).users
  | clock | random | compare => rfl

lemma handle_sessions (hleaves : q.leavesSessions = true) : SameSessions r (handle p q tick r).2 := by
  cases q with
  | user q => exact (UserRequest.handle_usersOnly hleaves tick.now r).sessions
  | session q =>
    have hread : (Request.session q).isRead = true := hleaves
    rw [handle_isRead hread]
  | guardian q =>
    obtain ⟨r1, husers, hguardians⟩ := q.handle_frame tick.now r
    exact husers.sessions.trans hguardians.sessions
  | agent q => exact (q.handle_agentsOnly p r).sessions
  | signIn q => exact (q.handle_signInOnly r).sessions
  | credential q => exact (q.handle_credentialsOnly r).sessions
  | clock | random | compare => rfl

lemma handle_credentials (hleaves : q.leavesCredentials = true) : SameCredentials r (handle p q tick r).2 := by
  cases q with
  | user q => exact (UserRequest.handle_usersOnly hleaves tick.now r).credentials
  | session q => exact (q.handle_sessionsOnly tick.now r).credentials
  | guardian q =>
    obtain ⟨r1, husers, hguardians⟩ := q.handle_frame tick.now r
    exact husers.credentials.trans hguardians.credentials
  | agent q => exact (q.handle_agentsOnly p r).credentials
  | signIn q => exact (q.handle_signInOnly r).credentials
  | credential q =>
    have hread : (Request.credential q).isRead = true := hleaves
    rw [handle_isRead hread]
  | clock | random | compare => rfl

lemma handle_signIns (hleaves : q.leavesSignIns = true) : SameSignIns r (handle p q tick r).2 := by
  cases q with
  | user q => exact (UserRequest.handle_usersOnly hleaves tick.now r).signIns
  | session q => exact (q.handle_sessionsOnly tick.now r).signIns
  | guardian q =>
    obtain ⟨r1, husers, hguardians⟩ := q.handle_frame tick.now r
    exact husers.signIns.trans hguardians.signIns
  | agent q => exact (q.handle_agentsOnly p r).signIns
  | signIn q =>
    have hread : (Request.signIn q).isRead = true := hleaves
    rw [handle_isRead hread]
  | credential q => exact (q.handle_credentialsOnly r).signIns
  | clock | random | compare => rfl

end
end identity.repository
