import Identity.Memory.AgentOAuth
import Identity.Memory.Codes
import Identity.Memory.Credentials
import Identity.Memory.Guardians

open identity.service
namespace identity.memory
open Repo

/-! What each kind of step leaves alone: the store after it is the store before it
with a few named tables replaced. -/

/-- No session and no refresh token has changed. -/
@[grind]
structure SameSessions (r r' : Repo) : Prop where
  sessions : r'.sessions = r.sessions
  refreshTokens : r'.refreshTokens = r.refreshTokens

/-- No QR session, one-time code or invitation has changed. -/
@[grind]
structure SameSignIns (r r' : Repo) : Prop where
  qrSessions : r'.qrSessions = r.qrSessions
  emailLoginCodes : r'.emailLoginCodes = r.emailLoginCodes
  phoneVerifyCodes : r'.phoneVerifyCodes = r.phoneVerifyCodes
  invitations : r'.invitations = r.invitations

/-- No credential and no mailed token has changed. -/
@[grind]
structure SameCredentials (r r' : Repo) : Prop where
  passkeyCreds : r'.passkeyCreds = r.passkeyCreds
  passkeyChallenges : r'.passkeyChallenges = r.passkeyChallenges
  totpCreds : r'.totpCreds = r.totpCreds
  recoveryCodes : r'.recoveryCodes = r.recoveryCodes
  loginChallenges : r'.loginChallenges = r.loginChallenges
  oauthIdentities : r'.oauthIdentities = r.oauthIdentities
  passwordResets : r'.passwordResets = r.passwordResets
  emailVerifications : r'.emailVerifications = r.emailVerifications
  emailChanges : r'.emailChanges = r.emailChanges
  magicLinkTokens : r'.magicLinkTokens = r.magicLinkTokens

variable (r : Repo)

@[refl] lemma SameSessions.refl : SameSessions r r := ⟨rfl, rfl⟩

lemma SameSessions.trans (h12 : SameSessions r1 r2) (h23 : SameSessions r2 r3) :
    SameSessions r1 r3 :=
  ⟨h23.sessions.trans h12.sessions, h23.refreshTokens.trans h12.refreshTokens⟩

@[refl] lemma SameSignIns.refl : SameSignIns r r := ⟨rfl, rfl, rfl, rfl⟩

@[refl] lemma SameCredentials.refl : SameCredentials r r := ⟨rfl, rfl, rfl, rfl, rfl, rfl, rfl, rfl, rfl, rfl⟩

lemma SameSignIns.trans (h12 : SameSignIns r1 r2) (h23 : SameSignIns r2 r3) : SameSignIns r1 r3 where
  qrSessions := h23.qrSessions.trans h12.qrSessions
  emailLoginCodes := h23.emailLoginCodes.trans h12.emailLoginCodes
  phoneVerifyCodes := h23.phoneVerifyCodes.trans h12.phoneVerifyCodes
  invitations := h23.invitations.trans h12.invitations

lemma SameCredentials.trans (h12 : SameCredentials r1 r2) (h23 : SameCredentials r2 r3) : SameCredentials r1 r3 where
  passkeyCreds := h23.passkeyCreds.trans h12.passkeyCreds
  passkeyChallenges := h23.passkeyChallenges.trans h12.passkeyChallenges
  totpCreds := h23.totpCreds.trans h12.totpCreds
  recoveryCodes := h23.recoveryCodes.trans h12.recoveryCodes
  loginChallenges := h23.loginChallenges.trans h12.loginChallenges
  oauthIdentities := h23.oauthIdentities.trans h12.oauthIdentities
  passwordResets := h23.passwordResets.trans h12.passwordResets
  emailVerifications := h23.emailVerifications.trans h12.emailVerifications
  emailChanges := h23.emailChanges.trans h12.emailChanges
  magicLinkTokens := h23.magicLinkTokens.trans h12.magicLinkTokens

/-- Only grants and machines change. -/
@[grind]
structure GrantsOnly (r r' : Repo) : Prop where
  frame : r' = { r with
    agentAuthorizations := r'.agentAuthorizations
    agentMachines := r'.agentMachines }

@[refl] lemma GrantsOnly.refl : GrantsOnly r r := ⟨rfl⟩

lemma GrantsOnly.trans (h12 : GrantsOnly r1 r2) (h23 : GrantsOnly r2 r3) : GrantsOnly r1 r3 :=
  ⟨by rw [h23.frame, h12.frame]⟩

lemma revokeAgentMachineLocked_grantsOnly (key : String) (atMs : Int) :
    GrantsOnly r (r.revokeAgentMachineLocked key atMs) := by
  unfold revokeAgentMachineLocked
  split
  · rfl
  split
  · exact ⟨rfl⟩
  · exact ⟨rfl⟩

lemma revokeMachines_grantsOnly (p : AgentMachine → Bool) (atMs : Int) : GrantsOnly r (r.revokeMachines p atMs) := by
  unfold revokeMachines
  induction r.agentMachines.entries.filter fun entry => p entry.2 generalizing r with
  | nil => rfl
  | cons entry rest ih => exact (revokeAgentMachineLocked_grantsOnly r entry.1 atMs).trans (ih _)

lemma revokeAgentOAuthUserLocked_grantsOnly (before after : Option User) (atMs : Int) :
    GrantsOnly r (r.revokeAgentOAuthUserLocked before after atMs) := by
  unfold revokeAgentOAuthUserLocked
  split
  · rfl
  split
  · exact (revokeMachines_grantsOnly r _ atMs).trans ⟨rfl⟩
  · rfl

lemma revokeAgentOAuthOwnerLocked_grantsOnly (owner : String) (atMs : Int) :
    GrantsOnly r (r.revokeAgentOAuthOwnerLocked owner atMs) :=
  (revokeMachines_grantsOnly r _ atMs).trans ⟨rfl⟩

/-- A step on user rows: they change, and the creation receipts, grants and machines
    that rest on them, and nothing else but the id counter. -/
@[grind]
structure UsersOnly (r r' : Repo) : Prop where
  frame : r' = { r with
    seq := r'.seq
    users := r'.users
    agentCreations := r'.agentCreations
    agentAuthorizations := r'.agentAuthorizations
    agentMachines := r'.agentMachines }
  seq_le : r.seq ≤ r'.seq

@[refl] lemma UsersOnly.refl : UsersOnly r r := ⟨rfl, le_rfl⟩

lemma UsersOnly.trans (h12 : UsersOnly r1 r2) (h23 : UsersOnly r2 r3) : UsersOnly r1 r3 :=
  ⟨by rw [h23.frame, h12.frame], h12.seq_le.trans h23.seq_le⟩

lemma UsersOnly.sessions (h : UsersOnly r r') : SameSessions r r' := ⟨by rw [h.frame], by rw [h.frame]⟩

lemma UsersOnly.signIns (h : UsersOnly r r') : SameSignIns r r' := by
  rw [h.frame]
  constructor <;> rfl

lemma UsersOnly.credentials (h : UsersOnly r r') : SameCredentials r r' := by
  rw [h.frame]
  constructor <;> rfl

variable (userID : String)

/-- A row is overwritten by the row it is given, and no other row changes. -/
@[simp]
lemma writeUser_users (before after : User) (atMs : Int) :
    (r.writeUser userID before after atMs).users = r.users.insert userID after := by
  unfold writeUser
  rw [(revokeAgentOAuthUserLocked_grantsOnly _ (some before) (some after) atMs).frame]

lemma writeUser_usersOnly (before after : User) (atMs : Int) : UsersOnly r (r.writeUser userID before after atMs) := by
  unfold writeUser
  have hframe := (revokeAgentOAuthUserLocked_grantsOnly
    { r with users := r.users.insert userID after } (some before) (some after) atMs).frame
  exact ⟨by rw [hframe], by rw [hframe]⟩

lemma fenceAgentCreations_usersOnly (before after : User) :
    UsersOnly r (r.fenceAgentCreations userID before after) := by
  unfold fenceAgentCreations
  split
  · exact ⟨rfl, le_rfl⟩
  · rfl

@[simp]
lemma fenceAgentCreations_users (before after : User) :
    (r.fenceAgentCreations userID before after).users = r.users := by
  unfold fenceAgentCreations
  split
  · rfl
  · rfl

lemma insertUser_usersOnly (u : User) : UsersOnly r (r.insertUser u).2 := by
  unfold insertUser
  split
  · exact ⟨rfl, Nat.le_succ _⟩
  split
  · rfl
  · exact ⟨rfl, le_rfl⟩

/-- What an operation on one account may do: nothing, write a column that no authority rests on,
    or overwrite the row, behind a fence where a creation may rest on what it loses. -/
inductive UserWrite (r : Repo) (userID : String) (atMs : Int) : Repo → Prop
  | same : UserWrite r userID atMs r
  | touch {u after : User} (hu : r.users.lookup userID = some u) (hid : after.id = u.id)
      (hkept : agentOAuthAuthorityLost (some u) (some after) = false)
      (hcreation : agentCreationAuthorityLost u after = false) :
      UserWrite r userID atMs { r with users := r.users.insert userID after }
  | write {u after : User} (hu : r.users.lookup userID = some u) (hid : after.id = u.id)
      (hcreation : agentCreationAuthorityLost u after = false) :
      UserWrite r userID atMs (r.writeUser userID u after atMs)
  | fenced {u after : User} (hu : r.users.lookup userID = some u) (hid : after.id = u.id) :
      UserWrite r userID atMs ((r.fenceAgentCreations userID u after).writeUser userID u after atMs)

section UserWrite

lemma UserWrite.usersOnly (h : UserWrite r userID atMs r') : UsersOnly r r' := by
  cases h with
  | same => exact .refl _
  | touch => exact ⟨rfl, le_rfl⟩
  | write => exact writeUser_usersOnly ..
  | fenced => exact (fenceAgentCreations_usersOnly ..).trans (writeUser_usersOnly ..)

variable (r : Repo) (userID : String) (atMs : Int)

lemma updateUser_step (patch : Fields) : UserWrite r userID atMs (r.updateUser atMs userID patch).2 := by
  unfold updateUser
  split
  · exact .same
  rename_i u hu
  split
  · exact .same
  · exact .fenced hu (applyUserFields_id u patch)

lemma setDateOfBirthOnce_step (dobMs : Int) (status : String) :
    UserWrite r userID atMs (r.setDateOfBirthOnce userID dobMs status atMs).2 := by
  unfold setDateOfBirthOnce
  split
  · exact .same
  split
  · exact .same
  rename_i u hu
  split
  · exact .same
  · exact .fenced hu rfl

lemma touchUser_step (hf : ∀ u, (f u).id = u.id ∧
      agentOAuthAuthorityLost (some u) (some (f u)) = false ∧ agentCreationAuthorityLost u (f u) = false) :
    UserWrite r userID atMs (r.touchUser userID f).2 := by
  unfold touchUser
  split
  · exact .same
  · rename_i u hu
    exact .touch hu (hf u).1 (hf u).2.1 (hf u).2.2

lemma incrementFailedLoginCount_step : UserWrite r userID atMs (r.incrementFailedLoginCount userID).2 := by
  unfold incrementFailedLoginCount
  split
  · exact .same
  rename_i u hu
  split
  · exact .same
  · exact .touch hu rfl (authority_kept_self u) (creation_kept_self u)

lemma assignAccountAddress_step (address : String) :
    UserWrite r userID atMs (r.assignAccountAddress userID address).2 := by
  unfold assignAccountAddress
  split
  · exact .same
  split
  · exact .same
  rename_i u hu
  split
  · exact .same
  split
  · exact .same
  · exact .touch hu rfl (authority_kept_self u) (creation_kept_self u)

lemma setUserEmailVerified_step (email : String) (clearPassword : Bool) :
    UserWrite r userID atMs (r.setUserEmailVerified userID email atMs clearPassword).2 := by
  unfold setUserEmailVerified
  split
  · exact .same
  split
  · exact .same
  rename_i u hu
  split
  · exact .same
  refine .write hu ?_ ?_
  · cases clearPassword <;> rfl
  · cases clearPassword <;> exact creation_kept_self u

lemma setUserIDVVerified_step : UserWrite r userID atMs (r.setUserIDVVerified userID atMs).2 := by
  unfold setUserIDVVerified
  split
  · exact .same
  · rename_i u hu
    exact .write hu rfl (creation_kept_self u)

lemma updateUserEmail_step (newEmail : String) :
    UserWrite r userID atMs (r.updateUserEmail userID newEmail atMs).2 := by
  unfold updateUserEmail
  split
  · exact .same
  rename_i u hu
  split
  · exact .same
  · exact .write hu rfl (creation_kept_self u)

lemma changeAgent_step (hchange : ∀ u after, change u = some after → after.id = u.id) :
    UserWrite r userID atMs (r.changeAgent userID change atMs).2 := by
  unfold changeAgent
  split
  · exact .same
  rename_i u hu
  split
  · exact .same
  · rename_i after hafter
    exact .fenced hu (hchange u after hafter)

lemma settledAgent_id (hafter : settledAgent u pendingOwnerID accept atMs = some after) : after.id = u.id := by
  unfold settledAgent at hafter
  split at hafter
  · cases hafter
  · cases hafter
    rfl

lemma ownedAgent_id
    (hafter : ownedAgent u expectedOwnerID ownerID pendingOwnerID atMs = some after) : after.id = u.id := by
  unfold ownedAgent at hafter
  split at hafter
  · cases hafter
  · cases hafter
    rfl

lemma settleAgentTransfer_step (pendingOwnerID : String) (accept : Bool) :
    UserWrite r userID atMs (r.settleAgentTransfer userID pendingOwnerID accept atMs).2 := by
  unfold settleAgentTransfer
  split
  · exact .same
  · exact changeAgent_step r userID atMs fun _ _ => settledAgent_id atMs

lemma setAgentOwnership_step (expectedOwnerID ownerID pendingOwnerID : String) :
    UserWrite r userID atMs (r.setAgentOwnership userID expectedOwnerID ownerID pendingOwnerID atMs).2 := by
  unfold setAgentOwnership
  split
  · exact .same
  · exact changeAgent_step r userID atMs fun _ _ => ownedAgent_id atMs

end UserWrite

/-- A step on sessions and refresh tokens: they change, the grants that rest on them,
    and the id counter. -/
@[grind]
structure SessionsOnly (r r' : Repo) : Prop where
  frame : r' = { r with
    seq := r'.seq
    sessions := r'.sessions
    refreshTokens := r'.refreshTokens
    agentAuthorizations := r'.agentAuthorizations
    agentMachines := r'.agentMachines }
  seq_le : r.seq ≤ r'.seq

@[refl] lemma SessionsOnly.refl : SessionsOnly r r := ⟨rfl, le_rfl⟩

lemma SessionsOnly.trans (h12 : SessionsOnly r1 r2) (h23 : SessionsOnly r2 r3) :
    SessionsOnly r1 r3 := ⟨by rw [h23.frame, h12.frame], h12.seq_le.trans h23.seq_le⟩

lemma SessionsOnly.users (h : SessionsOnly r r') : r'.users = r.users := by rw [h.frame]

lemma SessionsOnly.signIns (h : SessionsOnly r r') : SameSignIns r r' := by
  rw [h.frame]
  constructor <;> rfl

lemma SessionsOnly.credentials (h : SessionsOnly r r') : SameCredentials r r' := by
  rw [h.frame]
  constructor <;> rfl

/-- A loop of such steps is such a step. -/
lemma foldl_sessionsOnly {step : Repo → α → Repo} (hstep : ∀ r x, SessionsOnly r (step r x))
    (visited : List α) (r : Repo) : SessionsOnly r (visited.foldl step r) := by
  induction visited generalizing r with
  | nil => rfl
  | cons x rest ih => exact (hstep r x).trans (ih _)

lemma revokeSessionRow_sessionsOnly (key : String) (atMs : Int) : SessionsOnly r (r.revokeSessionRow key atMs) := by
  unfold revokeSessionRow
  split
  · rfl
  split
  · exact ⟨rfl, le_rfl⟩
  · rfl

lemma revokeSessionsForUser_sessionsOnly (atMs : Int) : SessionsOnly r (r.revokeSessionsForUser userID atMs) := by
  unfold revokeSessionsForUser
  split
  · rfl
  · exact foldl_sessionsOnly (fun r' _ => revokeSessionRow_sessionsOnly r' _ atMs) _ r

lemma deleteRefreshToken_sessionsOnly (now : Int) (nodeID : String) :
    SessionsOnly r (r.deleteRefreshToken now nodeID) := by
  unfold deleteRefreshToken
  split
  · rfl
  · exact ⟨rfl, le_rfl⟩

lemma deleteRefreshTokensForUser_sessionsOnly (now : Int) (userID : String) :
    SessionsOnly r (r.deleteRefreshTokensForUser now userID) := by
  refine foldl_sessionsOnly (fun r' entry => ?_) _ r
  exact ⟨rfl, le_rfl⟩

/-- A step on guardian edges and consents: they change, and the grants and machines
    that end with an edge. -/
@[grind]
structure GuardiansOnly (r r' : Repo) : Prop where
  frame : r' = { r with
    guardianEdges := r'.guardianEdges
    parentalConsents := r'.parentalConsents
    agentAuthorizations := r'.agentAuthorizations
    agentMachines := r'.agentMachines }

@[refl] lemma GuardiansOnly.refl : GuardiansOnly r r := ⟨rfl⟩

section
variable (h : GuardiansOnly r r')
include h

lemma GuardiansOnly.seq : r'.seq = r.seq := by rw [h.frame]

lemma GuardiansOnly.users : r'.users = r.users := by rw [h.frame]

lemma GuardiansOnly.sessions : SameSessions r r' := ⟨by rw [h.frame], by rw [h.frame]⟩

lemma GuardiansOnly.signIns : SameSignIns r r' := by
  rw [h.frame]
  constructor <;> rfl

lemma GuardiansOnly.credentials : SameCredentials r r' := by
  rw [h.frame]
  constructor <;> rfl

end

/-- A step on credentials and mailed tokens. -/
@[grind]
structure CredentialsOnly (r r' : Repo) : Prop where
  frame : r' = { r with
    seq := r'.seq
    passkeyCreds := r'.passkeyCreds
    passkeyChallenges := r'.passkeyChallenges
    totpCreds := r'.totpCreds
    recoveryCodes := r'.recoveryCodes
    loginChallenges := r'.loginChallenges
    oauthIdentities := r'.oauthIdentities
    passwordResets := r'.passwordResets
    emailVerifications := r'.emailVerifications
    emailChanges := r'.emailChanges
    magicLinkTokens := r'.magicLinkTokens }
  seq_le : r.seq ≤ r'.seq

@[refl] lemma CredentialsOnly.refl : CredentialsOnly r r := ⟨rfl, le_rfl⟩

section
variable (h : CredentialsOnly r r')
include h

lemma CredentialsOnly.users : r'.users = r.users := by rw [h.frame]

lemma CredentialsOnly.sessions : SameSessions r r' := ⟨by rw [h.frame], by rw [h.frame]⟩

lemma CredentialsOnly.signIns : SameSignIns r r' := by
  rw [h.frame]
  constructor <;> rfl

end

lemma markEmailTokenConsumed_credentialsOnly (kind : EmailTokenKind) (id : String) (atMs : Int) :
    CredentialsOnly r (r.markEmailTokenConsumed kind id atMs).2 := by
  unfold markEmailTokenConsumed
  split
  · rfl
  · cases kind <;> exact ⟨rfl, le_rfl⟩

/-- At most one user row changes, into one that `step` allows. -/
@[grind =]
def Rewrites (step : User → User → Prop) (userID : String) (r r' : Repo) : Prop :=
  r'.users = r.users ∨
    ∃ u u', r.users.lookup userID = some u ∧ step u u' ∧ r'.users = r.users.insert userID u'

section Rewrites
variable {userID : String} {r : Repo}

/-- What no row loses to the step, no row loses. -/
lemma Rewrites.pointwise {f : User → User} (h : Rewrites (fun u u' => u' = f u) userID r r') (hrefl : ∀ u, rel u u)
    (hrel : ∀ u, rel u (f u)) : r.users.Pointwise rel r'.users := by
  rcases h with heq | ⟨u, _, hu, rfl, heq⟩
  · rw [heq]
    exact GoMap.Pointwise.refl hrefl r.users
  · rw [heq]
    exact GoMap.pointwise_insert hrefl hu (hrel u)

lemma Rewrites.lookup_ne (h : Rewrites step userID r r') (hne : other ≠ userID) :
    r'.users.lookup other = r.users.lookup other := by
  rcases h with heq | ⟨u, u', -, -, heq⟩
  · rw [heq]
  · rw [heq, GoMap.lookup_insert_eq, if_neg hne]

/-- The row itself is there afterwards, as it was or as the step left it. -/
lemma Rewrites.lookup_self (h : Rewrites step userID r r') (hu : r.users.lookup userID = some u) :
    ∃ u', r'.users.lookup userID = some u' ∧ (u' = u ∨ step u u') := by
  rcases h with heq | ⟨before, u', hbefore, hstep, heq⟩
  · exact ⟨u, by rw [heq, hu], .inl rfl⟩
  · grind

variable (r userID) (now : Int)

lemma updateUser_rewrites (patch : Fields) :
    Rewrites (fun u u' => u' = applyUserFields u patch) userID r (r.updateUser now userID patch).2 := by
  unfold updateUser
  split
  · exact .inl rfl
  rename_i u hu
  split
  · exact .inl rfl
  · exact .inr ⟨u, _, hu, rfl, by simp⟩

lemma touchUser_rewrites (f : User → User) : Rewrites (fun u u' => u' = f u) userID r (r.touchUser userID f).2 := by
  unfold touchUser
  split
  · exact .inl rfl
  · rename_i u hu
    exact .inr ⟨u, _, hu, rfl, rfl⟩

lemma resetFailedLoginCount_rewrites :
    Rewrites (fun u u' => u' = { u with failedLoginCount := 0, lockedUntil := 0 }) userID r
      (r.resetFailedLoginCount userID).2 :=
  touchUser_rewrites userID r _

lemma setUserLockedUntil_rewrites (lockedUntilMs : Int) :
    Rewrites (fun u u' => u' = { u with lockedUntil := lockedUntilMs }) userID r
      (r.setUserLockedUntil userID lockedUntilMs).2 :=
  touchUser_rewrites userID r _

lemma incrementFailedLoginCount_rewrites :
    Rewrites (fun u u' => u' = { u with failedLoginCount := u.failedLoginCount + 1 }) userID r
      (r.incrementFailedLoginCount userID).2 := by
  unfold incrementFailedLoginCount
  split
  · exact .inl rfl
  · grind

lemma assignAccountAddress_rewrites (address : String) :
    Rewrites (fun u u' => u' = { u with accountAddress := address }) userID r
      (r.assignAccountAddress userID address).2 := by
  unfold assignAccountAddress
  split
  · exact .inl rfl
  · grind

/-- The row a mark leaves. -/
def markedVerified (atMs : Int) (clearPassword : Bool) (u : User) : User :=
  let verified := { u with emailVerified := true, emailVerifiedAt := atMs, updatedAt := atMs }
  if clearPassword then { verified with passwordHash := "", passwordChangeRequired := false } else verified

/-- A mark that answers so has found the account under the address it names. -/
lemma setUserEmailVerified_cases (email : String) (atMs : Int) (clearPassword : Bool) :
    (∃ u cleared, r.users.lookup userID = some u ∧ u.email = email ∧
        (r.setUserEmailVerified userID email atMs clearPassword).1 = .ok (true, cleared) ∧
        (r.setUserEmailVerified userID email atMs clearPassword).2.users =
          r.users.insert userID (markedVerified atMs clearPassword u)) ∨
      ((∀ cleared, (r.setUserEmailVerified userID email atMs clearPassword).1 ≠ .ok (true, cleared)) ∧
        (r.setUserEmailVerified userID email atMs clearPassword).2 = r) := by
  unfold setUserEmailVerified
  split
  · exact .inr ⟨nofun, rfl⟩
  split
  · exact .inr ⟨by simp, rfl⟩
  rename_i u hu
  split
  · exact .inr ⟨by simp, rfl⟩
  · rename_i hemail
    exact .inl ⟨u, _, hu, not_not.mp hemail, rfl, by simp [markedVerified]⟩

end Rewrites

/-- A step on OAuth clients, delegated grants and machines: nothing else changes, and no
    id is handed out. -/
@[grind]
structure AgentsOnly (r r' : Repo) : Prop where
  frame : r' = { r with
    oauthClients := r'.oauthClients
    agentAuthorizations := r'.agentAuthorizations
    agentOAuthCodes := r'.agentOAuthCodes
    agentOAuthRefresh := r'.agentOAuthRefresh
    agentMachines := r'.agentMachines
    agentMachineRegistrations := r'.agentMachineRegistrations
    agentMachineChallenges := r'.agentMachineChallenges }

@[refl] lemma AgentsOnly.refl : AgentsOnly r r := ⟨rfl⟩

lemma AgentsOnly.trans (h12 : AgentsOnly r1 r2) (h23 : AgentsOnly r2 r3) : AgentsOnly r1 r3 :=
  ⟨by rw [h23.frame, h12.frame]⟩

section
variable (h : AgentsOnly r r')
include h

lemma AgentsOnly.users : r'.users = r.users := by rw [h.frame]

lemma AgentsOnly.seq : r'.seq = r.seq := by rw [h.frame]

lemma AgentsOnly.sessions : SameSessions r r' := ⟨by rw [h.frame], by rw [h.frame]⟩

lemma AgentsOnly.signIns : SameSignIns r r' := by
  rw [h.frame]
  constructor <;> rfl

lemma AgentsOnly.credentials : SameCredentials r r' := by
  rw [h.frame]
  constructor <;> rfl

end

lemma GrantsOnly.agentsOnly (h : GrantsOnly r r') : AgentsOnly r r' := ⟨by rw [h.frame]⟩

variable (p : Platform)
variable (id : String)

lemma updateOAuthClient_agentsOnly (expected : Int) (registration : OAuthClientRegistration) (atMs : Int) :
    AgentsOnly r (r.updateOAuthClient p id expected registration atMs).2 := by
  unfold updateOAuthClient
  split
  · rfl
  split
  · rfl
  rename_i client _
  split
  · rfl
  have hclient : AgentsOnly r { r with oauthClients := r.oauthClients.insert id { client with
      registration := registration, revision := client.revision + 1, updatedAt := atMs } } := ⟨rfl⟩
  exact (hclient.trans (revokeMachines_grantsOnly _ _ atMs).agentsOnly).trans ⟨rfl⟩

variable (m : AgentOAuthMutation)

lemma commitRefresh_agentsOnly : AgentsOnly r (r.commitRefresh id m) := by
  unfold commitRefresh
  dsimp only
  split
  · split
    · exact ⟨rfl⟩
    · rfl
  split
  · exact ⟨rfl⟩
  · exact ⟨rfl⟩

lemma mutateAgentAuthorization_agentsOnly : AgentsOnly r (r.mutateAgentAuthorization p id m).2 := by
  have hcommit : ∀ next, AgentsOnly r (r.commitAuthorization id next) := fun _ => ⟨rfl⟩
  unfold mutateAgentAuthorization
  split
  · rfl
  split
  · rfl
  · split
    · rfl
    split
    · rfl
    · exact (hcommit _).trans (commitRefresh_agentsOnly _ id m)
  split
  · rfl
  · exact hcommit _

lemma deleteExpiredAgentAuthorizations_agentsOnly (beforeMs limit : Int) :
    AgentsOnly r (r.deleteExpiredAgentAuthorizations beforeMs limit).2 := by
  have hloop : ∀ (expired : List String) (r : Repo), AgentsOnly r (expired.foldl (fun r' id =>
        { r' with
          agentOAuthCodes := r'.agentOAuthCodes.erase (((r'.agentAuthorizations.lookup id).map (·.codeHash)).getD "")
          agentAuthorizations := r'.agentAuthorizations.erase id })
      r) := by
    intro expired
    induction expired with
    | nil => exact fun r => .refl r
    | cons id rest ih => exact fun r => .trans ⟨rfl⟩ (ih _)
  unfold deleteExpiredAgentAuthorizations
  split
  · rfl
  · exact (hloop _ r).trans ⟨rfl⟩

lemma createAgentMachine_agentsOnly (input : AgentMachine) (fingerprint : String) :
    AgentsOnly r (r.createAgentMachine p input fingerprint).2 := by
  unfold createAgentMachine
  split
  · rfl
  dsimp only
  split
  · rfl
  split
  · split
    · rfl
    · rfl
  · exact ⟨rfl⟩

lemma ensureAgentMachineDelegation_agentsOnly (candidate : AgentAuthorization) (enginePublicKey fingerprint : String) :
    AgentsOnly r (r.ensureAgentMachineDelegation p id candidate enginePublicKey fingerprint).2 := by
  unfold ensureAgentMachineDelegation
  split
  · rfl
  dsimp only
  split
  · rfl
  split
  · split
    · rfl
    · rfl
  split
  · rfl
  split
  · rfl
  · exact ⟨rfl⟩

/-! An agent is a user row. -/

lemma createAgent_usersOnly (request : AgentCreation) : UsersOnly r (r.createAgent request).2 := by
  have hallocate : UsersOnly r (r.allocateAgent request).2 := by
    unfold allocateAgent recordCreation
    grind
  unfold createAgent
  split
  · rfl
  split
  · rfl
  split
  · split
    · rfl
    · rfl
  split
  · rfl
  · exact hallocate

/-- A managed child's row comes first, then its edge and consent. -/
lemma createManagedChildAccount_frame (u : User) (edge : GuardianEdge) (consent : ParentalConsentRecord) :
    ∃ r1, UsersOnly r r1 ∧ GuardiansOnly r1 (r.createManagedChildAccount u edge consent).2 := by
  have hinsert := insertUser_usersOnly r u
  unfold createManagedChildAccount
  split
  · exact ⟨r, .refl r, .refl r⟩
  split
  · exact ⟨r, .refl r, .refl r⟩
  split
  · exact ⟨r, .refl r, .refl r⟩
  · grind

/-- A step of the sign-in tables: QR sessions, one-time codes, invitations and the
    id counter change, nothing else. -/
@[grind]
structure SignInOnly (r r' : Repo) : Prop where
  frame : r' = { r with
    seq := r'.seq
    qrSessions := r'.qrSessions
    emailLoginCodes := r'.emailLoginCodes
    phoneVerifyCodes := r'.phoneVerifyCodes
    invitations := r'.invitations }
  seq_le : r.seq ≤ r'.seq

@[refl] lemma SignInOnly.refl : SignInOnly r r := ⟨rfl, le_rfl⟩

lemma SignInOnly.users (h : SignInOnly r r') : r'.users = r.users := by rw [h.frame]

lemma SignInOnly.sessions (h : SignInOnly r r') : SameSessions r r' := ⟨by rw [h.frame], by rw [h.frame]⟩

lemma SignInOnly.credentials (h : SignInOnly r r') : SameCredentials r r' := by
  rw [h.frame]
  constructor <;> rfl

variable (channel : CodeChannel)

lemma setCodes_signInOnly (table : GoMap String OneTimeCodeRecord) : SignInOnly r (r.setCodes channel table) := by
  cases channel <;> exact ⟨rfl, le_rfl⟩

lemma upsertCode_signInOnly (code : OneTimeCodeRecord) : SignInOnly r (r.upsertCode channel code).2 := by
  cases channel <;> exact ⟨rfl, Nat.le_succ _⟩

lemma incrementCodeAttempts_signInOnly (operation nodeID : String) :
    SignInOnly r (r.incrementCodeAttempts channel operation nodeID).2 := by
  unfold incrementCodeAttempts
  split
  · rfl
  · exact setCodes_signInOnly r channel _

lemma consumeCode_signInOnly (holder : String) (atMs : Int) : SignInOnly r (r.consumeCode channel holder atMs).2 := by
  unfold consumeCode
  split
  · rfl
  split
  · rfl
  · exact setCodes_signInOnly r channel _

end identity.memory
