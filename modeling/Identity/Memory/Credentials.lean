import Identity.Memory.Users.Basic

open identity.service
namespace identity.memory

/-- What a mailed token is for. -/
inductive EmailTokenKind where
  | passwordReset
  | emailVerification
  | emailChange
deriving DecidableEq

def Repo.emailTokens (r : Repo) : EmailTokenKind → GoMap String EmailTokenRecord
  | .passwordReset => r.passwordResets
  | .emailVerification => r.emailVerifications
  | .emailChange => r.emailChanges

def Repo.setEmailTokens (r : Repo) (kind : EmailTokenKind) (table : GoMap String EmailTokenRecord) : Repo :=
  match kind with
  | .passwordReset => { r with passwordResets := table }
  | .emailVerification => { r with emailVerifications := table }
  | .emailChange => { r with emailChanges := table }

/-- How the store's errors name a token. -/
def EmailTokenKind.noun : EmailTokenKind → String
  | .passwordReset => "password reset token "
  | .emailVerification => "email verification token "
  | .emailChange => "email change token "

def Repo.createEmailToken (r : Repo) (kind : EmailTokenKind) (t : EmailTokenRecord) : Repo :=
  let (id, r) := r.nextID
  r.setEmailTokens kind ((r.emailTokens kind).insert id { t with nodeID := id })

/-- Consumed tokens are found too. -/
def Repo.findEmailTokenByHash (r : Repo) (kind : EmailTokenKind) (hash : String) : Option EmailTokenRecord :=
  (r.emailTokens kind).findRow fun t => t.tokenHash == hash

/-- Unconditional: a consumed token is consumed again. -/
def Repo.markEmailTokenConsumed (r : Repo) (kind : EmailTokenKind) (id : String) (atMs : Int) :
    Except Err Unit × Repo :=
  match (r.emailTokens kind).lookup id with
  | none => (.error (.text (kind.noun ++ id ++ " not found")), r)
  | some t => (.ok (), r.setEmailTokens kind ((r.emailTokens kind).insert id { t with consumedAt := atMs }))

def Repo.createPasswordResetToken (r : Repo) (t : EmailTokenRecord) : Repo := r.createEmailToken .passwordReset t

def Repo.findPasswordResetTokenByHash (r : Repo) (hash : String) : Option EmailTokenRecord :=
  r.findEmailTokenByHash .passwordReset hash

def Repo.markPasswordResetTokenConsumed (r : Repo) (id : String) (atMs : Int) : Except Err Unit × Repo :=
  r.markEmailTokenConsumed .passwordReset id atMs

def Repo.createEmailVerificationToken (r : Repo) (t : EmailTokenRecord) : Repo :=
  r.createEmailToken .emailVerification t

def Repo.findEmailVerificationTokenByHash (r : Repo) (hash : String) : Option EmailTokenRecord :=
  r.findEmailTokenByHash .emailVerification hash

def Repo.markEmailVerificationTokenConsumed (r : Repo) (id : String) (atMs : Int) : Except Err Unit × Repo :=
  r.markEmailTokenConsumed .emailVerification id atMs

def Repo.createEmailChangeToken (r : Repo) (t : EmailTokenRecord) : Repo := r.createEmailToken .emailChange t

def Repo.findEmailChangeTokenByHash (r : Repo) (hash : String) : Option EmailTokenRecord :=
  r.findEmailTokenByHash .emailChange hash

def Repo.markEmailChangeTokenConsumed (r : Repo) (id : String) (atMs : Int) : Except Err Unit × Repo :=
  r.markEmailTokenConsumed .emailChange id atMs

def Repo.createMagicLinkToken (r : Repo) (rec : MagicLinkTokenRecord) : String × Repo :=
  let (id, r) := r.nextID
  (id, { r with magicLinkTokens := r.magicLinkTokens.insert id { rec with nodeID := id } })

/-- Compare-and-set on an unconsumed, unexpired token. -/
def Repo.consumeMagicLinkToken (r : Repo) (tokenHash : String) (atMs : Int) :
    Except Err MagicLinkTokenRecord × Repo :=
  match r.magicLinkTokens.entries.find? fun entry => entry.2.tokenHash == tokenHash with
  | none => (.error (.sentinel .magicLinkInvalid), r)
  | some entry =>
    if entry.2.consumedAt ≠ 0 || entry.2.expiresAt ≤ atMs then (.error (.sentinel .magicLinkInvalid), r)
    else
      let consumed := { entry.2 with consumedAt := atMs }
      (.ok consumed, { r with magicLinkTokens := r.magicLinkTokens.insert entry.1 consumed })

/-! Passkeys and their challenges. -/

def Repo.listPasskeyCredentials (r : Repo) (userID : String) : List PasskeyCredRecord :=
  r.passkeyCreds.rows.filter fun c => c.userID == userID

def Repo.getPasskeyCredentialByCredID (r : Repo) (credentialID : String) : Option PasskeyCredRecord :=
  r.passkeyCreds.findRow fun c => c.credentialID == credentialID

def Repo.createPasskeyCredential (r : Repo) (rec : PasskeyCredRecord) : String × Repo :=
  let (id, r) := r.nextID
  (id, { r with passkeyCreds := r.passkeyCreds.insert id { rec with nodeID := id } })

def Repo.updatePasskeyCredential (r : Repo) (nodeID : String) (fields : Fields) : Except Err Unit × Repo :=
  match r.passkeyCreds.lookup nodeID with
  | none => (.error (.text ("passkey credential " ++ nodeID ++ " not found")), r)
  | some c =>
    (.ok (), { r with passkeyCreds := r.passkeyCreds.insert nodeID { c with
      signCount := patchedInt fields "sign_count" c.signCount
      lastUsedAt := patchedInt fields "last_used_at" c.lastUsedAt } })

def Repo.deletePasskeyCredentialsForUser (r : Repo) (userID : String) : Repo :=
  if userID = "" then r else { r with passkeyCreds := deleteByUser r.passkeyCreds userID (·.userID) }

/-- The loop stops at the first match. -/
def Repo.deletePasskeyCredential (r : Repo) (userID credentialID : String) : Except Err Unit × Repo :=
  match r.passkeyCreds.entries.find? fun entry =>
      userID != "" && entry.2.userID == userID && entry.2.credentialID == credentialID with
  | none => (.error (.sentinel .notFound), r)
  | some entry => (.ok (), { r with passkeyCreds := r.passkeyCreds.erase entry.1 })

def Repo.getPasskeyChallenge (r : Repo) (nodeID : String) : Option PasskeyChallengeRecord :=
  r.passkeyChallenges.lookup nodeID

def Repo.createPasskeyChallenge (r : Repo) (rec : PasskeyChallengeRecord) : String × Repo :=
  let (id, r) := r.nextID
  (id, { r with passkeyChallenges := r.passkeyChallenges.insert id { rec with nodeID := id } })

def Repo.deletePasskeyChallenge (r : Repo) (nodeID : String) : Repo :=
  { r with passkeyChallenges := r.passkeyChallenges.erase nodeID }

/-! The second factor: TOTP secrets, recovery codes and the sign-ins that wait for one. -/

def Repo.getTotpCredential (r : Repo) (userID : String) : Option TotpCredRecord :=
  r.totpCreds.findRow fun c => c.userID == userID

def Repo.createTotpCredential (r : Repo) (rec : TotpCredRecord) : String × Repo :=
  let (id, r) := r.nextID
  (id, { r with totpCreds := r.totpCreds.insert id { rec with nodeID := id } })

def Repo.updateTotpCredential (r : Repo) (nodeID : String) (fields : Fields) : Except Err Unit × Repo :=
  match r.totpCreds.lookup nodeID with
  | none => (.error (.text ("totp credential " ++ nodeID ++ " not found")), r)
  | some c =>
    (.ok (), { r with totpCreds := r.totpCreds.insert nodeID { c with
      verified := patchedBool fields "verified" c.verified
      lastUsedAt := patchedInt fields "last_used_at" c.lastUsedAt } })

def Repo.createRecoveryCode (r : Repo) (rec : RecoveryCodeRecord) : String × Repo :=
  let (id, r) := r.nextID
  (id, { r with recoveryCodes := r.recoveryCodes.insert id { rec with nodeID := id } })

def Repo.findRecoveryCodeByHash (r : Repo) (userID hash : String) : Option RecoveryCodeRecord :=
  r.recoveryCodes.findRow fun rc => rc.userID == userID && rc.codeHash == hash

/-- Unconditional: a code that has been used is marked used again. -/
def Repo.updateRecoveryCode (r : Repo) (nodeID : String) (fields : Fields) : Except Err Unit × Repo :=
  match r.recoveryCodes.lookup nodeID with
  | none => (.error (.text ("recovery code " ++ nodeID ++ " not found")), r)
  | some rc =>
    (.ok (), { r with recoveryCodes := r.recoveryCodes.insert nodeID { rc with
      used := patchedBool fields "used" rc.used
      usedAt := patchedInt fields "used_at" rc.usedAt } })

def Repo.createLoginChallenge (r : Repo) (rec : LoginChallengeRecord) : String × Repo :=
  let (id, r) := r.nextID
  (id, { r with loginChallenges := r.loginChallenges.insert id { rec with nodeID := id } })

def Repo.getLoginChallengeByChallengeID (r : Repo) (challengeID : String) : Option LoginChallengeRecord :=
  r.loginChallenges.findRow fun lc => lc.challengeID == challengeID

/-- Deleting a challenge that is gone is no error. -/
def Repo.deleteLoginChallenge (r : Repo) (nodeID : String) : Repo :=
  { r with loginChallenges := r.loginChallenges.erase nodeID }

/-! Provider links. -/

/-- The account behind a provider's identity, if the link and the account exist. -/
def Repo.findUserByProviderID (r : Repo) (provider providerUserID : String) : Option User :=
  match r.oauthIdentities.findRow fun oi => oi.provider == provider && oi.providerUserID == providerUserID with
  | none => none
  | some oi => r.users.lookup oi.userID

/-- One link per provider identity. -/
def Repo.createOAuthIdentity (r : Repo) (oi : OAuthIdentity) : Except Err Unit × Repo :=
  if r.oauthIdentities.anyRow fun existing =>
      existing.provider == oi.provider && existing.providerUserID == oi.providerUserID then
    (.error (.prefixed ("oauth identity " ++ oi.provider ++ "/" ++ oi.providerUserID) .alreadyExists), r)
  else
    let (id, r) := r.nextID
    (.ok (), { r with oauthIdentities := r.oauthIdentities.insert id { oi with nodeID := id } })

def Repo.listOAuthIdentitiesForUser (r : Repo) (userID : String) : List OAuthIdentity :=
  r.oauthIdentities.rows.filter fun oi => oi.userID == userID

def Repo.deleteOAuthIdentity (r : Repo) (userID provider providerUserID : String) : Except Err Unit × Repo :=
  match r.oauthIdentities.entries.find? fun entry =>
      entry.2.userID == userID && entry.2.provider == provider && entry.2.providerUserID == providerUserID with
  | none => (.error (.sentinel .notFound), r)
  | some entry => (.ok (), { r with oauthIdentities := r.oauthIdentities.erase entry.1 })

open GoMap
variable {r : Repo}

/-! The passkeys and the provider links of an account. -/

/-- A passkey that a deletion leaves was there before; if it matched, another match was
    deleted. -/
lemma deletePasskeyCredential_lookup
    (hc : (r.deletePasskeyCredential userID credentialID).2.passkeyCreds.lookup key = some c) :
    r.passkeyCreds.lookup key = some c ∧
      (userID ≠ "" → c.userID = userID → c.credentialID = credentialID → ∃ key' c', key' ≠ key ∧
        r.passkeyCreds.lookup key' = some c' ∧ c'.userID = userID ∧ c'.credentialID = credentialID) := by
  unfold Repo.deletePasskeyCredential at hc
  split at hc
  · rename_i hnone
    refine ⟨hc, fun huser howner hcred => ?_⟩
    have hno := List.find?_eq_none.mp hnone ⟨key, c⟩ (AList.mem_lookup_iff.mp hc)
    simp [huser, howner, hcred] at hno
  rename_i entry hentry
  obtain ⟨hbefore, hne, hrow, hmatch⟩ := erase_find hentry hc
  grind

/-- One link for each identity of a provider. -/
@[grind =]
def LinksUnique (r : Repo) : Prop :=
  ∀ key key' link link', r.oauthIdentities.lookup key = some link → r.oauthIdentities.lookup key' = some link' →
    link.provider = link'.provider → link.providerUserID = link'.providerUserID → key = key'

/-- A link that a deletion leaves was there before and is of another identity. -/
lemma deleteOAuthIdentity_lookup (hunique : LinksUnique r)
    (hlink : (r.deleteOAuthIdentity userID provider providerUserID).2.oauthIdentities.lookup key = some link) :
    r.oauthIdentities.lookup key = some link ∧
      (link.userID = userID → ¬ (link.provider = provider ∧ link.providerUserID = providerUserID)) := by
  unfold Repo.deleteOAuthIdentity at hlink
  split at hlink
  · rename_i hnone
    refine ⟨hlink, fun howner hidentity => ?_⟩
    have hno := List.find?_eq_none.mp hnone ⟨key, link⟩ (AList.mem_lookup_iff.mp hlink)
    simp [howner, hidentity.1, hidentity.2] at hno
  rename_i entry hentry
  obtain ⟨hbefore, hne, hrow, hmatch⟩ := erase_find hentry hlink
  grind

lemma deleteOAuthIdentity_linksUnique (hunique : LinksUnique r) (userID provider providerUserID : String) :
    LinksUnique (r.deleteOAuthIdentity userID provider providerUserID).2 := by
  intro key key' link link' hlink hlink'
  exact hunique key key' link link' (deleteOAuthIdentity_lookup hunique hlink).1
    (deleteOAuthIdentity_lookup hunique hlink').1

/-- A link there after an attempt to create one was there before, and is of another identity
    if the attempt went through, or is the new one. -/
lemma createOAuthIdentity_lookup (hlink : (r.createOAuthIdentity oi).2.oauthIdentities.lookup key = some link) :
    (r.oauthIdentities.lookup key = some link ∧ ((r.createOAuthIdentity oi).1 = .ok () →
      ¬ (oi.provider = link.provider ∧ oi.providerUserID = link.providerUserID))) ∨
      ((r.createOAuthIdentity oi).1 = .ok () ∧ key = memID (r.seq + 1) ∧
        link = { oi with nodeID := memID (r.seq + 1) }) := by
  unfold Repo.createOAuthIdentity at hlink ⊢
  split at hlink
  · grind
  rename_i hfree
  rw [if_neg hfree]
  rw [Bool.not_eq_true, anyRow_eq_false_iff] at hfree
  have hinsert : (r.oauthIdentities.insert (memID (r.seq + 1)) { oi with nodeID := memID (r.seq + 1) }).lookup key =
    some link := hlink
  grind

lemma createOAuthIdentity_linksUnique (hunique : LinksUnique r) (oi : OAuthIdentity) :
    LinksUnique (r.createOAuthIdentity oi).2 := by
  intro key key' link link' hlink hlink' hprovider hid
  by_cases htaken : r.oauthIdentities.anyRow (fun existing =>
      existing.provider == oi.provider && existing.providerUserID == oi.providerUserID) = true
  · have hsame : (r.createOAuthIdentity oi).2 = r := by rw [Repo.createOAuthIdentity, if_pos htaken]
    rw [hsame] at hlink hlink'
    exact hunique key key' link link' hlink hlink' hprovider hid
  have hfree := anyRow_eq_false_iff.mp (Bool.not_eq_true _ ▸ htaken)
  rcases createOAuthIdentity_lookup hlink with ⟨hold, -⟩ | ⟨-, rfl, rfl⟩
  · rcases createOAuthIdentity_lookup hlink' with ⟨hold', -⟩ | ⟨-, rfl, rfl⟩
    · exact hunique key key' link link' hold hold' hprovider hid
    · have hno := hfree key link hold
      simp [hprovider, hid] at hno
  rcases createOAuthIdentity_lookup hlink' with ⟨hold', -⟩ | ⟨-, rfl, -⟩
  · have hno := hfree key' link' hold'
    simp [← hprovider, ← hid] at hno
  · rfl

/-- A passkey there after one is stored was there before, under another id, or is the new one. -/
lemma createPasskeyCredential_lookup (hc : (r.createPasskeyCredential rec).2.passkeyCreds.lookup key = some c) :
    (r.passkeyCreds.lookup key = some c ∧ (r.createPasskeyCredential rec).1 ≠ key) ∨
      (key = (r.createPasskeyCredential rec).1 ∧ c = { rec with nodeID := (r.createPasskeyCredential rec).1 }) := by
  have hinsert : (r.passkeyCreds.insert (memID (r.seq + 1)) { rec with nodeID := memID (r.seq + 1) }).lookup key =
    some c := hc
  rw [lookup_insert_eq] at hinsert
  split at hinsert
  · rename_i hkey
    exact .inr ⟨hkey, (Option.some.inj hinsert).symm⟩
  · rename_i hkey
    exact .inl ⟨hinsert, fun hsame => hkey hsame.symm⟩

end identity.memory
