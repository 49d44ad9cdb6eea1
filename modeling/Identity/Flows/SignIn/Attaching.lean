import Identity.Flows.SignIn.Password
import Identity.Flows.SignIn.Steps

open identity.repository identity.memory
namespace identity.service

def getPasskeyChallenge (nodeID : String) : ServiceCall (Option PasskeyChallengeRecord) :=
  Routine.ask (Request.credential (.getPasskeyChallenge nodeID))

def deletePasskeyChallenge (nodeID : String) : ServiceCall Unit :=
  Routine.ask (Request.credential (.deletePasskeyChallenge nodeID))

def createPasskeyCredential (rec : PasskeyCredRecord) : ServiceCall String :=
  Routine.ask (Request.credential (.createPasskeyCredential rec))

def deletePasskeyCredential (userID credentialID : String) : ServiceCall Unit :=
  attemptRequest (.credential (.deletePasskeyCredential userID credentialID)) fun answer => answer

/-- What a registration answers. -/
structure PasskeyInfo where
  credentialID : String
  deviceName : String
  createdAt : Int
  lastUsedAt : Int

/-- Neither an agent nor an anonymous account is given a credential. -/
def refuseCredentialAttach (userID : String) : ServiceCall Unit := do
  match ← getUser userID with
  | none => return
  | some u =>
    refuseIf u.isAgent (.sentinel .agentCredential)
    refuseIf u.isAnonymous (.wrapped .anonymousMustUpgrade
      "attaching one here would leave the account subject to the anonymous retention sweep despite holding a working credential")

/-- Withdraw a credential this call has just attached if the account's address, unproven
    when the call began, is proven now. One that is gone already is no failure. -/
def withdrawIfAddressProven (userID refusal : String) (withdraw : ServiceCall Unit) : ServiceCall Bool := do
  let account ← getUser userID
  if account.any fun account => !account.emailVerified then return false
  else do
    match ← withdraw.attempt with
    | .error err => if err.is .notFound then judge account else throw (.wrapped .unavailable refusal)
    | .ok _ => judge account
where
  judge (account : Option User) : ServiceCall Bool :=
    if account.isNone then throw (.wrapped .notFound "user not found") else pure true

/-- Only an account whose address was unproven before the attach is judged again. -/
def withdrawLate (holder : User) (userID refusal : String) (withdraw : ServiceCall Unit) (proven : Err) :
    ServiceCall Unit :=
  if holder.emailVerified then pure ()
  else do
    let withdrawn ← withdrawIfAddressProven userID refusal withdraw
    refuseIf withdrawn proven

namespace AuthService
variable (p : Platform) (s : AuthService)

/-- A link that exists, the caller's own too, is reported. -/
def attachIdentity (oi : OAuthIdentity) : ServiceCall Unit := do
  match ← (createOAuthIdentity oi).attempt with
  | .ok _ => return
  | .error err =>
    if err.is .alreadyExists then throw (.wrapped .alreadyExists "provider identity already linked") else throw err

/-- Attach a provider identity to the signed-in user, with what the code exchange
    answered. -/
def linkIdentity (userID : String) (exchanged : Except Err ProviderIdentity) : ServiceCall OAuthIdentity := do
  refuseIf (strings.trimSpace userID = "") (.wrapped .unauthenticated "missing user ID")
  refuseCredentialAttach userID
  match ← getUser userID with
  | none => throw (.wrapped .notFound "user not found")
  | some holder =>
    let identity ← check exchanged
    refuseIf (identity.providerUserID = "") (.wrapped .unauthenticated "provider returned no stable subject")
    let now ← nowMs
    let oi : OAuthIdentity :=
      { userID := userID
        provider := identity.provider
        providerUserID := identity.providerUserID
        emailAtLinkTime := assertedAddress identity
        createdAt := now }
    attachIdentity oi
    withdrawLate holder userID "the provider could not be linked"
      (deleteOAuthIdentity userID oi.provider oi.providerUserID)
      (.wrapped .unauthenticated "the account's address was proven while linking; sign in again")
    return oi

/-- An enrolment in place of a session is judged before the credential is stored. -/
def checkEnrolment (issueSession : Bool) (userID : String) : ServiceCall Unit :=
  if issueSession then do
    match ← getUser userID with
    | none => throw (.wrapped .notFound "user not found")
    | some user => s.checkAccountStatus user
  else pure ()

/-- The challenge a registration answers. -/
def registrationChallenge (userID challengeID : String) : ServiceCall PasskeyChallengeRecord := do
  match ← getPasskeyChallenge challengeID with
  | none => throw (.wrapped .notFound "challenge not found or already consumed")
  | some challenge =>
    refuseIf (challenge.challengeType ≠ "registration")
      (.wrapped .invalidArgument "challenge is not a registration challenge")
    refuseIf (challenge.userID ≠ userID) (.wrapped .permissionDenied "challenge does not belong to this user")
    let now ← nowMs
    if challenge.expiresAt < now then do
      deletePasskeyChallenge challenge.nodeID
      throw (.wrapped .tokenExpired "challenge expired")
    else return challenge

/-- The attestation, checked against the challenge. -/
def attest (credentialJSON challenge : String) : Except Err RegisteredPasskey := do
  let complete ← s.relyingParty
  match complete credentialJSON challenge with
  | .ok result => return result
  | .error _ => .error (.wrapped .invalidArgument "attestation verification failed")

/-- The first session of an enrolled child. -/
def openEnrolledSession (issueSession : Bool) (userID : String) (client : ClientInfo) :
    ServiceCall (Option LoginResult) :=
  if issueSession then do
    match ← getUser userID with
    | none => throw (.wrapped .notFound "user not found")
    | some user =>
      s.checkAccountStatus user
      let issued ← s.issueTokens p user client
      return some (s.signedIn issued)
  else pure none

/-- The row of a registered passkey. -/
def registeredPasskey (userID deviceName : String) (result : RegisteredPasskey) (now : Int) : PasskeyCredRecord where
  credentialID := result.credentialID
  userID := userID
  publicKey := result.publicKey
  signCount := result.signCount
  deviceName := deviceName
  aaguid := result.aaguid
  transports := result.transports
  backupEligible := result.backupEligible
  backupState := result.backupState
  createdAt := now
  lastUsedAt := now

def completePasskeyRegistration (userID challengeID credentialJSON deviceName : String) (issueSession : Bool)
    (client : ClientInfo) : ServiceCall (PasskeyInfo × Option LoginResult) := do
  refuseIf (challengeID = "" ∨ credentialJSON = "")
    (.wrapped .invalidArgument "challenge_id and credential_json are required")
  refuseCredentialAttach userID
  s.checkEnrolment issueSession userID
  let challenge ← registrationChallenge userID challengeID
  let result ← check (s.attest credentialJSON challenge.challenge)
  match ← getUser userID with
  | none => throw (.wrapped .notFound "user not found")
  | some holder =>
    let now ← nowMs
    let _ ← createPasskeyCredential (registeredPasskey userID deviceName result now)
    deletePasskeyChallenge challenge.nodeID
    withdrawLate holder userID "the passkey could not be registered"
      (deletePasskeyCredential userID result.credentialID)
      (.wrapped .unauthenticated "the account's address was proven while registering; sign in again")
    let session ← s.openEnrolledSession p issueSession userID client
    return (⟨result.credentialID, deviceName, now, now⟩, session)

end AuthService

/-! A call that attaches a credential, read off the steps it has taken, the most recent
first. -/

@[grind =]
def passkeyStored (caller : Nat) (rec : PasskeyCredRecord) (nodeID : String) : StoreEvent :=
  ⟨caller, .credential (.createPasskeyCredential rec), nodeID⟩

@[grind =]
def linkStored (caller : Nat) (oi : OAuthIdentity) : StoreEvent :=
  ⟨caller, .credential (.createOAuthIdentity oi), .ok ()⟩

def attaches : StoreEvent → Bool
  | ⟨_, .credential (.createPasskeyCredential _), _⟩ => true
  | ⟨_, .credential (.createOAuthIdentity _), .ok _⟩ => true
  | _ => false

def withdraws : StoreEvent → Bool
  | ⟨_, .credential (.deletePasskeyCredential _ _), _⟩ => true
  | ⟨_, .credential (.deleteOAuthIdentity _ _ _), _⟩ => true
  | _ => false

/-- The step stores the passkey that is kept under the id. -/
def storesPasskey (nodeID : String) : StoreEvent → Bool
  | ⟨_, .credential (.createPasskeyCredential _), stored⟩ => BEq.beq nodeID stored
  | _ => false

/-- The step stores a link of the identity that is linked. -/
def storesLink (link : OAuthIdentity) : StoreEvent → Bool
  | ⟨_, .credential (.createOAuthIdentity oi), .ok _⟩ =>
    oi.provider == link.provider && oi.providerUserID == link.providerUserID
  | _ => false

/-- The step finds the account's address unproven. -/
def readsUnproven (userID : String) : StoreEvent → Bool
  | ⟨_, .user (.getUser id), some account⟩ => id == userID && !account.emailVerified
  | _ => false

variable (own : Trace)

/-- The step that attached the credential. -/
def attachOf : Option (StoreEvent) := own.find? attaches

def sinceAttach : Trace := own.takeWhile fun event => !attaches event

/-- From the attaching step back. -/
def untilAttach : Trace := own.dropWhile fun event => !attaches event

variable {own}
section
variable (hnot : attaches event = false)
include hnot

lemma attachOf_cons_of_not : attachOf (event :: own) = attachOf own := by
  simp [attachOf, hnot]

lemma sinceAttach_cons_of_not : sinceAttach (event :: own) = event :: sinceAttach own := by
  simp [sinceAttach, hnot]

lemma untilAttach_cons_of_not : untilAttach (event :: own) = untilAttach own := by
  simp [untilAttach, hnot]

end

section
variable (hattach : attaches event = true)
include hattach

lemma attachOf_cons_of_attaches : attachOf (event :: own) = some event := by
  simp [attachOf, hattach]

lemma sinceAttach_cons_of_attaches : sinceAttach (event :: own) = [] := by
  simp [sinceAttach, hattach]

lemma untilAttach_cons_of_attaches : untilAttach (event :: own) = event :: own := by
  simp [untilAttach, hattach]

end

/-- What an attaching call asks besides attaching and withdrawing. -/
inductive NeutralStep : Request → Prop
  | read {q : Request} (hread : q.isPlain = true) : NeutralStep q
  | signIn {s : AuthService} {accountID email : String} {q : Request} (hstep : SignInStep s accountID email q) :
      NeutralStep q
  | challenge (nodeID : String) : NeutralStep (.credential (.deletePasskeyChallenge nodeID))

/-- A request that looks neither attaches nor withdraws. -/
lemma inert_of_isPlain (hread : q.isPlain = true) (resp : Request.Response q) :
    attaches ⟨caller, q, resp⟩ = false ∧ withdraws ⟨caller, q, resp⟩ = false := by
  cases q with
  | credential q => cases q <;> first | exact ⟨rfl, rfl⟩ | cases hread
  | _ => exact ⟨rfl, rfl⟩

lemma SignInStep.inert (hstep : SignInStep s accountID email q) (resp : Request.Response q) :
    attaches ⟨caller, q, resp⟩ = false ∧ withdraws ⟨caller, q, resp⟩ = false := by
  cases hstep with
  | account hstep =>
    cases hstep with
    | read hread => exact inert_of_isPlain hread resp
    | _ => exact ⟨rfl, rfl⟩
  | _ => exact ⟨rfl, rfl⟩

lemma NeutralStep.inert (hstep : NeutralStep q) (resp : Request.Response q) :
    attaches ⟨caller, q, resp⟩ = false ∧ withdraws ⟨caller, q, resp⟩ = false := by
  cases hstep with
  | read hread => exact inert_of_isPlain hread resp
  | signIn hstep => exact hstep.inert resp
  | challenge nodeID => exact ⟨rfl, rfl⟩

/-- No step of a sign-in touches a credential. -/
lemma SignInStep.leavesCredentials (hstep : SignInStep s accountID email q) (p : Platform) (tick : Tick) (r : Repo) :
    SameCredentials r (handle p q tick r).2 := by
  cases hstep with
  | account hstep =>
    cases hstep with
    | read hread =>
      rw [handle_isRead (isRead_of_isPlain hread)]
    | _ => exact handle_credentials p tick r rfl
  | _ => exact handle_credentials p tick r rfl

/-- Passkeys and links stay as they are. -/
lemma NeutralStep.leaves (hstep : NeutralStep q) (p : Platform) (tick : Tick) (r : Repo) :
    (handle p q tick r).2.passkeyCreds = r.passkeyCreds ∧
      (handle p q tick r).2.oauthIdentities = r.oauthIdentities := by
  cases hstep with
  | read hread =>
    rw [handle_isRead (isRead_of_isPlain hread)]
    exact ⟨rfl, rfl⟩
  | signIn hstep =>
    exact ⟨(hstep.leavesCredentials p tick r).passkeyCreds, (hstep.leavesCredentials p tick r).oauthIdentities⟩
  | challenge nodeID => exact ⟨rfl, rfl⟩

/-- An address that is proven after the step was proven before it. -/
@[grind =]
def NotNewlyProven (u u' : User) : Prop := u'.emailVerified = true → u.emailVerified = true

lemma NeutralStep.notNewlyProven (hstep : NeutralStep q) (p : Platform) (tick : Tick) (r : Repo) :
    r.users.Pointwise NotNewlyProven (handle p q tick r).2.users := by
  have hrefl : ∀ u, NotNewlyProven u u := fun _ h => h
  cases hstep with
  | read hread =>
    rw [handle_isRead (isRead_of_isPlain hread)]
    exact GoMap.Pointwise.refl hrefl r.users
  | signIn hstep =>
    exact hstep.pointwise hrefl (fun _ _ h => h) (fun _ hleaves => hleaves.unproven) (fun _ _ h => h) p tick r
  | challenge nodeID => exact GoMap.Pointwise.refl hrefl r.users

/-- What an attaching call may ask: it attaches once, and withdraws what it attached. -/
def AttachGuard (userID : String) (caller : Nat) (own : Trace) : Request → Prop
  | .credential (.createPasskeyCredential rec) => rec.userID = userID ∧ attachOf own = none
  | .credential (.createOAuthIdentity oi) => oi.userID = userID ∧ attachOf own = none
  | .credential (.deletePasskeyCredential id credentialID) => id = userID ∧
      ∃ rec nodeID, attachOf own = some (passkeyStored caller rec nodeID) ∧ rec.credentialID = credentialID
  | .credential (.deleteOAuthIdentity id provider providerUserID) => id = userID ∧
      ∃ oi, attachOf own = some (linkStored caller oi) ∧ oi.provider = provider ∧ oi.providerUserID = providerUserID
  | q => NeutralStep q

/-- Whoever has attached a credential had read a proven address before, or has read since
    then that the address is unproven, or has withdrawn the credential. -/
@[grind =]
def Settled (userID : String) (caller : Nat) (own : Trace) : Prop :=
  (attachOf own).isSome = true →
    (∃ account, accountRead caller userID (some account) ∈ untilAttach own ∧ account.emailVerified = true) ∨
      (∃ event ∈ sinceAttach own, readsUnproven userID event = true) ∨
        ∃ event ∈ sinceAttach own, withdraws event = true

lemma settled_of_unattached (hnone : attachOf own = none) : Settled userID caller own := by
  intro hattached
  rw [hnone] at hattached
  cases hattached

lemma Settled.cons (hsettled : Settled userID caller own) (hnot : attaches event = false) :
    Settled userID caller (event :: own) := by
  unfold Settled
  rw [attachOf_cons_of_not hnot, sinceAttach_cons_of_not hnot, untilAttach_cons_of_not hnot]
  intro hattached
  refine (hsettled hattached).imp_right (Or.imp ?_ ?_)
  · grind
  · grind

lemma looks_getPasskeyChallenge (nodeID : String) : Looks (getPasskeyChallenge nodeID) := .ask rfl

lemma refuseCredentialAttach_reads (userID : String) : Looks (refuseCredentialAttach userID) := by
  refine (looks_getUser userID).bind fun account => ?_
  cases account with
  | none => exact .pure ()
  | some account => exact .past fun _ => makes_refuseIf _

lemma NeutralStep.credential (hstep : NeutralStep (.credential q)) :
    (Request.credential q).isPlain = true ∨ ∃ nodeID, q = .deletePasskeyChallenge nodeID := by
  cases hstep with
  | read hread => exact .inl hread
  | signIn hstep =>
    cases hstep with
    | account hstep =>
      cases hstep with
      | read hread => exact .inl hread
  | challenge nodeID => exact .inr ⟨nodeID, rfl⟩

lemma attachGuard_of_neutral (hstep : NeutralStep q) : AttachGuard userID caller own q := by
  cases q with
  | credential q =>
    rcases hstep.credential with hread | ⟨nodeID, rfl⟩
    · cases q <;> first | exact hstep | cases hread
    · exact hstep
  | _ => exact hstep

/-- A neutral flow before anything is attached. -/
lemma keeps_before_attach {next : α → ServiceCall β}
    (hmakes : flow.Makes NeutralStep) (hnone : attachOf own = none)
    (hnext : ∀ own' value, attachOf own' = none → (next value).Keeps caller (AttachGuard userID caller) ok
      (fun own' _ => Settled userID caller own') own') :
    (flow >>= next).Keeps caller (AttachGuard userID caller) ok (fun own' _ => Settled userID caller own') own := by
  refine hmakes.through hnone ?_ (fun _ _ _ hstep => attachGuard_of_neutral hstep)
    (fun _ _ hnone => settled_of_unattached hnone) hnext
  intro own' q resp hnone hstep
  rw [attachOf_cons_of_not (hstep.inert resp).1, hnone]

/-- Judging again and withdrawing settles what was attached. -/
lemma withdrawLate_keeps (holder : User)
    (hholder : accountRead caller userID (some holder) ∈ untilAttach own) (hattached : attachOf own = some attach)
    (hguard : ∀ own', attachOf own' = some attach → AttachGuard userID caller own' q)
    (hwithdraws : ∀ resp, withdraws ⟨caller, q, resp⟩ = true) (hnot : ∀ resp, attaches ⟨caller, q, resp⟩ = false) :
    (withdrawLate holder userID refusal (attemptRequest q answer) proven).Leaves caller (AttachGuard userID caller)
      (Settled userID caller) own := by
  refine .ite (fun hproven => ?_) fun _ => ?_
  · exact fun _ => .inl ⟨holder, hholder, hproven⟩
  refine .bind (.getUser (attachGuard_of_neutral (.read rfl)) fun account => ?_)
  have hread : attaches (accountRead caller userID account) = false := rfl
  refine .ite (fun hunproven => ?_) fun _ => ?_
  · -- the address is still unproven
    have hsettled : Settled userID caller (accountRead caller userID account :: own) := by
      intro _
      refine .inr (.inl ⟨_, by rw [sinceAttach_cons_of_not hread]; exact .head _, ?_⟩)
      cases account with
      | none => cases hunproven
      | some account => simpa [readsUnproven, accountRead] using hunproven
    exact keeps_refuseIf.mpr ⟨fun _ => hsettled, fun _ => hsettled⟩
  have hattached' : attachOf (accountRead caller userID account :: own) = some attach := by
    rw [attachOf_cons_of_not hread, hattached]
  refine .attempted (hguard _ hattached') fun resp => ?_
  have hsettled : Settled userID caller (⟨caller, q, resp⟩ :: accountRead caller userID account :: own) := by
    grind [sinceAttach_cons_of_not]
  have hjudge : (withdrawIfAddressProven.judge account).Keeps caller (AttachGuard userID caller)
      (fun own' withdrawn => (refuseIf (withdrawn = true) proven).Leaves caller (AttachGuard userID caller)
        (Settled userID caller) own')
      (fun own' _ => Settled userID caller own') (⟨caller, q, resp⟩ :: accountRead caller userID account :: own) := by
    exact .ite (fun _ => hsettled) fun _ => keeps_refuseIf.mpr ⟨fun _ => hsettled, fun _ => hsettled⟩
  cases answer resp with
  | error err => exact .ite (fun _ => hjudge) fun _ => hsettled
  | ok _ => exact hjudge

namespace AuthService
variable (p : Platform) (s : AuthService)

lemma attachIdentity_keeps (howner : oi.userID = userID) (hnone : attachOf own = none) :
    (attachIdentity oi).Keeps caller (AttachGuard userID caller) (fun own' _ => own' = linkStored caller oi :: own)
      (fun own' _ => Settled userID caller own') own := by
  refine .attempted ⟨howner, hnone⟩ fun resp => ?_
  cases resp with
  | ok _ => rfl
  | error err =>
    have hstill : attachOf (⟨caller, .credential (.createOAuthIdentity oi), .error err⟩ :: own) = none := by
      rw [attachOf_cons_of_not rfl, hnone]
    exact .ite (fun _ => settled_of_unattached hstill) fun _ => settled_of_unattached hstill

lemma linkIdentity_keeps (userID : String) (exchanged : Except Err ProviderIdentity) :
    (linkIdentity userID exchanged).Leaves caller (AttachGuard userID caller) (Settled userID caller) [] := by
  refine .refuseIf (fun _ => settled_of_unattached rfl) fun _ => ?_
  refine keeps_before_attach ((refuseCredentialAttach_reads userID).mono fun _ => .read) rfl fun own1 _ h1 => ?_
  refine .getUser (attachGuard_of_neutral (.read rfl)) fun holder => ?_
  have h2 : attachOf (accountRead caller userID holder :: own1) = none := by rw [attachOf_cons_of_not rfl, h1]
  cases holder with
  | none => exact settled_of_unattached h2
  | some holder =>
    refine .check (fun identity _ => ?_) fun _ _ => settled_of_unattached h2
    refine .refuseIf (fun _ => settled_of_unattached h2) fun _ => ?_
    refine .nowMs (attachGuard_of_neutral (.read rfl)) fun now => ?_
    have h3 : attachOf (⟨caller, .clock, now⟩ :: accountRead caller userID (some holder) :: own1) = none := by
      rw [attachOf_cons_of_not rfl, h2]
    refine .bind ((attachIdentity_keeps rfl h3).mono ?_ fun _ _ h => h)
    rintro own4 _ rfl
    refine .bind ((withdrawLate_keeps holder ?_ (attachOf_cons_of_attaches rfl) ?_ (fun _ => rfl)
      fun _ => rfl).mono (fun _ _ h => h) fun _ _ h => h)
    · rw [untilAttach_cons_of_attaches rfl]
      simp
    · exact fun own' hattached => ⟨rfl, _, hattached, rfl, rfl⟩

variable (issueSession : Bool)

lemma checkEnrolment_reads (userID : String) : Looks (s.checkEnrolment issueSession userID) := by
  refine .ite (fun _ => (looks_getUser userID).bind fun user => ?_) fun _ => .pure ()
  cases user with
  | none => exact .throw _
  | some user => exact s.checkAccountStatus_reads user

lemma registrationChallenge_makes (userID challengeID : String) :
    (registrationChallenge userID challengeID).Makes NeutralStep := by
  refine ((looks_getPasskeyChallenge challengeID).mono fun _ => .read).bind fun challenge => ?_
  cases challenge with
  | none => exact .throw _
  | some challenge =>
    refine .past fun _ => .past fun _ => ?_
    refine .nowMs (.read rfl) fun now => .ite (fun _ => ?_) fun _ => .pure _
    exact .bind (.ask (.challenge _)) fun _ => .throw _

lemma openEnrolledSession_makes (userID : String) (client : ClientInfo) :
    (s.openEnrolledSession p issueSession userID client).Makes NeutralStep := by
  refine .ite (fun _ => ((looks_getUser userID).mono fun _ => .read).bind fun user => ?_) fun _ => .pure _
  cases user with
  | none => exact .throw _
  | some user =>
    refine ((s.checkAccountStatus_reads user).mono fun _ => .read).bind fun _ => ?_
    exact ((s.issueTokens_makes p user client).mono fun _ => .signIn).bind fun _ => .pure _

lemma completePasskeyRegistration_keeps (userID challengeID credentialJSON deviceName : String) (issueSession : Bool)
    (client : ClientInfo) :
    (s.completePasskeyRegistration p userID challengeID credentialJSON deviceName issueSession client).Leaves caller
      (AttachGuard userID caller)
      (Settled userID caller) [] := by
  refine .refuseIf (fun _ => settled_of_unattached rfl) fun _ => ?_
  refine keeps_before_attach ((refuseCredentialAttach_reads userID).mono fun _ => .read) rfl fun own1 _ h1 => ?_
  refine keeps_before_attach ((s.checkEnrolment_reads issueSession userID).mono fun _ => .read) h1 fun own2 _ h2 => ?_
  refine keeps_before_attach (registrationChallenge_makes userID challengeID) h2 fun own3 challenge h3 => ?_
  refine .check (fun result _ => ?_) fun _ _ => settled_of_unattached h3
  refine .getUser (attachGuard_of_neutral (.read rfl)) fun holder => ?_
  have h4 : attachOf (accountRead caller userID holder :: own3) = none := by rw [attachOf_cons_of_not rfl, h3]
  cases holder with
  | none => exact settled_of_unattached h4
  | some holder =>
    refine .nowMs (attachGuard_of_neutral (.read rfl)) fun now => ?_
    refine .ask ⟨rfl, (attachOf_cons_of_not rfl).trans h4⟩ fun nodeID => ?_
    refine .ask (attachGuard_of_neutral (.challenge _)) fun _ => ?_
    refine .bind ((withdrawLate_keeps holder ?_
      (by rw [attachOf_cons_of_not rfl, attachOf_cons_of_attaches rfl]) ?_ (fun _ => rfl) fun _ => rfl).mono
        (fun own5 _ h5 => ?_) fun _ _ h => h)
    · rw [untilAttach_cons_of_not rfl, untilAttach_cons_of_attaches rfl]
      simp [accountRead]
    · exact fun own' hattached => ⟨rfl, _, _, hattached, rfl⟩
    -- the enrolled child's first session attaches nothing
    refine (s.openEnrolledSession_makes p issueSession userID client).through h5 ?_
      (fun _ _ _ hstep => attachGuard_of_neutral hstep) (fun _ _ h => h) fun _ _ h => h
    exact fun _ _ resp hsettled hstep => hsettled.cons (hstep.inert resp).1

end AuthService
end identity.service
