import Identity.Flows.SignIn.Issue
import Identity.Repository.Frame

open identity.repository identity.memory
open List (suffix_cons suffix_refl)
namespace identity.service

/-- A patch that leaves the account's status, its lockout, what it was merged into and the
    password change it owes alone, and proves no address. -/
@[grind]
structure LeavesStanding (patch : Fields) : Prop where
  status : ∀ u : User, (applyUserFields u patch).status = u.status
  lockedUntil : ∀ u : User, (applyUserFields u patch).lockedUntil = u.lockedUntil
  merged : ∀ u : User, (applyUserFields u patch).mergedIntoUserID = u.mergedIntoUserID
  unproven : ∀ u : User, (applyUserFields u patch).emailVerified = true → u.emailVerified = true
  owed : ∀ u : User, (applyUserFields u patch).passwordChangeRequired = u.passwordChangeRequired

/-- A patch that leaves the address, its proof, the password and the anonymous flag alone. -/
@[grind]
structure KeepsBinding (patch : Fields) : Prop where
  email : ∀ u : User, (applyUserFields u patch).email = u.email
  emailVerified : ∀ u : User, (applyUserFields u patch).emailVerified = u.emailVerified
  passwordHash : ∀ u : User, (applyUserFields u patch).passwordHash = u.passwordHash
  isAnonymous : ∀ u : User, (applyUserFields u patch).isAnonymous = u.isAnonymous

/-- An account that was merged away gives its address up. -/
def freedEmail (now : Int) : Fields :=
  fields [("email", .str ""), ("email_verified", .bool false), ("email_verified_at", .int 0), ("updated_at", .int now)]

def movedEmail (canonical : String) (now : Int) : Fields :=
  fields [("email", .str canonical), ("updated_at", .int now)]

lemma freedEmail_leavesStanding (now : Int) : LeavesStanding (freedEmail now) :=
  ⟨fun _ => rfl, fun _ => rfl, fun _ => rfl, fun _ => nofun, fun _ => rfl⟩

lemma movedEmail_leavesStanding (canonical : String) (now : Int) : LeavesStanding (movedEmail canonical now) :=
  ⟨fun _ => rfl, fun _ => rfl, fun _ => rfl, fun _ h => h, fun _ => rfl⟩

section
variable (s : AuthService) (accountID email : String)

/-- What an interactive sign-in into the account `accountID`, read with the address `email`, asks
    of the store before its session opens. -/
inductive AccountStep : Request → Prop
  | read {q : Request} (hread : q.isPlain = true) : AccountStep q
  | cancelDeletion (now : Int) : AccountStep (.user (.updateUser accountID (clearedDeletion now)))
  | column (userID : String) (patch : Fields) (hleaves : LeavesStanding patch) (hkeeps : KeepsBinding patch) :
      AccountStep (.user (.updateUser userID patch))
  | freed (holderID : String) (now : Int) (hother : holderID ≠ accountID) :
      AccountStep (.user (.updateUser holderID (freedEmail now)))
  | moved (canonical : String) (now : Int) (htarget : s.canonicalRewriteTarget email = .ok canonical) :
      AccountStep (.user (.updateUser accountID (movedEmail canonical now)))
  | address (userID addr : String) : AccountStep (.user (.assignAccountAddress userID addr))

/-- What it asks in all. -/
inductive SignInStep : Request → Prop
  | account {q : Request} (hstep : AccountStep s accountID email q) : SignInStep q
  | session (rec : SessionRecord) : SignInStep (.session (.createSession rec))
  | refreshToken (t : RefreshTokenRecord) : SignInStep (.session (.createRefreshToken t))

end

section Rows
variable {rel : User → User → Prop} (hrefl : ∀ u, rel u u)
  (hcancel : ∀ (now : Int) u, rel u (applyUserFields u (clearedDeletion now)))
  (hprofile : ∀ patch, LeavesStanding patch → ∀ u, rel u (applyUserFields u patch))
  (haddress : ∀ (addr : String) u, rel u { u with accountAddress := addr })

include hrefl hcancel hprofile haddress

/-- What no row loses to a sign-in's patches, no row loses to the sign-in. -/
lemma AccountStep.pointwise (hstep : AccountStep s accountID email q) (p : Platform) (tick : Tick) (r : Repo) :
    r.users.Pointwise rel (handle p q tick r).2.users := by
  have hpatch : ∀ userID patch, (∀ u, rel u (applyUserFields u patch)) →
      r.users.Pointwise rel (r.updateUser tick.now userID patch).2.users :=
    fun userID patch hrel => (updateUser_rewrites userID r tick.now patch).pointwise hrefl hrel
  cases hstep with
  | read hread =>
    rw [handle_isRead (isRead_of_isPlain hread)]
    exact GoMap.Pointwise.refl hrefl r.users
  | cancelDeletion now => exact hpatch _ _ (hcancel now)
  | column userID patch hleaves => exact hpatch _ _ (hprofile patch hleaves)
  | freed holderID now => exact hpatch _ _ (hprofile _ (freedEmail_leavesStanding now))
  | moved canonical now => exact hpatch _ _ (hprofile _ (movedEmail_leavesStanding canonical now))
  | address userID addr =>
    exact (assignAccountAddress_rewrites userID r addr).pointwise hrefl (haddress addr)

lemma SignInStep.pointwise (hstep : SignInStep s accountID email q) (p : Platform) (tick : Tick) (r : Repo) :
    r.users.Pointwise rel (handle p q tick r).2.users := by
  cases hstep with
  | account hstep => exact hstep.pointwise hrefl hcancel hprofile haddress p tick r
  | session s =>
    rw [handle_users p tick r rfl]
    exact GoMap.Pointwise.refl hrefl r.users
  | refreshToken t => exact GoMap.Pointwise.refl hrefl r.users

end Rows

lemma completes_nowMs (hmade : made .clock) : nowMs.Completes made := ⟨fun _ _ => ⟨hmade, fun _ => trivial⟩⟩

lemma hashed_reads (rules : PasswordRules) (password : String) : Looks (rules.hashed password) :=
  looks_randText.bind fun _ => makes_check _

namespace AuthService
variable (p : Platform) (s : AuthService)

/-! The gates only read. -/

lemma getCurrentUser_reads (userID : String) : Looks (getCurrentUser userID) := by
  refine .past fun _ => (looks_getUser _).bind fun user => ?_
  cases user with
  | none => exact .throw _
  | some user => exact .pure user

variable (user : User)

lemma checkLockout_reads : Looks (checkLockout user) :=
  .ite (fun _ => looks_nowMs.bind fun _ => makes_refuseIf _) fun _ => .pure ()

lemma checkAccountStatus_reads : Looks (s.checkAccountStatus user) :=
  (checkLockout_reads user).bind fun _ => .check fun _ => makes_refuseIf _

lemma agentOwner_reads (agent : User) : Looks (agentOwner agent) := by
  refine .past fun _ => (looks_getUser _).bind fun owner => ?_
  cases owner with
  | none => exact .throw _
  | some owner => exact .ite (fun _ => .pure owner) fun _ => .throw _

lemma looks_listGuardiansOfChild (childUserID : String) (limit offset : Int) :
    Looks (listGuardiansOfChild childUserID limit offset) := makes_attemptRequest rfl

lemma enforcePersonAccessLogin_reads : Looks (s.enforcePersonAccessLogin user) := by
  refine .ite (fun _ => makes_check _) fun _ => ?_
  split
  · exact .pure ()
  · exact .pure ()
  · exact (looks_listGuardiansOfChild _ _ _).bind fun _ => makes_refuseIf _

lemma enforceAccountAccessLogin_reads : Looks (s.enforceAccountAccessLogin user) :=
  .ite (fun _ => (agentOwner_reads user).bind fun owner => s.enforcePersonAccessLogin_reads owner)
    fun _ => s.enforcePersonAccessLogin_reads user

lemma checkAgentStanding_reads (agent : User) : Looks (s.checkAgentStanding agent) :=
  .past fun _ => (agentOwner_reads agent).bind fun owner => .past fun _ =>
    (s.enforceAccountAccessLogin_reads owner).bind fun _ => makes_refuseIf _

lemma checkStanding_reads : Looks (s.checkStanding user) :=
  .ite (fun _ => s.checkAgentStanding_reads user) fun _ => .pure ()

/-! The writes of a sign-in. -/

section Writes
variable {accountID email : String}

lemma updateColumn_makes (hleaves : LeavesStanding patch) (hkeeps : KeepsBinding patch) :
    (updateUser userID patch).Makes (AccountStep s accountID email) :=
  makes_attemptRequest (.column _ _ hleaves hkeeps)

lemma freeCanonicalEmail_makes (holder : Option User) (now : Int) :
    (freeCanonicalEmail user holder now).Makes (AccountStep s user.id email) := by
  cases holder with
  | none => exact .pure ()
  | some holder =>
    refine .ite (fun _ => .pure ()) fun hother => .ite (fun _ => .throw _) fun _ => ?_
    exact makes_attemptRequest (.freed holder.id now hother)

lemma storeCanonicalEmail_makes (now : Int) :
    (s.storeCanonicalEmail user now).Makes (AccountStep s user.id user.email) := by
  refine .ite (fun _ => .pure user) fun _ => makes_check_bind fun canonical htarget => ?_
  refine .bind (.ask (.read rfl)) fun holder => ?_
  refine (s.freeCanonicalEmail_makes user holder now).bind fun _ => ?_
  exact (makes_attemptRequest (.moved canonical now htarget)).bind fun _ => .pure _

/-- Whatever goes wrong with the address, the sign-in goes on, with the same account. -/
lemma ensureCanonicalEmail_completes :
    (s.ensureCanonicalEmail user).Completes (AccountStep s user.id user.email) := by
  refine (completes_nowMs (.read rfl)).bind fun now => ?_
  refine (s.storeCanonicalEmail_makes user now).attempted.bind fun result => ?_
  cases result with
  | error err => exact .pure user
  | ok user' => exact .pure user'

lemma assignFirstAddress_completes (candidates : List String) :
    (assignFirstAddress user candidates).Completes (AccountStep s accountID email) := by
  induction candidates with
  | nil => exact .pure user
  | cons candidate rest ih =>
    refine (makes_attemptRequest (.address user.id candidate)).attempted.bind fun result => ?_
    cases result with
    | ok held => exact .pure _
    | error err => exact .ite (fun _ => ih) fun _ => .pure user

lemma ensureAccountAddress_completes : (s.ensureAccountAddress user).Completes (AccountStep s accountID email) :=
  .ite (fun _ => .pure user) fun _ => s.assignFirstAddress_completes user _

lemma reissueAddressAfterEmailChange_completes :
    (s.reissueAddressAfterEmailChange user).Completes (AccountStep s accountID email) := by
  refine .ite (fun _ => .pure ()) fun _ => .ite (fun _ => .pure ()) fun _ => ?_
  refine Routine.Completes.bind (Routine.Makes.attempted ?_) fun result => ?_
  · exact s.updateColumn_makes ⟨fun _ => rfl, fun _ => rfl, fun _ => rfl, fun _ h => h, fun _ => rfl⟩
      ⟨fun _ => rfl, fun _ => rfl, fun _ => rfl, fun _ => rfl⟩
  cases result with
  | error err => exact .pure ()
  | ok _ => exact (s.ensureAccountAddress_completes _).bind fun _ => .pure ()

lemma updateLastLogin_completes (userID : String) :
    (updateLastLogin userID).Completes (AccountStep s accountID email) := by
  refine (completes_nowMs (.read rfl)).bind fun now => ?_
  refine Routine.Completes.bind (Routine.Makes.attempted ?_) fun _ => .pure ()
  exact s.updateColumn_makes ⟨fun _ => rfl, fun _ => rfl, fun _ => rfl, fun _ h => h, fun _ => rfl⟩
    ⟨fun _ => rfl, fun _ => rfl, fun _ => rfl, fun _ => rfl⟩

lemma clearPendingDeletion_makes : (clearPendingDeletion accountID).Makes (AccountStep s accountID email) :=
  .nowMs (.read rfl) fun now => makes_attemptRequest (.cancelDeletion now)

lemma cancelPendingDeletionOnLogin_makes :
    (cancelPendingDeletionOnLogin user).Makes (AccountStep s user.id user.email) := by
  refine .ite (fun _ => .pure user) fun _ => s.clearPendingDeletion_makes.attempt.bind fun result => ?_
  cases result with
  | error err => exact .pure user
  | ok _ => exact .pure _

end Writes

/-- The account as a sign-in sees it once its pending deletion is called off. -/
def reinstated (user : User) : User := { user with status := statusActive, deletionScheduledAtMs := 0 }

/-- The gates of a token issue let the account through. -/
@[grind]
structure Admits (user : User) : Prop where
  person : user.isAgent = false
  proven : s.needsEmailVerification user = false
  age : s.enforceProductAgeGate user = .ok ()
  born : s.ageGateRequireDOB = false ∨ user.isAnonymous = true ∨ user.dateOfBirthMs ≠ 0

def Signs : Prop := ∀ claims, ∃ token, s.signAccessToken claims = .ok token

variable {s} in
lemma Admits.dob (hadmits : s.Admits user) (authTimeMs : Int) : s.enforceDOBRequired user authTimeMs = .ok () := by
  unfold enforceDOBRequired
  rcases hadmits.born with h | h | h
  all_goals simp [h]

end AuthService

/-- The store refused to open a session. -/
def SessionRefused (caller : Nat) (own : Trace) : Prop :=
  ∃ rec err, (⟨caller, .session (.createSession rec), .error err⟩ : StoreEvent) ∈ own

namespace AuthService
section Settles
variable (p : Platform) (s : AuthService) {guard : Trace → Request → Prop}
variable (user : User)
section
variable (hguard : ∀ own' q, own <:+ own' → SignInStep s user.id user.email q → guard own' q)
include hguard

lemma cancelPendingDeletionOnLogin_settles : (cancelPendingDeletionOnLogin user).Keeps caller guard
      (fun own' user' => own <:+ own' ∧ (user' = user ∨ user' = reinstated user)) fails own := by
  refine .ite (fun _ => ⟨suffix_refl _, .inl rfl⟩) fun _ => ?_
  refine s.clearPendingDeletion_makes.attempted.through (suffix_refl own) (fun own' _ _ h _ => h.later)
    (fun own' q h hstep => hguard own' q h (.account hstep)) fun own' result h => ?_
  cases result with
  | error err => exact ⟨h, .inl rfl⟩
  | ok _ => exact ⟨h, .inr rfl⟩

lemma checkStanding_settles :
    (s.checkStanding user).Keeps caller guard (fun own' _ => own <:+ own') (fun _ _ => ¬ s.Admits user) own := by
  refine .ite (fun hagent => ?_) fun _ => suffix_refl own
  refine ((s.checkAgentStanding_reads user).mono fun _ h => .account (.read h)).keeps hguard (fun _ _ h => h)
    fun _ _ _ hadmits => ?_
  rw [hadmits.person] at hagent
  cases hagent

end

lemma openSession_settles (now : Int)
    (hguard : ∀ own' q, own <:+ own' → SignInStep s accountID email q → guard own' q) :
    (s.openSession user now).Keeps caller guard (fun own' _ => own <:+ own')
      (fun own' _ => SessionRefused caller own') own := by
  refine .ite (fun _ => ?_) fun _ => suffix_refl own
  refine .randText (hguard own _ (suffix_refl own) (.account (.read rfl))) fun sid => ?_
  have h1 : own <:+ ⟨caller, .random, sid⟩ :: own := suffix_cons _ own
  refine .attemptRequest (hguard _ _ h1 (.session _)) fun resp => ⟨?_, ?_⟩
  · exact fun _ _ => h1.later
  · rintro err rfl
    exact ⟨_, err, .head _⟩

variable (client : ClientInfo)
variable (sessionStartedAtMs authTimeMs : Int)

/-- Once the gates admit the account and the signer signs, only the store can stop the
    tokens, by refusing the session. -/
lemma prepareTokens_settles (tenantID : String)
    (hguard : ∀ own' q, own <:+ own' → SignInStep s user.id user.email q → guard own' q) :
    (s.prepareTokens p user client sessionStartedAtMs authTimeMs tenantID).Keeps caller guard
      (fun own' _ => own <:+ own')
      (fun own' _ => s.Admits user → s.Signs → SessionRefused caller own') own := by
  have hlasts : ∀ own' (q : Request) (resp : Request.Response q), own <:+ own' →
      AccountStep s user.id user.email q → own <:+ ⟨caller, q, resp⟩ :: own' := fun own' _ _ h _ => h.later
  have haccount : ∀ own' q, own <:+ own' → AccountStep s user.id user.email q → guard own' q :=
    fun own' q h hstep => hguard own' q h (.account hstep)
  refine .refuseIf (fun hbad hadmits => ?_) fun _ => ?_
  · rw [hadmits.proven] at hbad
    cases hbad
  refine (completes_nowMs (.read rfl)).through (suffix_refl own) hlasts haccount fun own1 now h1 => ?_
  refine .bind ((s.checkStanding_settles user fun own' q h => hguard own' q (h1.trans h)).mono
    (fun own2 _ h2 => ?_) fun _ _ hnot hadmits => absurd hadmits hnot)
  refine .check (fun _ _ => ?_) fun err herr hadmits => ?_
  rotate_left
  · rw [hadmits.age] at herr
    cases herr
  refine .check (fun _ _ => ?_) fun err herr hadmits => ?_
  rotate_left
  · rw [hadmits.dob] at herr
    cases herr
  refine (s.ensureCanonicalEmail_completes user).through (h1.trans h2) hlasts haccount fun own3 user1 h3 => ?_
  refine (s.ensureAccountAddress_completes user1).through h3 hlasts haccount fun own4 user2 h4 => ?_
  refine .bind ((s.openSession_settles user2 now fun own' q h => hguard own' q (h4.trans h)).mono
    (fun own5 sid h5 => ?_) fun _ _ hrefused _ _ => hrefused)
  refine .check (fun token _ => ?_) fun err herr _ hsigns => ?_
  rotate_left
  · obtain ⟨token, htoken⟩ := hsigns _
    rw [htoken] at herr
    cases herr
  refine .randText (haccount _ _ (h4.trans h5) (.read rfl)) fun rawRefresh => ?_
  exact (h4.trans h5).later

/-- The account passes the gates of an interactive sign-in, also when it calls a pending
    deletion off. -/
def SignsIn (user : User) : Prop := s.Admits user ∧ s.Admits (reinstated user)

/-- Every request of a sign-in is one of its steps, tokens are handed back only after the
    refresh token was stored, and an account that passes the gates fails only with the store. -/
lemma issueSignInTokens_settles
    (hguard : ∀ own' q, own <:+ own' → SignInStep s user.id user.email q → guard own' q) :
    (s.issueSignInTokens p user client sessionStartedAtMs authTimeMs).Keeps caller guard
      (fun own' _ => ∃ t id, (⟨caller, .session (.createRefreshToken t), id⟩ : StoreEvent) ∈ own')
      (fun own' _ => s.SignsIn user → s.Signs → SessionRefused caller own') own := by
  refine .refuseIf (fun hagent hfit => ?_) fun _ => ?_
  · rw [hfit.1.person] at hagent
    cases hagent
  refine .check (fun _ _ => ?_) fun err herr hfit => ?_
  rotate_left
  · rw [enforceVerifiedEmail, hfit.1.proven] at herr
    cases herr
  refine .bind ((s.cancelPendingDeletionOnLogin_settles user hguard).mono (fun own1 user' h1 => ?_) fun _ _ h => h)
  obtain ⟨h1, huser⟩ := h1
  have hsame : user'.id = user.id ∧ user'.email = user.email := by
    rcases huser with rfl | rfl
    all_goals exact ⟨rfl, rfl⟩
  have hadmits : s.SignsIn user → s.Admits user' := by
    rcases huser with rfl | rfl
    exacts [And.left, And.right]
  have hguard1 : ∀ own' q, own1 <:+ own' → SignInStep s user'.id user'.email q → guard own' q := by grind
  refine .bind (Routine.keeps_bind.mpr ((s.prepareTokens_settles p user' client _ _ _ hguard1).mono
    (fun own2 prepared h2 => ?_) fun _ _ hrefused hfit => hrefused (hadmits hfit)))
  refine .ask (hguard1 _ _ h2 (.refreshToken _)) fun nodeID => ?_
  -- the event that stored the token stays on record while the login time is written
  refine (s.updateLastLogin_completes prepared.1.user.id).through (suffix_refl _) (fun own' _ _ h _ => h.later)
    (fun own' q h hstep => hguard1 own' q ((h2.trans (suffix_cons _ own2)).trans h) (.account hstep)) ?_
  exact fun own3 _ h3 => ⟨prepared.2, nodeID, h3.subset (.head _)⟩

end Settles

section
variable (p : Platform) (s : AuthService) (user : User) (client : ClientInfo)

lemma issueSignInTokens_makes (sessionStartedAtMs authTimeMs : Int) :
    (s.issueSignInTokens p user client sessionStartedAtMs authTimeMs).Makes (SignInStep s user.id user.email) :=
  ⟨fun _ _ => (s.issueSignInTokens_settles p user client _ _ fun _ _ _ hstep => hstep).mono (fun _ _ _ => trivial)
    fun _ _ _ => trivial⟩

lemma issueTokens_makes : (s.issueTokens p user client).Makes (SignInStep s user.id user.email) :=
  .nowMs (.account (.read rfl)) fun _ => s.issueSignInTokens_makes p user client _ _

end
end AuthService
end identity.service
