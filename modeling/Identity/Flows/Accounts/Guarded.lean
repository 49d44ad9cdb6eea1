import Identity.Flows.Accounts.Merging
import Identity.Flows.Accounts.Passwords
import Identity.Memory.Users.Receipts
import Identity.Repository.Delegation

open identity.repository identity.memory
namespace identity.service
open AccountMerge GoMap

/-- A self-service merge, or a call that may guard the password of an account or replace a
    guarded one. -/
inductive GuardedCall where
  | mergeAccounts (auth : AuthService) (survivorID : String) (authTimeSec : Int)
      (otherIdentifier otherPassword : String)
      (takeAddress : Bool)
  | verifyTotpSetup (totp : TotpService) (userID code : String)
  | resetUserPassword (admin : AdminService) (expirySeconds : Int) (actorID targetUserID : String)
      (generateTemp : Bool)
  | completeRequiredPasswordChange (auth : AuthService) (completionToken newPassword secondFactorCode : String)
      (client : ClientInfo)

def GuardedCall.flow (p : Platform) : GuardedCall → ServiceCall Unit
  | mergeAccounts auth survivorID authTimeSec otherIdentifier otherPassword takeAddress => do
    let _ ← auth.mergeOwnAccounts survivorID authTimeSec otherIdentifier otherPassword takeAddress
    return
  | verifyTotpSetup totp userID code => do
    let _ ← totp.verifyTotpSetup userID code
    return
  | resetUserPassword admin expirySeconds actorID targetUserID generateTemp => do
    let _ ← admin.resetUserPassword p expirySeconds actorID targetUserID generateTemp
    return
  | completeRequiredPasswordChange auth completionToken newPassword secondFactorCode client => do
    let _ ← auth.completeRequiredPasswordChange p completionToken newPassword secondFactorCode client
    return

def GuardedCall.program (p : Platform) (call : GuardedCall) : Call Request.Response (Except Err Unit) :=
  (call.flow p).call

def GuardedCall.merges : GuardedCall → Bool
  | mergeAccounts .. => true
  | _ => false

/-- The account has a second factor that was verified. -/
def SecondFactorVerified (r : Repo) (userID : String) : Prop :=
  r.totpCreds.anyRow (fun cred => cred.userID == userID && cred.verified) = true

instance (r : Repo) (userID : String) : Decidable (SecondFactorVerified r userID) :=
  inferInstanceAs (Decidable (_ = true))

/-- The account owes a change of an issued password. -/
def ChangeOwed (r : Repo) (userID : String) : Prop :=
  ∃ u, r.users.lookup userID = some u ∧ u.passwordChangeRequired = true

/-- A row that owes no change it did not owe, and that no merge has brought back. -/
structure Unguarding (u u' : User) : Prop where
  id : u'.id = u.id
  owed : u'.passwordChangeRequired = true → u.passwordChangeRequired = true
  merged : u'.mergedIntoUserID = "" → u.mergedIntoUserID = ""

lemma Unguarding.refl (u : User) : Unguarding u u := ⟨rfl, fun h => h, fun h => h⟩

lemma Unguarding.of_leavesStanding (hleaves : LeavesStanding patch) (u : User) :
    Unguarding u (applyUserFields u patch) where
  id := applyUserFields_id u patch
  owed howed := by rwa [hleaves.owed] at howed
  merged hmerged := by rwa [hleaves.merged] at hmerged

/-- What these calls ask, the merge itself apart: an administrator's patch, a write to a
    second factor, or a step that guards nobody. -/
inductive GuardStep : Request → Prop
  | node (userID pwHash : String) (now : Int) : GuardStep (.user (.updateUserNode userID (issuedPassword pwHash now)))
  | factor (nodeID : String) (patch : Fields) : GuardStep (.credential (.updateTotpCredential nodeID patch))
  | recovery (nodeID : String) (patch : Fields) : GuardStep (.credential (.updateRecoveryCode nodeID patch))
  | mailed (kind : EmailTokenKind) (t : EmailTokenRecord) : GuardStep (.credential (.createEmailToken kind t))
  | rows {q : Request} (hcredentials : q.leavesCredentials = true) (hrows : LeavesRows Unguarding q) : GuardStep q

variable {q : Request}

lemma GuardStep.of_read (hread : q.isRead = true) : GuardStep q := by
  refine .rows ?_ fun p tick r => ?_
  · cases q with
    | user q => cases q <;> first | rfl | cases hread
    | credential q => exact hread
    | _ => rfl
  · rw [handle_isRead hread]
    exact GoMap.Pointwise.refl Unguarding.refl r.users

lemma GuardStep.of_leavesUsers (hcredentials : q.leavesCredentials = true) (husers : q.leavesUsers = true) :
    GuardStep q :=
  .rows hcredentials (leavesRows_of_leavesUsers Unguarding.refl husers)

lemma GuardStep.of_passwordStep (hstep : PasswordStep q) : GuardStep q := by
  have hrows : LeavesRows Unguarding q := hstep.leavesRows fun u n m => ⟨rfl, id, id⟩
  cases hstep with
  | read hread => exact .of_read (isRead_of_isPlain hread)
  | failure | lockout | reset => exact .rows rfl hrows

lemma GuardStep.of_updateUser (hrow : ∀ u, Unguarding u (applyUserFields u patch)) (userID : String) :
    GuardStep (.user (.updateUser userID patch)) :=
  .rows rfl (leavesRows_updateUser Unguarding.refl patch hrow userID)

lemma GuardStep.of_signInStep (hstep : SignInStep s accountID email q) : GuardStep q := by
  have hrows : LeavesRows Unguarding q := fun p tick r =>
    hstep.pointwise Unguarding.refl (fun now u => ⟨rfl, id, id⟩) (fun patch hleaves => .of_leavesStanding hleaves)
      (fun addr u => ⟨rfl, id, id⟩) p tick r
  cases hstep with
  | account hstep =>
    cases hstep with
    | read hread => exact .of_read (isRead_of_isPlain hread)
    | cancelDeletion | column | freed | moved | address => exact .rows rfl hrows
  | session | refreshToken => exact .rows rfl hrows

lemma looks_guardSteps (hlooks : Looks flow) : flow.Makes GuardStep :=
  hlooks.mono fun _ hplain => .of_read (isRead_of_isPlain hplain)

lemma verifyTotpSetup_steps (s : TotpService) (userID code : String) :
    (s.verifyTotpSetup userID code).Makes GuardStep := by
  refine .past fun _ => .bind (.ask (.of_read rfl)) fun found => ?_
  cases found with
  | none => exact .throw _
  | some cred =>
    dsimp only
    split
    · exact .throw _
    refine .past fun _ => .nowMs (.of_read rfl) fun now => ?_
    refine (makes_attemptRequest (.factor _ _)).attempt.bind fun _ => ?_
    refine (makes_attemptRequest (.of_updateUser (fun u => ?_) userID)).attempt.bind fun _ => .pure _
    exact ⟨rfl, id, id⟩

lemma resetUserPassword_steps (p : Platform) (s : AdminService) (expirySeconds : Int) (actorID targetUserID : String)
    (generateTemp : Bool) :
    (s.resetUserPassword p expirySeconds actorID targetUserID generateTemp).Makes GuardStep := by
  refine (looks_guardSteps (requireAdmin_reads actorID)).bind fun _ => .past fun _ => ?_
  refine (looks_guardSteps (looks_getUser _)).bind fun found => ?_
  cases found with
  | none => exact .throw _
  | some target =>
    refine .past fun _ => .past fun _ => .nowMs (.of_read rfl) fun now => ?_
    refine .ite (fun _ => ?_) fun _ => ?_
    · refine (makes_randText (.of_read rfl)).bind fun _ => (looks_guardSteps (hashed_reads _ _)).bind fun _ => ?_
      exact .bind (.ask (.node _ _ _)) fun _ => .pure _
    · refine (makes_randText (.of_read rfl)).bind fun _ => ?_
      exact .bind (.ask (.mailed _ _)) fun _ => .pure _

namespace AuthService
variable (p : Platform) (s : AuthService)

lemma useRecoveryCode_steps (userID codeHash : String) : (useRecoveryCode userID codeHash).Makes GuardStep := by
  refine .ite (fun _ => .pure _) fun _ => .bind (.ask (.of_read rfl)) fun found => ?_
  cases found with
  | none => exact .pure _
  | some rc =>
    refine .ite (fun _ => .pure _) fun _ => .nowMs (.of_read rfl) fun now => ?_
    exact (makes_attemptRequest (.recovery _ _)).attempt.bind fun _ => .pure _

lemma verifySecondFactorCode_steps (userID code : String) :
    (s.verifySecondFactorCode userID code).Makes GuardStep := by
  refine .bind (.ask (.of_read rfl)) fun found => ?_
  cases found with
  | none => exact .throw _
  | some cred =>
    refine .past fun _ => .bind ?_ fun method => ?_
    · refine .ite (fun _ => .pure _) fun _ => (useRecoveryCode_steps userID _).bind fun used => ?_
      exact .ite (fun _ => .pure _) fun _ => .throw _
    · refine .nowMs (.of_read rfl) fun now => ?_
      exact (makes_attemptRequest (.factor _ _)).attempt.bind fun _ => .pure _

lemma proveSecondFactor_steps (user : User) (policyForced : Bool) (code : String) :
    (s.proveSecondFactor user policyForced code).Makes GuardStep := by
  refine .ite (fun _ => ?_) fun _ => .pure ()
  refine .bind ?_ fun _ => (s.verifySecondFactorCode_steps user.id code).attempt.bind fun result => ?_
  · refine .ite (fun _ => .pure ()) fun _ => .bind (.ask (.of_read rfl)) fun cred => ?_
    exact makes_refuseIf _
  cases result with
  | ok _ => exact .pure ()
  | error err =>
    have hfailed : (s.recordFailedLogin user).Makes GuardStep :=
      (s.recordFailedLogin_steps user).mono fun _ => .of_passwordStep
    exact (hfailed.attempt.bind fun _ => .pure ()).bind fun _ => .throw err

lemma replaceIssuedPassword_steps (user : User) (newPassword : String) (authTime : Int) (client : ClientInfo) :
    (s.replaceIssuedPassword p user newPassword authTime client).Makes GuardStep := by
  refine (looks_guardSteps (hashed_reads _ newPassword)).bind fun pwHash => .nowMs (.of_read rfl) fun now => ?_
  have hreset : ∀ u, Unguarding u (applyUserFields u (resetPassword pwHash now)) := fun u => by
    have hsettled : (applyUserFields u (resetPassword pwHash now)).passwordChangeRequired = false := rfl
    have hmerged : (applyUserFields u (resetPassword pwHash now)).mergedIntoUserID = u.mergedIntoUserID :=
      applyUserFields_merged rfl u
    refine ⟨applyUserFields_id u _, fun howed => ?_, fun h => by rwa [hmerged] at h⟩
    rw [hsettled] at howed
    cases howed
  refine (makes_attemptRequest (.of_updateUser hreset user.id)).bind fun _ => ?_
  refine .bind (.ask (GuardStep.of_leavesUsers rfl rfl)) fun _ => ?_
  refine .bind ?_ fun _ => .nowMs (.of_read rfl) fun started => ?_
  · refine .ite (fun _ => ?_) fun _ => .pure ()
    exact .nowMs (.of_read rfl) fun _ => .ask (.of_leavesUsers rfl rfl)
  · refine .bind ?_ fun issued => .pure _
    exact (s.issueSignInTokens_makes p _ client started _).mono fun _ => .of_signInStep

lemma completeRequiredPasswordChange_steps (completionToken newPassword secondFactorCode : String)
    (client : ClientInfo) :
    (s.completeRequiredPasswordChange p completionToken newPassword secondFactorCode client).Makes GuardStep := by
  refine .check fun claims => .past fun _ => ?_
  refine (looks_guardSteps (looks_getUser _)).bind fun found => ?_
  cases found with
  | none => exact .throw _
  | some user =>
    refine .past fun _ => (looks_guardSteps (s.postPasswordGates_reads user true)).bind fun policyForced => ?_
    refine .past fun _ => .check fun _ => .past fun _ => ?_
    exact (s.proveSecondFactor_steps user policyForced _).bind fun _ => s.replaceIssuedPassword_steps p user _ _ client

end AuthService

/-- What a call may ask, given the steps it has taken: a merge retires an account that its
    lookup showed unguarded. -/
def GuardedGuard (call : GuardedCall) (own : Trace) (q : Request) : Prop :=
  GuardStep q ∨ ∃ m other, q = .user (.applyAccountMerge m) ∧ call.merges = true ∧ FoundAs own other ∧
    other.id = m.otherID ∧
    other.totpRequired = false ∧ other.passwordChangeRequired = false

lemma GuardedCall.keeps (p : Platform) (call : GuardedCall) (caller : Nat) :
    (call.flow p).Asks caller (GuardedGuard call) [] := by
  have hsteps : ∀ {flow : ServiceCall Unit}, flow.Makes GuardStep →
      flow.Asks caller (GuardedGuard call) [] := fun hmakes =>
    hmakes.keeps (fun _ _ _ => .inl) (fun _ _ _ => trivial) fun _ _ _ => trivial
  cases call with
  | mergeAccounts auth survivorID authTimeSec otherIdentifier otherPassword takeAddress =>
    refine (mergeOwnAccounts_keeps auth (fun _ _ _ hstep => .inl (.of_passwordStep hstep)) ?_).seq fun _ _ _ => trivial
    intro own survivor other now _ _ hfound htotp howed _
    exact .inr ⟨_, other, rfl, rfl, hfound, rfl, htotp, howed⟩
  | verifyTotpSetup totp userID code => exact hsteps ((verifyTotpSetup_steps totp userID code).bind fun _ => .pure ())
  | resetUserPassword admin expirySeconds actorID targetUserID generateTemp =>
    exact hsteps ((resetUserPassword_steps p admin expirySeconds actorID targetUserID generateTemp).bind
      fun _ => .pure ())
  | completeRequiredPasswordChange auth completionToken newPassword secondFactorCode client =>
    exact hsteps ((auth.completeRequiredPasswordChange_steps p completionToken newPassword secondFactorCode
      client).bind
      fun _ => .pure ())

abbrev GuardedPool : Type := Pool Request.Response Repo (Except Err Unit)

section Marks
variable {r : Repo}

/-- The account whose password the request is about to guard: its second factor is marked
    verified, or an issued password has to be replaced. -/
def guards (r : Repo) : Request → Option String
  | .user (.updateUserNode userID patch) =>
    if patchedBool patch "password_change_required" false then some userID else none
  | .credential (.updateTotpCredential nodeID patch) =>
    if patchedBool patch "verified" false then (r.totpCreds.lookup nodeID).map (·.userID) else none
  | _ => none

lemma patchedBool_mono (hunset : ¬ patchedBool patch key false = true)
    (hpatched : patchedBool patch key old = true) : old = true := by
  unfold patchedBool at hunset hpatched
  cases hvalue : patch.lookup key with
  | none => simpa only [hvalue] using hpatched
  | some value =>
    rw [hvalue] at hunset hpatched
    cases value with
    | bool b => exact absurd hpatched hunset
    | _ => cases hpatched

lemma applyToUsers_owed {m : AccountMerge}
    (hok : m.applyToUsers (some s) (some o) = .ok (survivor, other)) :
    survivor.passwordChangeRequired = s.passwordChangeRequired ∧ other.passwordChangeRequired =
      o.passwordChangeRequired := by
  obtain ⟨rfl, rfl⟩ := applyToUsers_eq hok
  unfold AccountMerge.moves
  cases m.moveUsername <;> cases m.movePassword <;> cases m.moveEmail <;> cases m.swapAddress <;> exact ⟨rfl, rfl⟩

lemma applyAccountMerge_totpCreds (r : Repo) (m : AccountMerge) :
    (r.applyAccountMerge m).2.totpCreds = r.totpCreds := by
  unfold Repo.applyAccountMerge
  split
  · dsimp only
    rw [(revokeChangedUsers_grantsOnly r r.users m.atMs).frame]
  rename_i survivor other hok
  rw [(revokeChangedUsers_grantsOnly (r.mergeRows m survivor other) r.users m.atMs).frame]
  obtain ⟨creations, hframe⟩ := mergeRows_frame r m survivor other
  rw [hframe]
  rfl

/-- A step that does not guard the account: it leaves the account's row unguarding, and
    verifies no second factor of it. -/
structure LeavesUnguarded (userID : String) (r r' : Repo) : Prop where
  row : ∀ u', r'.users.lookup userID = some u' → ∃ u, r.users.lookup userID = some u ∧ Unguarding u u'
  factor : SecondFactorVerified r' userID → SecondFactorVerified r userID

lemma unguarding_of_pointwise {r' : Repo} (hrows : r.users.Pointwise Unguarding r'.users)
    (hu' : r'.users.lookup userID = some u') : ∃ u, r.users.lookup userID = some u ∧ Unguarding u u' := by
  cases hu : r.users.lookup userID with
  | none =>
    rw [hrows.lookup_none.mpr hu] at hu'
    cases hu'
  | some u =>
    obtain ⟨v, hv, hrel⟩ := hrows.lookup_some hu
    rw [hu'] at hv
    cases hv
    exact ⟨u, rfl, hrel⟩

lemma updateUserNode_unguarded (r : Repo) (now atMs : Int) (nodeID pwHash : String) (hnot : nodeID ≠ userID) :
    LeavesUnguarded userID r (r.updateUserNode now nodeID (issuedPassword pwHash atMs)) := by
  unfold Repo.updateUserNode
  split
  · exact ⟨fun u' hu' => ⟨u', hu', .refl u'⟩, id⟩
  rename_i u hu
  refine ⟨fun u' hu' => ?_, ?_⟩
  · rw [writeUser_users, lookup_insert_eq, if_neg hnot.symm] at hu'
    exact ⟨u', hu', .refl u'⟩
  unfold SecondFactorVerified Repo.writeUser
  rw [(revokeAgentOAuthUserLocked_grantsOnly _ (some u) _ now).frame]
  exact id

lemma updateTotpCredential_unguarded (r : Repo) (nodeID : String) (patch : Fields)
    (hnot : guards r (.credential (.updateTotpCredential nodeID patch)) ≠ some userID) :
    LeavesUnguarded userID r (r.updateTotpCredential nodeID patch).2 := by
  have hguards : guards r (.credential (.updateTotpCredential nodeID patch)) =
    if patchedBool patch "verified" false then (r.totpCreds.lookup nodeID).map (·.userID) else none := rfl
  rw [hguards] at hnot
  unfold Repo.updateTotpCredential
  split
  · exact ⟨fun u' hu' => ⟨u', hu', .refl u'⟩, id⟩
  rename_i cred hcred
  refine ⟨fun u' hu' => ⟨u', hu', .refl u'⟩, ?_⟩
  unfold SecondFactorVerified
  simp only [anyRow_iff, Bool.and_eq_true, beq_iff_eq]
  rintro ⟨key, found, hfound, huser, hverified⟩
  rw [lookup_insert_eq] at hfound
  split at hfound
  · cases hfound
    refine ⟨nodeID, cred, hcred, huser, patchedBool_mono (fun hset => hnot ?_) hverified⟩
    rw [if_pos hset, hcred]
    exact congrArg some huser
  · exact ⟨key, found, hfound, huser, hverified⟩

/-- A merge guards nobody. -/
lemma applyAccountMerge_unguarded (r : Repo) (m : AccountMerge) :
    LeavesUnguarded userID r (r.applyAccountMerge m).2 := by
  refine ⟨fun u' => unguarding_of_pointwise (applyAccountMerge_pointwise Unguarding.refl r m ?_ ?_), ?_⟩
  · intro u v hrel
    have hsame : (m.applyToAgent v).passwordChangeRequired = v.passwordChangeRequired ∧
        (m.applyToAgent v).mergedIntoUserID = v.mergedIntoUserID := by
      unfold applyToAgent
      dsimp only
      split <;> split <;> exact ⟨rfl, rfl⟩
    exact ⟨(applyToAgent_id m v).trans hrel.id, fun h => hrel.owed (hsame.1 ▸ h), fun h => hrel.merged (hsame.2 ▸ h)⟩
  · intro s o s' o' hok
    obtain ⟨s0, o0, hs, ho, hsurvivor, hother, -, hsid, hoid, -, -⟩ := applyToUsers_ok hok
    cases hs
    cases ho
    obtain ⟨hsowed, hoowed⟩ := applyToUsers_owed hok
    have hunmerged : ∀ u : User, mergeable u = true → u.mergedIntoUserID = "" := fun u hu => by
      simp only [mergeable, Bool.and_eq_true, beq_iff_eq] at hu
      exact hu.1.2
    exact ⟨⟨hsid, fun h => hsowed ▸ h, fun _ => hunmerged s hsurvivor⟩, hoid, fun h => hoowed ▸ h,
      fun _ => hunmerged o hother⟩
  unfold SecondFactorVerified
  rw [applyAccountMerge_totpCreds]
  exact id

/-- Every step of these calls, seen from an account it does not guard. -/
lemma GuardedGuard.unguarded (hguard : GuardedGuard call own q)
    (hnot : guards r q ≠ some userID) (p : Platform) (tick : Tick) :
    LeavesUnguarded userID r (handle p q tick r).2 := by
  rcases hguard with hstep | ⟨m, other, rfl, -⟩
  · cases hstep with
    | node nodeID pwHash now => exact updateUserNode_unguarded r _ _ nodeID pwHash fun heq => hnot (congrArg some heq)
    | factor nodeID patch => exact updateTotpCredential_unguarded r nodeID patch hnot
    | recovery nodeID patch =>
      refine ⟨fun u' hu' => ⟨u', ?_, .refl u'⟩, ?_⟩
      · rwa [handle_users p tick r rfl] at hu'
      show SecondFactorVerified (r.updateRecoveryCode nodeID patch).2 userID → _
      unfold Repo.updateRecoveryCode
      split <;> exact id
    | mailed kind t =>
      refine ⟨fun u' hu' => ⟨u', ?_, .refl u'⟩, ?_⟩
      · rwa [handle_users p tick r rfl] at hu'
      cases kind <;> exact id
    | rows hcredentials hrows =>
      refine ⟨fun u' => unguarding_of_pointwise (hrows p tick r), ?_⟩
      unfold SecondFactorVerified
      rw [(handle_credentials p tick r hcredentials).totpCreds]
      exact id
  · exact applyAccountMerge_unguarded r m

/-- Every row a step leaves was there under the same name, and if it is not merged now, it
    was not merged then. -/
lemma GuardedGuard.row (hguard : GuardedGuard call own q)
    (p : Platform) (tick : Tick) (hu' : (handle p q tick r).2.users.lookup key = some u') :
    ∃ u, r.users.lookup key = some u ∧ u'.id = u.id ∧ (u'.mergedIntoUserID = "" → u.mergedIntoUserID = "") := by
  by_cases hguards : guards r q = some key
  · rcases hguard with hstep | ⟨m, other, rfl, -⟩
    · cases hstep with
      | node nodeID pwHash now =>
        have hrow : (r.updateUserNode tick.now nodeID (issuedPassword pwHash now)).users.lookup key = some u' := hu'
        unfold Repo.updateUserNode at hrow
        split at hrow
        · exact ⟨u', hrow, rfl, id⟩
        rename_i u hu
        rw [writeUser_users, lookup_insert_eq] at hrow
        split at hrow
        · rename_i hkey
          cases hrow
          rw [applyUserFields_id, applyUserFields_merged rfl, hkey]
          exact ⟨u, hu, rfl, id⟩
        · exact ⟨u', hrow, rfl, id⟩
      | factor nodeID patch =>
        rw [handle_users p tick r rfl] at hu'
        exact ⟨u', hu', rfl, id⟩
      | recovery | mailed => cases hguards
      | rows hcredentials hrows =>
        obtain ⟨u, hu, hrel⟩ := unguarding_of_pointwise (hrows p tick r) hu'
        exact ⟨u, hu, hrel.id, hrel.merged⟩
    · cases hguards
  · obtain ⟨u, hu, hrel⟩ := (hguard.unguarded hguards p tick).row u' hu'
    exact ⟨u, hu, hrel.id, hrel.merged⟩

/-- A lookup answers a row that is stored under its own name. -/
lemma lookup_of_accountFound_keyed (hkeyed : KeyedUsers r)
    (hfound : accountFound ⟨caller, q, (handle p q tick r).1⟩ = some u) :
    r.users.lookup u.id = some u ∧ (handle p q tick r).2 = r := by
  have hrow : ∀ {pred}, r.users.findRow pred = some u → r.users.lookup u.id = some u := fun hfind => by
    obtain ⟨⟨key, hkey⟩, -⟩ := findRow_some hfind
    rwa [hkeyed key u hkey]
  cases q with
  | user q =>
    cases q with
    | findUserByEmail email =>
      have hfound : r.findUserByEmail email = some u := hfound
      unfold Repo.findUserByEmail at hfound
      split at hfound
      · cases hfound
      · exact ⟨hrow hfound, rfl⟩
    | findUserByUsername username =>
      have hfound : r.findUserByUsername username = some u := hfound
      unfold Repo.findUserByUsername at hfound
      split at hfound
      · cases hfound
      · exact ⟨hrow hfound, rfl⟩
    | _ => cases hfound
  | _ => cases hfound

end Marks

section Deciding
variable (p : Platform) (calls : List GuardedCall)

/-- The event is a merge's lookup, which showed the account unguarded. -/
def foundUnguarded (userID : String) (event : StoreEvent) : Bool :=
  (calls[event.caller]?).any GuardedCall.merges &&
    (accountFound event).any fun u => u.id == userID && !u.totpRequired && !u.passwordChangeRequired

/-- A merge that has found the account unguarded has neither finished nor been overtaken by
    another merge of the account. -/
def Deciding (pool : GuardedPool) (userID : String) : Prop :=
  (∃ event ∈ pool.trace, foundUnguarded calls userID event = true ∧ pool.result event.caller = none) ∧
    (pool.store.users.lookup userID).any (fun u => u.mergedIntoUserID == "") = true

/-- A merge looks an account up only when a verified second factor shows in the account's
    flag, and no account is guarded between a merge's lookup and its end. -/
def GuardsSettled (pool : GuardedPool) (caller : Nat) (tick : Tick) (q : Request) : Prop :=
  ((calls[caller]?).any GuardedCall.merges = true →
    ∀ u, accountFound ⟨caller, q, (handle p q tick pool.store).1⟩ = some u → SecondFactorVerified pool.store u.id →
      u.totpRequired = true) ∧
  ∀ userID, guards pool.store q = some userID → ¬ Deciding calls pool userID

instance (pool : GuardedPool) (userID : String) : Decidable (Deciding calls pool userID) :=
  inferInstanceAs (Decidable ((∃ event ∈ pool.trace, _ ∧ _) ∧ _))

instance (pool : GuardedPool) (caller : Nat) (tick : Tick) (q : Request) :
    Decidable (GuardsSettled p calls pool caller tick q) :=
  inferInstanceAs (Decidable ((_ → ∀ u, _ = some u → _ → _) ∧ ∀ userID, _ = some userID → ¬ _))

end Deciding

/-- Rows stand under their names, and an account that a merge is about to retire is
    unguarded. -/
structure GuardedInv (calls : List GuardedCall) (pool : GuardedPool) : Prop where
  keyed : KeyedUsers pool.store
  unguarded : ∀ userID, Deciding calls pool userID →
    ¬ SecondFactorVerified pool.store userID ∧ ¬ ChangeOwed pool.store userID

lemma GuardedInv.step (hinv : GuardedInv calls pool) (hcall : pool.Awaits caller q next)
    (hguard : GuardedGuard call (Pool.own pool.trace caller) q) (hsettled : GuardsSettled p calls pool caller tick q) :
    GuardedInv calls (pool.step (handle p) caller tick) := by
  have hstore : (pool.step (handle p) caller tick).store = (handle p q tick pool.store).2 := by
    rw [Pool.step_request hcall]
  refine ⟨fun key u' hu' => ?_, ?_⟩
  · rw [hstore] at hu'
    obtain ⟨u, hu, hid, -⟩ := hguard.row p tick hu'
    exact hid.trans (hinv.keyed key u hu)
  rintro userID ⟨⟨event, hmem, hfound, hopen⟩, hunmerged⟩
  rw [hstore] at hunmerged ⊢
  rw [Pool.step_request hcall] at hmem
  rcases List.mem_cons.mp hmem with rfl | hmem
  · -- the step is the lookup itself
    obtain ⟨hmerges, hfound⟩ := Bool.and_eq_true_iff.mp hfound
    simp only [Option.any_eq_true, Bool.and_eq_true, beq_iff_eq, Bool.not_eq_true'] at hfound
    obtain ⟨u, hu, ⟨rfl, htotp⟩, howed⟩ := hfound
    obtain ⟨hrow, hsame⟩ := lookup_of_accountFound_keyed hinv.keyed hu
    rw [hsame]
    refine ⟨fun hverified => ?_, ?_⟩
    · have hflag := hsettled.1 hmerges u hu hverified
      rw [htotp] at hflag
      cases hflag
    rintro ⟨v, hv, hv'⟩
    rw [hrow] at hv
    cases hv
    rw [howed] at hv'
    cases hv'
  -- the lookup was before, so this step does not guard the account
  simp only [Option.any_eq_true, beq_iff_eq] at hunmerged
  obtain ⟨u', hu', hunmerged⟩ := hunmerged
  have hdeciding : Deciding calls pool userID := by
    obtain ⟨u, hu, -, hmerged⟩ := hguard.row p tick hu'
    exact ⟨⟨event, hmem, hfound, Pool.unfinished_of_step hopen⟩, by simp [hu, hmerged hunmerged]⟩
  have hleaves := hguard.unguarded (fun hguards => hsettled.2 userID hguards hdeciding) p tick
  obtain ⟨hfactor, howed⟩ := hinv.unguarded userID hdeciding
  refine ⟨fun h => hfactor (hleaves.factor h), ?_⟩
  rintro ⟨v, hv, hv'⟩
  obtain ⟨u, hu, hrel⟩ := hleaves.row v hv
  exact howed ⟨u, hu, hrel.owed hv'⟩

/-- What a merge found when it moved a password. -/
lemma applyToUsers_movesPassword {m : AccountMerge}
    (hok : m.applyToUsers (some s) (some o) = .ok (survivor, other)) (hmove : m.movePassword = true) :
    s.passwordHash = "" := by
  unfold applyToUsers at hok
  dsimp only at hok
  split at hok
  · cases hok
  split at hok
  · cases hok
  rename_i hfree
  simp only [hmove, Bool.true_and, Bool.or_eq_true, not_or, bne_iff_ne, not_not] at hfree
  exact hfree.1.2

/-- A merge that moves the retired account's password finds that account unguarded and the
    surviving one without a password. -/
theorem guarded_password_stays (p : Platform) (r : Repo) (hkeyed : KeyedUsers r) (calls : List GuardedCall)
    (schedule : List (Nat × Tick)) (caller : Nat) (m : AccountMerge) :
    let start : GuardedPool := Pool.start r (calls.map (GuardedCall.program p))
    let pool := start.run (handle p) schedule
    Pool.Along (handle p) (GuardsSettled p calls) start schedule →
      pool.pending caller = some (.user (.applyAccountMerge m)) → m.movePassword = true →
      (pool.store.applyAccountMerge m).1 = .ok () →
      ¬ SecondFactorVerified pool.store m.otherID ∧ ¬ ChangeOwed pool.store m.otherID ∧
        ∃ survivor, pool.store.users.lookup m.survivorID = some survivor ∧ survivor.passwordHash = "" := by
  intro start pool hsettled hmerge hmoves hok
  have hkeep : start.Keep (fun caller own q => ∃ call, calls[caller]? = some call ∧ GuardedGuard call own q)
      (fun caller _ _ => ∃ call, calls[caller]? = some call ∧ True) :=
    Pool.keep_start (fun call caller => Call.Keeps.mono (call.keeps p caller) fun _ _ _ => trivial) r
  have hfirst : GuardedInv calls start :=
    ⟨hkeyed, fun userID hdeciding => absurd hdeciding.1 fun ⟨event, hmem, _⟩ => nomatch hmem⟩
  have hinv : GuardedInv calls pool := by
    refine Pool.along_invariant (fun pool caller tick q next hinv hcall _ hguard hsettled => ?_)
      hkeep hfirst schedule hsettled
    obtain ⟨call, -, hguard⟩ := hguard
    exact GuardedInv.step hinv hcall hguard hsettled
  obtain ⟨next, hcall⟩ := Pool.request_of_pending hmerge
  obtain ⟨call, hitem, hguard⟩ := (hkeep.run schedule caller _ hcall).1
  obtain ⟨survivor, other, happlied⟩ : ∃ survivor other,
      m.applyToUsers (pool.store.users.lookup m.survivorID) (pool.store.users.lookup m.otherID) =
        .ok (survivor, other) := by
    unfold Repo.applyAccountMerge at hok
    split at hok
    · cases hok
    · exact ⟨_, _, ‹_›⟩
  obtain ⟨s0, o0, hs, ho, -, hmergeable, -⟩ := applyToUsers_ok happlied
  rw [hs, ho] at happlied
  have hdeciding : Deciding calls pool m.otherID := by
    rcases hguard with hstep | ⟨m', found', hq, hmerges, ⟨event, hevent, found, n, k, hfound, rfl⟩, hid, htotp, howed⟩
    · cases hstep with
      | rows hcredentials hrows => cases hcredentials
    cases hq
    obtain ⟨hmem, hcaller⟩ := Pool.mem_of_mem_own hevent
    refine ⟨⟨event, hmem, ?_, ?_⟩, ?_⟩
    · have hid : found.id = m.otherID := hid
      have htotp : found.totpRequired = false := htotp
      have howed : found.passwordChangeRequired = false := howed
      simp [foundUnguarded, hcaller, hitem, hmerges, hfound, hid, htotp, howed]
    · rw [hcaller, Pool.result, hcall]
    simp only [mergeable, Bool.and_eq_true] at hmergeable
    rw [ho]
    exact hmergeable.1.2
  obtain ⟨hfactor, howed⟩ := hinv.unguarded m.otherID hdeciding
  exact ⟨hfactor, howed, s0, hs, applyToUsers_movesPassword happlied hmoves⟩

/-- An enrolled secret, opened under the key `0123456789abcdef0123456789abcdef`, with its first
    code. -/
def sampleTotp : TotpService where
  decrypt text :=
    if text = "c2FtcGxlLW5vbmNlN9SDVrYzSm+Rd3qjS7YJ7dHzJ+acA7SEhdFqiBEO8vA=" then some "JBSWY3DPEHPK3PXP" else none
  verifyCode secret code := secret == "JBSWY3DPEHPK3PXP" && code == "282760"

def sampleRetiring : User where
  id := "alice"
  status := "active"
  kind := .person
  email := "a@b.com"
  passwordHash := sampleHash

/-- Alice, who is enrolling a second factor, and bob, who has no password. -/
def sampleEnrolling : Repo :=
  { new with
    users := ((∅ : GoMap String User).insert "alice" sampleRetiring).insert "bob"
      { id := "bob", status := "active", kind := .person }
    totpCreds := (∅ : GoMap String TotpCredRecord).insert "totp-1"
      { nodeID := "totp-1"
        userID := "alice"
        secretEncrypted := "c2FtcGxlLW5vbmNlN9SDVrYzSm+Rd3qjS7YJ7dHzJ+acA7SEhdFqiBEO8vA="
        verified := false
        createdAt := 1 } }

/-- Bob merges alice's account in while alice completes the enrolment. -/
def sampleGuardedCalls : List GuardedCall :=
  [.mergeAccounts sampleAuth "bob" 1 "a@b.com" "First-Passw0rd!" false, .verifyTotpSetup sampleTotp "alice" "282760"]

def sampleGuardedRun (turns : List Nat) : GuardedPool :=
  (Pool.start sampleEnrolling (sampleGuardedCalls.map (GuardedCall.program tokenPlatform))).run (handle tokenPlatform)
    (sampleTurns turns)

/-- What bob's merge has decided. -/
def sampleRetirement : AccountMerge :=
  mergeOf { id := "bob", status := "active", kind := .person } sampleRetiring false 20

/-- A merge with nobody in between: the password that moves guards no second factor. -/
theorem guarded_password_stays_alone :
    let pool := sampleGuardedRun (List.replicate 9 0)
    pool.pending 0 = some (.user (.applyAccountMerge sampleRetirement)) ∧ sampleRetirement.movePassword = true ∧
      ¬ SecondFactorVerified pool.store "alice" := by
  have hkeyed : KeyedUsers sampleEnrolling := forall_lookup (by decide +kernel)
  have hstays := guarded_password_stays tokenPlatform sampleEnrolling hkeyed sampleGuardedCalls
    (sampleTurns (List.replicate 9 0)) 0
    sampleRetirement (by decide +kernel) rfl rfl rfl
  exact ⟨rfl, rfl, hstays.1⟩

/-- Alice completes the enrolment between the merge's lookup and its step. -/
theorem guarded_password_moves :
    let pool := sampleGuardedRun (List.replicate 9 0 ++ List.replicate 4 1)
    pool.pending 0 = some (.user (.applyAccountMerge sampleRetirement)) ∧ sampleRetirement.movePassword = true ∧
      (pool.store.applyAccountMerge sampleRetirement).1 = .ok () ∧ SecondFactorVerified pool.store "alice" ∧
      ((pool.store.applyAccountMerge sampleRetirement).2.users.lookup "bob").map (·.passwordHash) =
        some sampleRetiring.passwordHash := by
  exact ⟨rfl, rfl, rfl, by decide +kernel, rfl⟩

end identity.service
