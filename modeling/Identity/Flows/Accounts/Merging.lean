import Identity.Flows.SignIn.Lockout

open identity.service identity.memory
namespace identity.repository

/-- The request keeps every user row, up to `rel`. -/
def LeavesRows (rel : User → User → Prop) (q : Request) : Prop :=
  ∀ (p : Platform) (tick : Tick) (r : Repo), r.users.Pointwise rel (handle p q tick r).2.users

section LeavesRows
variable {rel : User → User → Prop} (hrefl : ∀ u, rel u u)
include hrefl

lemma leavesRows_of_leavesUsers (hleaves : q.leavesUsers = true) : LeavesRows rel q := by
  intro p tick r
  rw [handle_users p tick r hleaves]
  exact GoMap.Pointwise.refl hrefl r.users

lemma leavesRows_of_isPlain (hplain : q.isPlain = true) : LeavesRows rel q := by
  intro p tick r
  rw [handle_isRead (isRead_of_isPlain hplain)]
  exact GoMap.Pointwise.refl hrefl r.users

lemma leavesRows_updateUser (patch : Fields) (hrow : ∀ u, rel u (applyUserFields u patch)) (userID : String) :
    LeavesRows rel (.user (.updateUser userID patch)) :=
  fun _ tick r => (updateUser_rewrites userID r tick.now patch).pointwise hrefl hrow

end LeavesRows
end identity.repository

open identity.repository identity.memory
namespace identity.service
open List (suffix_cons suffix_refl)

/-- What the check of a password asks: it looks, and keeps the count of failures. -/
inductive PasswordStep : Request → Prop
  | read {q : Request} (hread : q.isPlain = true) : PasswordStep q
  | failure (userID : String) : PasswordStep (.user (.incrementFailedLoginCount userID))
  | lockout (userID : String) (untilMs : Int) : PasswordStep (.user (.setUserLockedUntil userID untilMs))
  | reset (userID : String) : PasswordStep (.user (.resetFailedLoginCount userID))

/-- It touches nothing of an account but its count of failures and its lockout. -/
lemma PasswordStep.leavesRows (hrow : ∀ u n m, rel u { u with failedLoginCount := n, lockedUntil := m })
    (hstep : PasswordStep q) : LeavesRows rel q := by
  have hrefl : ∀ u, rel u u := fun u => hrow u u.failedLoginCount u.lockedUntil
  cases hstep with
  | read hread => exact leavesRows_of_isPlain hrefl hread
  | failure userID =>
    exact fun _ _ r => (incrementFailedLoginCount_rewrites userID r).pointwise hrefl fun u => hrow u _ u.lockedUntil
  | lockout userID untilMs =>
    exact fun _ _ r => (setUserLockedUntil_rewrites userID r untilMs).pointwise hrefl fun u =>
      hrow u u.failedLoginCount untilMs
  | reset userID => exact fun _ _ r => (resetFailedLoginCount_rewrites userID r).pointwise hrefl fun u => hrow u 0 0

lemma looks_passwordSteps (hlooks : Looks flow) : flow.Makes PasswordStep :=
  hlooks.mono fun _ => .read

lemma resetFailedLogin_steps (user : User) : (AuthService.resetFailedLogin user).Makes PasswordStep := by
  refine .ite (fun _ => .pure ()) fun _ => ?_
  exact (makes_attemptRequest (.reset user.id)).attempt.bind fun _ => .pure ()

namespace AuthService
variable (s : AuthService)

lemma recordFailedLogin_steps (user : User) : (s.recordFailedLogin user).Makes PasswordStep := by
  refine (makes_attemptRequest (.failure user.id)).bind fun _ => .ite (fun _ => ?_) fun _ => .pure _
  refine .nowMs (.read rfl) fun _ => ?_
  exact (makes_attemptRequest (.lockout user.id _)).bind fun _ => .pure _

lemma comparePassword_steps (user : User) (password : String) :
    (s.comparePassword user password).Makes PasswordStep := by
  refine .past fun _ => ?_
  have hverified : (s.passwords.verified password user.passwordHash).Makes PasswordStep :=
    .bind (.ask (.read rfl)) fun _ => .pure _
  refine hverified.bind fun right => .ite (fun _ => .pure ()) fun _ => ?_
  exact (s.recordFailedLogin_steps user).attempt.bind fun _ => .throw _

end AuthService

lemma refuseManagedChild_reads (u : User) : Looks (refuseManagedChild u) :=
  (AuthService.looks_listGuardiansOfChild u.id 1 0).bind fun _ => makes_refuseIf _

lemma checkSurvivor_reads (survivor : User) : Looks (checkSurvivor survivor) :=
  .past fun _ => .past fun _ => .past fun _ => refuseManagedChild_reads survivor

lemma requireAdmin_reads (actorID : String) : Looks (AdminService.requireAdmin actorID) := by
  refine (looks_getUser _).bind fun found => ?_
  cases found with
  | none => exact .throw _
  | some u => exact .ite (fun _ => .throw _) fun _ => .pure u

section Merge
variable {guard : Trace → Request → Prop}
section
variable (hread : ∀ own' q, own <:+ own' → PasswordStep q → guard own' q)
include hread
variable {survivor other : User}

/-- A pair that may be merged: the account to retire has no password to replace. -/
lemma checkMergeable_keeps :
    (checkMergeable survivor other).Yields caller guard (fun own' _ => own <:+ own' ∧
      other.passwordChangeRequired = false) own := by
  refine .past fun _ => ?_
  refine (looks_passwordSteps (checkSurvivor_reads survivor)).followed hread fun own1 _ hsuffix1 => ?_
  refine .past fun _ => ?_
  refine .past fun _ => ?_
  refine .past fun _ => ?_
  refine .past fun hsettled => ?_
  refine (looks_passwordSteps (refuseManagedChild_reads other)).followed
    (fun own' q hsuffix => hread own' q (hsuffix1.trans hsuffix)) fun own2 _ hsuffix2 => ?_
  refine (looks_passwordSteps (makes_attemptRequest rfl)).followed
    (fun own' q hsuffix => hread own' q ((hsuffix1.trans hsuffix2).trans hsuffix)) fun own3 children hsuffix3 => ?_
  refine keeps_refuseIf.mpr
    ⟨fun _ => trivial, fun _ => ⟨(hsuffix1.trans hsuffix2).trans hsuffix3, by simpa using hsettled⟩⟩

variable {takeAddress : Bool}

/-- A merge looks, and makes the one change it has decided on. -/
lemma mergeAccounts_keeps (hmerge : ∀ own', own <:+ own' → other.passwordChangeRequired = false →
      guard own' (.user (.applyAccountMerge (mergeOf survivor other takeAddress now)))) :
    (mergeAccounts survivor other takeAddress now).Asks caller guard own := by
  refine (checkMergeable_keeps hread).seq fun own1 _ hchecked => ?_
  obtain ⟨hsuffix1, hsettled⟩ := hchecked
  refine .attemptRequest (hmerge own1 hsuffix1 hsettled) fun resp => ⟨fun _ _ => ?_, fun _ _ => trivial⟩
  have hsuffix2 : own <:+ ⟨caller, _, resp⟩ :: own1 := hsuffix1.later
  refine (looks_passwordSteps (looks_getUser survivor.id)).followed
    (fun own' q hsuffix => hread own' q (hsuffix2.trans hsuffix)) fun own3 merged hsuffix3 => ?_
  refine (looks_passwordSteps (looks_getUser other.id)).followed
    (fun own' q hsuffix => hread own' q ((hsuffix2.trans hsuffix3).trans hsuffix)) fun _ retired _ => ?_
  cases merged with
  | none => trivial
  | some merged =>
    cases retired with
    | none => trivial
    | some retired => trivial

/-- A merge by an administrator decides on rows it has read. -/
lemma mergeUsers_keeps
    (hmerge : ∀ own' survivor other now, own <:+ own' → accountRead caller survivorID (some survivor) ∈ own' →
      accountRead caller otherID (some other) ∈ own' → other.passwordChangeRequired = false →
        clockRead caller now ∈ own' →
      guard own' (.user (.applyAccountMerge (mergeOf survivor other takeAddress now)))) :
    (AdminService.mergeUsers actorID survivorID otherID takeAddress).Asks caller guard own := by
  refine (looks_passwordSteps (requireAdmin_reads actorID)).followed hread fun own1 _ hsuffix1 => ?_
  refine .past fun _ => ?_
  refine .getUser (hread _ _ hsuffix1 (.read rfl)) fun survivor => ?_
  have hsuffix2 := hsuffix1.trans (suffix_cons (accountRead caller survivorID survivor) own1)
  refine .getUser (hread _ _ hsuffix2 (.read rfl)) fun other => ?_
  have hsuffix3 := hsuffix2.trans (suffix_cons (accountRead caller otherID other) _)
  cases survivor with
  | none => trivial
  | some survivor =>
    cases other with
    | none => trivial
    | some other =>
      refine .nowMs (hread _ _ hsuffix3 (.read rfl)) fun now => ?_
      have hsuffix4 := hsuffix3.trans (suffix_cons (clockRead caller now) _)
      refine (mergeAccounts_keeps (fun own' q hsuffix => hread own' q (hsuffix4.trans hsuffix))
        fun own' hsuffix hsettled => ?_).seq fun _ _ _ => trivial
      grind

end

/-- The account that a lookup of the call has found, up to the count of failures. -/
@[grind =]
def FoundAs (own : Trace) (user : User) : Prop :=
  ∃ event ∈ own, ∃ found n m, accountFound event = some found ∧
    user = { found with failedLoginCount := n, lockedUntil := m }

lemma FoundAs.mono (hfound : FoundAs own user) (hsub : own ⊆ own') :
    FoundAs own' user := by
  obtain ⟨event, hmem, hrest⟩ := hfound
  exact ⟨event, hsub hmem, hrest⟩

section Self
variable (s : AuthService) (hstep : ∀ own' q, own <:+ own' → PasswordStep q → guard own' q)
include hstep

lemma resolveIdentifier_found (identifier : String) : (s.resolveIdentifier identifier).Yields caller guard
      (fun own' found => own <:+ own' ∧ ∀ user, found = some user → FoundAs own' user) own := by
  unfold AuthService.resolveIdentifier
  generalize emailaddr.mailbox s.toASCII identifier = box
  have hfound : ∀ event user, accountFound event = some user → FoundAs (event :: own) user := fun event user hevent =>
    ⟨event, .head _, user, user.failedLoginCount, user.lockedUntil, hevent, rfl⟩
  refine .ite (fun _ => ?_) fun _ => ?_
  · refine .check (fun _ _ => ?_) fun _ _ => trivial
    refine .past fun _ => ?_
    refine .check (fun _ _ => ?_) fun _ _ => trivial
    refine Routine.keeps_ask.mpr ⟨hstep _ _ (suffix_refl _) (.read rfl), fun found => ⟨suffix_cons _ _, ?_⟩⟩
    exact fun user huser => hfound _ user huser
  split
  · refine Routine.keeps_ask.mpr ⟨hstep _ _ (suffix_refl _) (.read rfl), fun found => ⟨suffix_cons _ _, ?_⟩⟩
    exact fun user huser => hfound _ user huser
  · exact Routine.keeps_pure.mpr ⟨suffix_refl _, fun user hnone => absurd hnone (by simp)⟩

lemma passLockout_found (hfound : FoundAs own user) :
    (AuthService.passLockout user).Yields caller guard (fun own' user' => own <:+ own' ∧ FoundAs own' user') own := by
  refine .ite (fun _ => ?_) fun _ => ⟨suffix_refl _, hfound⟩
  refine .nowMs (hstep _ _ (suffix_refl _) (.read rfl)) fun now => ?_
  have hsuffix1 : own <:+ clockRead caller now :: own := suffix_cons _ _
  refine .past fun _ => ?_
  refine .nowMs (hstep _ _ hsuffix1 (.read rfl)) fun now' => ?_
  have hsuffix2 : own <:+ clockRead caller now' :: clockRead caller now :: own := hsuffix1.later
  refine .ite (fun _ => ?_) fun _ => ⟨hsuffix2, hfound.mono hsuffix2.subset⟩
  refine .attempted (hstep _ _ hsuffix2 (.reset user.id)) fun resp => ?_
  refine ⟨hsuffix2.later, ?_⟩
  obtain ⟨event, hmem, found, n, m, hevent, rfl⟩ := hfound
  exact ⟨event, hsuffix2.later.subset hmem, found, 0, 0, hevent, rfl⟩

lemma verifyPasswordCredential_found (email password : String) :
    (s.verifyPasswordCredential email password).Yields caller guard
      (fun own' result => own <:+ own' ∧ FoundAs own' result.1) own := by
  unfold AuthService.verifyPasswordCredential
  generalize strings.trimSpace (strings.toLower email) = identifier
  refine .past fun _ => ?_
  refine .past fun _ => ?_
  refine .past fun _ => ?_
  refine (resolveIdentifier_found s hstep _).seq fun own1 found hfound => ?_
  obtain ⟨hsuffix1, hfound⟩ := hfound
  cases found with
  | none => trivial
  | some user =>
    have hstep1 : ∀ own' q, own1 <:+ own' → PasswordStep q → guard own' q := fun own' q hsuffix =>
      hstep own' q (hsuffix1.trans hsuffix)
    refine .bind ((passLockout_found hstep1 (hfound user rfl)).mono (fun own2 user hlocked => ?_) fun _ _ h => h)
    obtain ⟨hsuffix2, hfound⟩ := hlocked
    have hstep2 : ∀ own' q, own2 <:+ own' → PasswordStep q → guard own' q := fun own' q hsuffix =>
      hstep1 own' q (hsuffix2.trans hsuffix)
    refine (s.comparePassword_steps user password).followed hstep2 fun own3 _ hsuffix3 => ?_
    refine (looks_passwordSteps (s.postPasswordGates_reads user _)).followed
      (fun own' q hsuffix => hstep2 own' q (hsuffix3.trans hsuffix)) fun own4 secondFactor hsuffix4 => ?_
    have hsuffix := hsuffix3.trans hsuffix4
    exact Routine.keeps_pure.mpr ⟨(hsuffix1.trans hsuffix2).trans hsuffix, hfound.mono hsuffix.subset⟩

/-- A merge by the owner of both accounts decides on the surviving row it has read and on
    the other one as the password check found it. -/
lemma mergeOwnAccounts_keeps
    (hmerge : ∀ own' survivor other now, own <:+ own' → accountRead caller survivorID (some survivor) ∈ own' →
      FoundAs own' other → other.totpRequired = false → other.passwordChangeRequired = false →
        clockRead caller now ∈ own' →
      guard own' (.user (.applyAccountMerge (mergeOf survivor other takeAddress now)))) :
    (s.mergeOwnAccounts survivorID authTimeSec otherIdentifier otherPassword takeAddress).Asks caller guard own := by
  refine .past fun _ => ?_
  refine .past fun _ => ?_
  refine .nowMs (hstep _ _ (suffix_refl _) (.read rfl)) fun now => ?_
  have hsuffix1 : own <:+ clockRead caller now :: own := suffix_cons _ _
  refine .past fun _ => ?_
  refine .getUser (hstep _ _ hsuffix1 (.read rfl)) fun survivor => ?_
  have hsuffix2 : own <:+ accountRead caller survivorID survivor :: clockRead caller now :: own :=
    hsuffix1.later
  cases survivor with
  | none => trivial
  | some survivor =>
    refine (looks_passwordSteps (checkSurvivor_reads survivor)).followed
      (fun own' q hsuffix => hstep own' q (hsuffix2.trans hsuffix)) fun own3 _ hsuffix3 => ?_
    have hstep3 : ∀ own' q, own3 <:+ own' → PasswordStep q → guard own' q := fun own' q hsuffix =>
      hstep own' q ((hsuffix2.trans hsuffix3).trans hsuffix)
    refine .past fun _ => ?_
    refine (verifyPasswordCredential_found s hstep3 otherIdentifier otherPassword).seq ?_
    rintro own4 ⟨other, secondFactor⟩ ⟨hsuffix4, hfound⟩
    refine .past fun _ => ?_
    refine .past fun hsingle => ?_
    refine (resetFailedLogin_steps other).followed (fun own' q hsuffix => hstep3 own' q (hsuffix4.trans hsuffix))
      fun own5 _ hsuffix5 => ?_
    have hsuffix := hsuffix4.trans hsuffix5
    refine .nowMs (hstep3 _ _ hsuffix (.read rfl)) fun now => ?_
    have hsuffix6 : own3 <:+ clockRead caller now :: own5 := hsuffix.later
    refine (mergeAccounts_keeps (fun own' q hlater => hstep3 own' q (hsuffix6.trans hlater))
      fun own' hlater hsettled => ?_).seq fun _ _ _ => trivial
    grind [suffix_cons]

end Self
end Merge
end identity.service
