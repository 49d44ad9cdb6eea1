import Identity.Flows.SignIn.Password
import Identity.Flows.SignIn.Steps

open identity.repository identity.memory
namespace identity.service
open Routine

/-- One `PasswordLogin`, under the settings its call finds. -/
structure LoginInvocation where
  auth : AuthService
  email : String
  password : String
  client : ClientInfo

def LoginInvocation.program (p : Platform) (i : LoginInvocation) : Call Request.Response (Except Err LoginResult) :=
  (i.auth.passwordLogin p i.email i.password i.client).call

/-- The account a login's lookup found. -/
def accountFound : StoreEvent → Option User
  | ⟨_, .user (.findUserByEmail _), found⟩ => found
  | ⟨_, .user (.findUserByUsername _), found⟩ => found
  | _ => none

/-- The moment a call holds a password against an account's hash. -/
def compared (caller : Nat) (password hash : String) : StoreEvent := ⟨caller, .compare password hash, ()⟩

/-- A row that keeps its name and its lockout. -/
def SameLock (u u' : User) : Prop := u'.id = u.id ∧ u'.lockedUntil = u.lockedUntil

lemma SameLock.refl (u : User) : SameLock u u := ⟨rfl, rfl⟩

/-- A request that names no lockout. -/
def LeavesLocks (q : Request) : Prop :=
  ∀ (p : Platform) (tick : Tick) (r : Repo), r.users.Pointwise SameLock (handle p q tick r).2.users

lemma leavesLocks_of_leavesUsers (hleaves : q.leavesUsers = true) : LeavesLocks q := by
  intro p tick r
  rw [handle_users p tick r hleaves]
  exact GoMap.Pointwise.refl SameLock.refl r.users

lemma leavesLocks_of_isPlain (hplain : q.isPlain = true) : LeavesLocks q := by
  intro p tick r
  rw [handle_isRead (isRead_of_isPlain hplain)]
  exact GoMap.Pointwise.refl SameLock.refl r.users

lemma leavesLocks_incrementFailedLoginCount (userID : String) :
    LeavesLocks (.user (.incrementFailedLoginCount userID)) :=
  fun _ _ r => (incrementFailedLoginCount_rewrites userID r).pointwise SameLock.refl fun _ => ⟨rfl, rfl⟩

section Guard
variable (i : LoginInvocation) (caller : Nat) (own : Trace)

/-- The account as the call's first step found it. -/
def FoundFirst (user : User) : Prop := ∃ earlier event, own = earlier ++ [event] ∧ accountFound event = some user

/-- The account was read first, and showed no lockout or one that a reading of the clock
    since then has outlasted. -/
def Judged : Prop :=
  ∃ user, FoundFirst own user ∧
    (user.lockedUntil ≤ 0 ∨ ∃ now, clockRead caller now ∈ own ∧ user.lockedUntil ≤ now)

/-- The call's password was right. -/
def Proven : Prop := ∃ hash, compared caller i.password hash ∈ own ∧ i.auth.passwords.verify i.password hash = true

/-- The call has not got to the password, and clears a lockout it has seen run out. -/
def ClearsExpired : Prop :=
  (∀ password hash, compared caller password hash ∉ own) ∧
    ∃ user now, FoundFirst own user ∧ clockRead caller now ∈ own ∧ user.lockedUntil ≤ now

/-- What a login may ask: a password is compared only under no lockout, and a lockout is
    cleared by who proved the password or has seen it run out. -/
def LoginGuard : Request → Prop
  | .compare _ _ => Judged caller own
  | .user (.resetFailedLoginCount _) => Proven i caller own ∨ ClearsExpired caller own
  | .user (.setUserLockedUntil _ _) => True
  | q => LeavesLocks q

end Guard

section Keeps
variable {i : LoginInvocation}

lemma FoundFirst.mono (hfound : FoundFirst own user) (hsuffix : own <:+ own') : FoundFirst own' user := by
  obtain ⟨earlier, event, rfl, huser⟩ := hfound
  obtain ⟨more, rfl⟩ := hsuffix
  exact ⟨more ++ earlier, event, by rw [List.append_assoc], huser⟩

lemma Judged.mono (hjudged : Judged caller own) (hsuffix : own <:+ own') : Judged caller own' := by
  obtain ⟨user, hfound, hlock⟩ := hjudged
  refine ⟨user, hfound.mono hsuffix, hlock.imp_right ?_⟩
  rintro ⟨now, hclock, hle⟩
  exact ⟨now, hsuffix.subset hclock, hle⟩

lemma Proven.mono (hproven : Proven i caller own) (hsub : own ⊆ own') : Proven i caller own' := by
  obtain ⟨hash, hmem, hverify⟩ := hproven
  exact ⟨hash, hsub hmem, hverify⟩

/-- Once the password is proven, a flow of steps that name no lockout is allowed. -/
lemma keeps_after_proof {flow : ServiceCall α} (hmakes : flow.Makes LeavesLocks)
    (hjudged : Judged caller own) (hproven : Proven i caller own) :
    flow.Yields caller (LoginGuard i caller) (fun own' _ => Judged caller own' ∧ Proven i caller own') own := by
  refine hmakes.keeps (fun _ _ hsuffix hleaves => ?_)
    (fun _ _ hsuffix => ⟨hjudged.mono hsuffix, hproven.mono hsuffix.subset⟩) fun _ _ _ => trivial
  unfold LoginGuard
  split
  · exact hjudged.mono hsuffix
  · exact .inl (hproven.mono hsuffix.subset)
  · trivial
  · exact hleaves

namespace AuthService
variable (p : Platform) (s : AuthService)

lemma resolveIdentifier_keeps (identifier : String) :
    (s.resolveIdentifier identifier).Yields caller (LoginGuard i caller)
      (fun own found => ∀ user, found = some user → ∃ event, own = [event] ∧ accountFound event = some user) [] := by
  unfold resolveIdentifier
  generalize emailaddr.mailbox s.toASCII identifier = box
  refine .ite (fun _ => ?_) fun _ => ?_
  · refine .check (fun _ _ => ?_) fun _ _ => trivial
    refine .past fun _ => ?_
    refine .check (fun _ _ => ?_) fun _ _ => trivial
    have hguard : LoginGuard i caller [] (.user (.findUserByEmail box.1)) := leavesLocks_of_isPlain rfl
    exact keeps_ask.mpr ⟨hguard, fun found user hfound => ⟨_, rfl, hfound⟩⟩
  split
  · have hguard : LoginGuard i caller [] (.user (.findUserByUsername (s.normalizeUsername identifier))) :=
      leavesLocks_of_isPlain rfl
    exact keeps_ask.mpr ⟨hguard, fun found user hfound => ⟨_, rfl, hfound⟩⟩
  · exact keeps_pure.mpr fun user hnone => absurd hnone (by simp)

lemma passLockout_keeps (hfound : accountFound event = some user) :
    (passLockout user).Yields caller (LoginGuard i caller) (fun own' _ => Judged caller own') [event] := by
  refine .ite (fun _ => ?_) fun hopen => ?_
  · refine .nowMs (leavesLocks_of_isPlain rfl) fun now => ?_
    refine .past fun hover => ?_
    refine .nowMs (leavesLocks_of_isPlain rfl) fun now' => ?_
    -- both branches have seen the lockout run out at the first reading of the clock
    have hle : user.lockedUntil ≤ now := by omega
    have hjudged : Judged caller [clockRead caller now', clockRead caller now, event] :=
      ⟨user, ⟨[_, _], event, rfl, hfound⟩, .inr ⟨now, by simp, hle⟩⟩
    refine .ite (fun _ => ?_) fun _ => hjudged
    refine .attempted (.inr ⟨?_, ?_⟩) fun resp => ?_
    · intro password hash hmem
      simp only [List.mem_cons, List.not_mem_nil, or_false] at hmem
      rcases hmem with heq | heq | rfl
      · cases congrArg Event.req heq
      · cases congrArg Event.req heq
      · cases hfound
    · exact ⟨user, now, ⟨[_, _], event, rfl, hfound⟩, by simp [clockRead], hle⟩
    · exact hjudged.mono (List.suffix_cons _ _)
  · exact ⟨user, ⟨[], event, rfl, hfound⟩, .inl (by omega)⟩

variable (user : User)

lemma recordFailedLogin_keeps : (s.recordFailedLogin user).Asks caller (LoginGuard i caller) own := by
  refine .attemptRequest (leavesLocks_incrementFailedLoginCount user.id) fun resp =>
    ⟨fun count _ => ?_, fun _ _ => trivial⟩
  refine .ite (fun _ => ?_) fun _ => trivial
  refine .nowMs (leavesLocks_of_isPlain rfl) fun now => ?_
  exact .attemptRequest trivial fun _ => ⟨fun _ _ => trivial, fun _ _ => trivial⟩

lemma comparePassword_keeps (hjudged : Judged caller own) :
    (i.auth.comparePassword user i.password).Yields caller (LoginGuard i caller)
      (fun own' _ => Judged caller own' ∧ Proven i caller own') own := by
  refine .past fun _ => ?_
  refine .bind (.ask hjudged fun _ => ?_)
  refine .ite (fun hverify => ?_) fun _ => ?_
  · exact ⟨hjudged.mono (List.suffix_cons _ _), user.passwordHash, .head _, hverify⟩
  · exact .bind (keeps_attempt.mpr (i.auth.recordFailedLogin_keeps user))

lemma postPasswordGates_reads (checkAccess : Bool) : Looks (s.postPasswordGates user checkAccess) := by
  have hpolicy : Looks (do
      check (s.enforceVerifiedEmail user)
      check (s.login.enforceLoginPolicy user.email .password)) := .check fun _ => makes_check _
  refine (s.checkAccountStatus_reads user).bind fun _ => .ite (fun _ => ?_) fun _ => hpolicy
  exact (s.enforceAccountAccessLogin_reads user).bind fun _ => hpolicy

variable (i : LoginInvocation)

lemma verifyPasswordCredential_keeps :
    (i.auth.verifyPasswordCredential i.email i.password).Yields caller (LoginGuard i caller)
      (fun own' _ => Judged caller own' ∧ Proven i caller own') [] := by
  unfold verifyPasswordCredential
  generalize strings.trimSpace (strings.toLower i.email) = identifier
  refine .past fun _ => ?_
  refine .past fun _ => ?_
  refine .past fun _ => ?_
  refine (i.auth.resolveIdentifier_keeps _).seq fun own1 found hfound => ?_
  cases found with
  | none => trivial
  | some user =>
    obtain ⟨event, rfl, huser⟩ := hfound user rfl
    refine .bind ((passLockout_keeps huser).mono (fun own2 user hjudged => ?_) fun _ _ h => h)
    refine .bind ((comparePassword_keeps user hjudged).mono (fun own3 _ hproven => ?_) fun _ _ h => h)
    refine .bind ((keeps_after_proof ?_ hproven.1 hproven.2).mono (fun _ _ h => h) fun _ _ h => h)
    exact (i.auth.postPasswordGates_reads user _).mono fun _ => leavesLocks_of_isPlain

lemma afterPassword_leavesLocks (secondFactor : Bool) (client : ClientInfo) :
    (s.afterPassword p user secondFactor client).Makes LeavesLocks := by
  have henrolled : (ensureSecondFactorEnrolled user secondFactor).Makes LeavesLocks := by
    refine .ite (fun _ => .pure ()) fun _ => ?_
    exact .bind (.ask (leavesLocks_of_isPlain rfl)) fun _ => makes_refuseIf _
  have hclock : nowMs.Makes LeavesLocks := makes_nowMs (leavesLocks_of_isPlain rfl)
  refine .ite (fun _ => ?_) fun _ => .ite (fun _ => ?_) fun _ => ?_
  · exact henrolled.bind fun _ => hclock.bind fun _ => .check fun _ => .throw _
  · refine .check fun _ => henrolled.bind fun _ => ?_
    refine (hclock.bind fun _ => ?_).bind fun _ => .pure _
    refine (makes_randText (leavesLocks_of_isPlain rfl)).bind fun _ => ?_
    exact .bind (.ask (leavesLocks_of_leavesUsers rfl)) fun _ => .pure _
  · exact ((s.issueTokens_makes p user client).mono fun _ => fun hstep => hstep.pointwise SameLock.refl
      (fun _ u => ⟨applyUserFields_id u _, rfl⟩)
        (fun patch hleaves u => ⟨applyUserFields_id u patch, hleaves.lockedUntil u⟩) fun _ _ => ⟨rfl, rfl⟩).bind
          fun _ => .pure _

lemma passwordLogin_keeps :
    (i.auth.passwordLogin p i.email i.password i.client).Asks caller (LoginGuard i caller) [] := by
  refine .bind ((verifyPasswordCredential_keeps i).mono ?_ fun _ _ h => h)
  rintro own1 ⟨user, secondFactor⟩ ⟨hjudged, hproven⟩
  have hafter : ∀ own2, own1 <:+ own2 → (i.auth.afterPassword p user secondFactor i.client).Asks caller
      (LoginGuard i caller) own2 := by
    intro own2 hsuffix
    refine (keeps_after_proof (i.auth.afterPassword_leavesLocks p user secondFactor i.client) (hjudged.mono hsuffix)
      (hproven.mono hsuffix.subset)).mono (fun _ _ _ => trivial) fun _ _ h => h
  refine .bind (.ite (fun _ => hafter own1 (List.suffix_refl _)) fun _ => ?_)
  exact .attempted (.inl hproven) fun _ => hafter _ (List.suffix_cons _ _)

end AuthService
end Keeps
end identity.service
