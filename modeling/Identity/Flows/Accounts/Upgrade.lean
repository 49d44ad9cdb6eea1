import Identity.Flows.Accounts.Anonymous
import Identity.Flows.SignIn.Attaching
import Identity.GoErrors.Basic
import Identity.Repository.Delegation

open identity.repository identity.memory
namespace identity.service
open Except (ok_of_bind ok_of_unless)
open Pool (own_cons_ne own_cons_self)
variable {s : AuthService}

/-- A call that promotes an anonymous account, under the rules it finds. -/
inductive UpgradeCall where
  | password (rules : AuthService) (cred : AnonymousPasswordCredential)
  | oauth (rules : AuthService) (cred : AnonymousOAuthCredential)

namespace UpgradeCall

def rules : UpgradeCall → AuthService
  | password s _ => s
  | oauth s _ => s

def program (p : Platform) (userID : String) : UpgradeCall → ServiceCall LoginResult
  | password s cred => s.upgradeAnonymousWithPassword p userID cred
  | oauth s cred => s.upgradeAnonymousWithOAuth p userID cred

/-- The mailbox the call asks for. -/
def address : UpgradeCall → Option String
  | password s cred => some (emailaddr.mailbox s.toASCII (strings.trimSpace (strings.toLower cred.email))).1
  | oauth s cred => cred.exchanged.toOption.map fun identity => (emailaddr.mailbox s.toASCII identity.email).1

/-- What the call promotes the account with. -/
inductive Promotes : UpgradeCall → Fields → Prop
  | password {s : AuthService} {cred : AnonymousPasswordCredential} {email name hash salt : String} {now : Int}
      (haddress : (UpgradeCall.password s cred).address = some email)
      (hhash : s.passwords.hash cred.password salt = .ok hash) :
      Promotes (.password s cred) (promotion now (passwordColumns email name hash))
  | oauth {s : AuthService} {cred : AnonymousOAuthCredential} {email name : String} {verified : Bool}
      {verifiedAt now : Int} (haddress : (UpgradeCall.oauth s cred).address = some email) :
      Promotes (.oauth s cred) (promotion now (providerColumns email name verified verifiedAt))

/-- The address is the mailbox the call asked for, as sign-ins may have respelled it. -/
@[grind =]
def Spells (call : UpgradeCall) (email : String) : Prop :=
  ∃ asked, call.address = some asked ∧
    Relation.ReflTransGen (fun stored canonical => call.rules.canonicalRewriteTarget stored = .ok canonical)
      asked email

/-- The password is the one the call supplied, none when it supplied none. -/
def Supplies : UpgradeCall → String → Prop
  | password s cred, hash => ∃ salt, s.passwords.hash cred.password salt = .ok hash
  | oauth _ _, hash => hash = ""

/-- The account has the address and the password that the call supplied. -/
@[grind =]
def Binds (call : UpgradeCall) (r : Repo) (userID : String) : Prop :=
  ∃ account, r.users.lookup userID = some account ∧ call.Spells account.email ∧ call.Supplies account.passwordHash

variable {call : UpgradeCall}

/-- The account after the step that promotes it. -/
lemma Promotes.binds (hpromotes : call.Promotes patch) (u : User) (hpassword : u.passwordHash = "") :
    (applyUserFields u patch).isAnonymous = false ∧ call.Spells (applyUserFields u patch).email ∧
      call.Supplies (applyUserFields u patch).passwordHash := by
  cases hpromotes with
  | password haddress hhash => exact ⟨rfl, ⟨_, haddress, .refl⟩, _, hhash⟩
  | oauth haddress => exact ⟨rfl, ⟨_, haddress, .refl⟩, hpassword⟩

lemma Promotes.lookup (hpromotes : call.Promotes patch) :
    (patch.lookup "is_anonymous").isSome = true := by
  cases hpromotes
  all_goals rfl

end UpgradeCall

/-- The step promotes an account. -/
def promotes : StoreEvent → Bool
  | ⟨_, .user (.updateUser _ patch), .ok _⟩ => (patch.lookup "is_anonymous").isSome
  | _ => false

def promoted (own : Trace) : Bool := own.any promotes

def withdrawn (own : Trace) : Bool := own.any withdraws

/-- What a call read of the account after it had promoted it. -/
@[grind =]
def Reread (userID : String) (caller : Nat) (own : Trace) (user : Option User) : Prop :=
  ∃ older, accountRead caller userID user :: older <:+ own ∧ promoted older = true

/-- The account can be handed back, with tokens or, while its address is unproven, without. -/
@[grind =]
def AuthService.Ready (s : AuthService) (u : User) : Prop := s.needsEmailVerification u = true ∨ s.SignsIn u

instance (s : AuthService) (u : User) : Decidable (s.Admits u) :=
  decidable_of_iff (u.isAgent = false ∧ s.needsEmailVerification u = false ∧ s.enforceProductAgeGate u = .ok () ∧
      (s.ageGateRequireDOB = false ∨ u.isAnonymous = true ∨ u.dateOfBirthMs ≠ 0))
    ⟨fun ⟨hperson, hproven, hage, hborn⟩ => ⟨hperson, hproven, hage, hborn⟩,
      fun h => ⟨h.person, h.proven, h.age, h.born⟩⟩

instance (s : AuthService) (u : User) : Decidable (s.Ready u) :=
  inferInstanceAs (Decidable (_ ∨ s.Admits u ∧ s.Admits (AuthService.reinstated u)))

section Guard
variable (call : UpgradeCall) (userID : String) (caller : Nat) (own : Trace)

/-- What an upgrade asks of the store. -/
inductive UpgradeStep : Request → Prop
  | read {q : Request} (hread : q.isPlain = true) : UpgradeStep q
  | link (oi : OAuthIdentity) (howner : oi.userID = userID) (hfirst : attachOf own = none)
      (hheld : withdrawn own = false) : UpgradeStep (.credential (.createOAuthIdentity oi))
  | unlink (oi : OAuthIdentity) (hlinked : attachOf own = some (linkStored caller oi)) (hnot : promoted own = false) :
      UpgradeStep (.credential (.deleteOAuthIdentity userID oi.provider oi.providerUserID))
  | promote (patch : Fields) (hpatch : call.Promotes patch) (hnot : promoted own = false) :
      UpgradeStep (.user (.updateUser userID patch))
  | issue {q : Request} (u : User) (hreread : Reread userID caller own (some u))
      (hstep : SignInStep call.rules u.id u.email q) : UpgradeStep q
  | mail (t : EmailTokenRecord) (hpromoted : promoted own = true) :
      UpgradeStep (.credential (.createEmailToken .emailVerification t))
  | endTokens (hpromoted : promoted own = true) : UpgradeStep (.session (.deleteRefreshTokensForUser userID))
  | endSessions (atMs : Int) (hpromoted : promoted own = true) :
      UpgradeStep (.session (.revokeSessionsForUser userID atMs))

/-- Why a call that has promoted the account may still fail. -/
@[grind =]
def Stopped : Prop :=
  (∃ user, Reread userID caller own user ∧ ∀ u, user = some u → ¬ call.rules.Ready u) ∨ ¬ call.rules.Signs ∨
    SessionRefused caller own

/-- Not promoted, and the link it created, if any, still stands. -/
structure Pending (link : Option OAuthIdentity) : Prop where
  unpromoted : promoted own = false
  link : attachOf own = link.map (linkStored caller)
  held : withdrawn own = false

/-- A call that failed has left nothing behind. -/
def UpgradeFailed : Prop :=
  (promoted own = false ∧ (attachOf own = none ∨ withdrawn own = true)) ∨ Stopped call userID caller own

end Guard

lemma not_promotes_of_isPlain (hread : q.isPlain = true) (resp : Request.Response q) :
    promotes ⟨caller, q, resp⟩ = false := by
  cases q with
  | user q => cases q <;> first | rfl | cases hread
  | _ => rfl

lemma Pending.read {link : Option OAuthIdentity} (h : Pending caller own link) (hread : q.isPlain = true)
    (resp : Request.Response q) : Pending caller (⟨caller, q, resp⟩ :: own) link where
  unpromoted := by
    unfold promoted
    rw [List.any_cons, not_promotes_of_isPlain hread]
    exact h.unpromoted
  link := by rw [attachOf_cons_of_not (inert_of_isPlain hread resp).1, h.link]
  held := by
    unfold withdrawn
    rw [List.any_cons, (inert_of_isPlain hread resp).2]
    exact h.held

lemma pending_nil (caller : Nat) : Pending caller [] none := ⟨rfl, rfl, rfl⟩

lemma promoted_of_suffix (hsuffix : own <:+ own') (h : promoted own = true) : promoted own' = true := by
  obtain ⟨event, hmem, hpromotes⟩ := List.any_eq_true.mp h
  exact List.any_eq_true.mpr ⟨event, hsuffix.subset hmem, hpromotes⟩

/-- What sending a verification mail asks. -/
def MailStep (q : Request) : Prop := q.isPlain = true ∨ ∃ t, q = .credential (.createEmailToken .emailVerification t)

lemma AuthService.sendEmailVerification_mails (p : Platform) (s : AuthService) (userID : String) :
    (s.sendEmailVerification p userID).Makes MailStep := by
  refine .past fun _ => (makes_getUser (.inl rfl)).bind fun user => ?_
  cases user with
  | none => exact .throw _
  | some user =>
    refine .ite (fun _ => ?_) fun _ => .pure ()
    refine (makes_randText (.inl rfl)).bind fun _ => .nowMs (.inl rfl) fun _ => ?_
    exact .ask (.inr ⟨_, rfl⟩)

section Keeps

-- the proofs go by the shape of a flow, not by what its texts spell
seal strings.trimSpace emailaddr.mailbox AuthService.fallbackDisplayName proofCarriesTo

variable (p : Platform) {link : Option OAuthIdentity}

lemma requireAnonymous_reads (userID : String) : Looks (requireAnonymous userID) := by
  refine (looks_getUser userID).bind fun user => ?_
  cases user with
  | none => exact .throw _
  | some user => exact makes_refuseIf _

lemma refuseTakenEmail_reads (email : String) : Looks (refuseTakenEmail email) := by
  refine .bind ?_ fun _ => makes_refuseIf _
  exact .ask rfl

variable {fails : Trace → Err → Prop}

/-- Reading changes nothing about a call that has not promoted yet. -/
lemma Pending.through {ok : Trace → β → Prop}
    (h : Pending caller own link) (hlooks : Looks flow) (hfails : ∀ own' err, Pending caller own' link →
      fails own' err)
    (hnext : ∀ own' value, Pending caller own' link →
      (next value).Keeps caller (UpgradeStep call userID caller) ok fails own') :
    (flow >>= next).Keeps caller (UpgradeStep call userID caller) ok fails own :=
  hlooks.through h (fun _ _ resp h hread => h.read hread resp) (fun _ _ _ hread => .read hread) hfails hnext

lemma upgradeAnonymousUser_keeps
    (hpatch : ∀ now, call.Promotes (promotion now columns)) (h : Pending caller own link) :
    (upgradeAnonymousUser userID columns).Keeps caller (UpgradeStep call userID caller)
      (fun own' _ => promoted own' = true) (fun own' _ => Pending caller own' link) own := by
  refine .refuseIf (fun _ => h) fun _ => ?_
  refine h.through (looks_getUser userID) (fun _ _ h => h) fun own1 user h1 => ?_
  cases user with
  | none => exact h1
  | some user =>
    refine .refuseIf (fun _ => h1) fun _ => ?_
    refine h1.through looks_nowMs (fun _ _ h => h) fun own2 now h2 => ?_
    refine .attemptRequest (.promote _ (hpatch now) h2.unpromoted) fun resp => ⟨fun _ hok => ?_, fun err herr => ?_⟩
    · -- the write went through; the read after it changes nothing
      have hdone : promoted (⟨caller, .user (.updateUser userID (promotion now columns)), resp⟩ :: own2) = true := by
        cases hok
        simp [promoted, promotes, (hpatch now).lookup]
      refine .getUser (.read rfl) fun _ => ?_
      exact promoted_of_suffix (List.suffix_cons _ _) hdone
    · cases herr
      exact ⟨h2.unpromoted, (attachOf_cons_of_not rfl).trans h2.link, h2.held⟩

variable (call) in
lemma reissueAfterUpgrade_keeps (hrules : call.rules = s) (h : promoted own = true) :
    (s.reissueAfterUpgrade p userID client authTimeMs).Keeps caller (UpgradeStep call userID caller)
      (fun own' _ => promoted own' = true) (fun own' _ => Stopped call userID caller own') own := by
  subst hrules
  refine .getUser (.read rfl) fun user => ?_
  have hreread : Reread userID caller (accountRead caller userID user :: own) user := ⟨own, List.suffix_refl _, h⟩
  have hlater : ∀ own', accountRead caller userID user :: own <:+ own' → Reread userID caller own' user :=
    fun own' hsuffix => ⟨own, hsuffix, h⟩
  have hstill : ∀ own', accountRead caller userID user :: own <:+ own' → promoted own' = true :=
    fun own' hsuffix => promoted_of_suffix ((List.suffix_cons _ own).trans hsuffix) h
  cases user with
  | none => exact .inl ⟨none, hreread, fun u hu => absurd hu.symm (Option.some_ne_none u)⟩
  | some u =>
    have hmailed : (call.rules.mailIfUnproven p u userID).Completes MailStep :=
      .ite (fun _ => (call.rules.sendEmailVerification_mails p userID).attempted.bind fun _ => .pure ())
        fun _ => .pure ()
    refine hmailed.through (List.suffix_refl _) (fun own' _ _ h _ => h.later)
      (fun own' q hsuffix hstep => ?_) fun own1 _ h1 => ?_
    · rcases hstep with hread | ⟨t, rfl⟩
      exacts [.read hread, .mail t (hstill own' hsuffix)]
    refine .ite (fun hunproven => ?_) fun hproven => ?_
    · -- the anonymous session ends
      refine .ask (.endTokens (hstill _ h1)) fun _ => ?_
      have h2 := h1.trans (List.suffix_cons
        (⟨caller, .session (.deleteRefreshTokensForUser userID), ()⟩ : StoreEvent) own1)
      refine .bind (.ite (fun _ => ?_) fun _ => hstill _ h2)
      refine .nowMs (.read rfl) fun now => ?_
      have h3 := h2.trans (List.suffix_cons (⟨caller, .clock, now⟩ : StoreEvent) _)
      exact Routine.keeps_ask.mpr ⟨.endSessions now (hstill _ h3), fun _ => hstill _ h3.later⟩
    refine .nowMs (.read rfl) fun now => ?_
    have h2 := h1.trans (List.suffix_cons (⟨caller, .clock, now⟩ : StoreEvent) own1)
    refine .bind ((call.rules.issueSignInTokens_settles p u client now authTimeMs
      fun own' q hsuffix hstep => .issue u (hlater own' (h2.trans hsuffix)) hstep).suffix.mono ?_ ?_)
    · exact fun own3 _ h3 => hstill _ (h2.trans h3.1)
    · grind

/-- The typed address is stored as its mailbox. -/
lemma admitPasswordUpgrade_ok
    (hok : s.admitPasswordUpgrade cred = .ok email) : (UpgradeCall.password s cred).address = some email := by
  have hmailbox : (emailaddr.mailbox s.toASCII (strings.trimSpace (strings.toLower cred.email))).1 = email := by
    obtain ⟨-, hok⟩ := ok_of_unless hok
    obtain ⟨-, hok⟩ := ok_of_unless hok
    obtain ⟨-, hok⟩ := ok_of_unless hok
    obtain ⟨-, -, hok⟩ := ok_of_bind hok
    obtain ⟨-, hok⟩ := ok_of_unless hok
    obtain ⟨-, -, hok⟩ := ok_of_bind hok
    obtain ⟨-, hok⟩ := ok_of_unless hok
    obtain ⟨-, -, hok⟩ := ok_of_bind hok
    exact Except.ok.inj hok
  exact congrArg some hmailbox

lemma admitProviderUpgrade_ok (hexchanged : cred.exchanged = .ok identity) (hok :
    s.admitProviderUpgrade identity = .ok email) :
    (UpgradeCall.oauth s cred).address = some email := by
  have hmailbox : (emailaddr.mailbox s.toASCII identity.email).1 = email := by
    obtain ⟨-, hok⟩ := ok_of_unless hok
    obtain ⟨-, hok⟩ := ok_of_unless hok
    obtain ⟨-, hok⟩ := ok_of_unless hok
    obtain ⟨-, -, hok⟩ := ok_of_bind hok
    exact Except.ok.inj hok
  rw [UpgradeCall.address, hexchanged]
  exact congrArg some hmailbox

lemma Pending.failed (h : Pending caller own none) : UpgradeFailed call userID caller own :=
  .inl ⟨h.unpromoted, .inl h.link⟩

lemma upgradeAnonymousWithPassword_keeps (s : AuthService) (cred : AnonymousPasswordCredential) :
    (s.upgradeAnonymousWithPassword p userID cred).Keeps caller (UpgradeStep (.password s cred) userID caller)
      (fun own' _ => promoted own' = true) (fun own' _ => UpgradeFailed (.password s cred) userID caller own') [] := by
  have h := pending_nil caller
  refine .check (fun email hemail => ?_) fun _ _ => h.failed
  refine h.through (requireAnonymous_reads userID) (fun _ _ h => h.failed) fun own1 _ h1 => ?_
  refine h1.through (refuseTakenEmail_reads email) (fun _ _ h => h.failed) fun own2 _ h2 => ?_
  refine .bind (h2.through looks_randText (fun _ _ h => h.failed) fun own3 salt h3 => keeps_check.mpr
    ⟨fun hash hhash => ?_,
    fun _ _ => h3.failed⟩)
  have hpatch : ∀ now, (UpgradeCall.password s cred).Promotes
      (promotion now (passwordColumns email (AuthService.fallbackDisplayName email cred.name) hash)) :=
    fun _ => .password (admitPasswordUpgrade_ok hemail) hhash
  refine Routine.keeps_bind.mpr ?_
  rw [Routine.keeps_attempt]
  refine (upgradeAnonymousUser_keeps hpatch h3).mono (fun own4 _ h4 => ?_) fun own4 err h4 => ?_
  rotate_left
  · exact Routine.keeps_throw.mpr h4.failed
  exact (reissueAfterUpgrade_keeps p (.password s cred) rfl h4).mono (fun _ _ h => h) fun _ _ h => .inr h

/-- The link a call says it created is the one it holds. -/
lemma linkForUpgrade_keeps (identity : ProviderIdentity) (h : Pending caller own none) :
    (AuthService.linkForUpgrade userID identity).Keeps caller (UpgradeStep call userID caller)
      (fun own' created => ∃ link, Pending caller own' link ∧ link.isSome = created ∧
        ∀ oi, link = some oi → oi.provider = identity.provider ∧ oi.providerUserID = identity.providerUserID)
      (fun own' _ => Pending caller own' none) own := by
  refine h.through (.ask rfl) (fun _ _ h => h) fun own1 existing h1 => ?_
  cases existing with
  | some existing =>
    refine .refuseIf (fun _ => h1) fun _ => ?_
    exact ⟨none, h1, rfl, nofun⟩
  | none =>
    refine h1.through looks_nowMs (fun _ _ h => h) fun own2 now h2 => ?_
    refine .attempted (.link _ rfl h2.link h2.held) fun resp => ?_
    cases resp with
    | ok _ =>
      refine ⟨some _, ⟨h2.unpromoted, attachOf_cons_of_attaches rfl, h2.held⟩, rfl, ?_⟩
      grind
    | error err =>
      have h3 : ∀ oi, Pending caller (⟨caller, .credential (.createOAuthIdentity oi), .error err⟩ :: own2) none :=
        fun _ => ⟨h2.unpromoted, (attachOf_cons_of_not rfl).trans h2.link, h2.held⟩
      exact .ite (fun _ => h3 _) fun _ => h3 _

lemma unlinkAfterFailure_keeps (h : Pending caller own link)
    (hsame : ∀ oi, link = some oi → oi.provider = identity.provider ∧ oi.providerUserID = identity.providerUserID) :
    (AuthService.unlinkAfterFailure link.isSome userID identity).Keeps caller (UpgradeStep call userID caller)
      (fun own' _ => UpgradeFailed call userID caller own') fails own := by
  cases link with
  | none => exact h.failed
  | some oi =>
    obtain ⟨hprovider, hid⟩ := hsame oi rfl
    refine .attempted ?_ fun resp => .inl ⟨h.unpromoted, .inr rfl⟩
    rw [← hprovider, ← hid]
    exact .unlink oi h.link h.unpromoted

lemma upgradeAnonymousWithOAuth_keeps (s : AuthService) (cred : AnonymousOAuthCredential) :
    (s.upgradeAnonymousWithOAuth p userID cred).Keeps caller (UpgradeStep (.oauth s cred) userID caller)
      (fun own' _ => promoted own' = true) (fun own' _ => UpgradeFailed (.oauth s cred) userID caller own') [] := by
  refine (pending_nil caller).through (requireAnonymous_reads userID) (fun _ _ h => h.failed) fun own1 _ h1 => ?_
  refine .check (fun identity hexchanged => ?_) fun _ _ => h1.failed
  refine .check (fun email hemail => ?_) fun _ _ => h1.failed
  refine h1.through (refuseTakenEmail_reads email) (fun _ _ h => h.failed) fun own2 _ h2 => ?_
  refine .bind ((linkForUpgrade_keeps identity h2).mono (fun own3 created hlinked => ?_) fun _ _ h => h.failed)
  obtain ⟨link, h3, rfl, hsame⟩ := hlinked
  -- from here on a failure takes the link back
  have hundone : ∀ own' err, Pending caller own' link →
      (do AuthService.unlinkAfterFailure link.isSome userID identity; throw (mapUpgradeConflict err) :
        ServiceCall LoginResult).Keeps caller (UpgradeStep (.oauth s cred) userID caller)
        (fun own' _ => promoted own' = true) (fun own' _ => UpgradeFailed (.oauth s cred) userID caller own') own' :=
    fun own' err h => Routine.keeps_bind.mpr ((unlinkAfterFailure_keeps h hsame).mono (fun _ _ h => h) fun _ _ h => h)
  have hverified : (AuthService.verifiedNow (proofCarriesTo s.toASCII identity.email email)).Completes
      fun q => q.isPlain = true := .ite (fun _ => completes_nowMs rfl) fun _ => .pure 0
  refine hverified.through (P := fun own' => Pending caller own' link) h3 (fun _ _ resp h hread => h.read hread resp)
    (fun _ _ _ hread => .read hread) fun own4 verifiedAt h4 => ?_
  have hpatch : ∀ now, (UpgradeCall.oauth s cred).Promotes (promotion now (providerColumns email
      (AuthService.fallbackDisplayName email identity.name) (proofCarriesTo s.toASCII identity.email email)
        verifiedAt)) :=
    fun _ => .oauth (admitProviderUpgrade_ok hexchanged hemail)
  refine .bind (Routine.keeps_attempt.mpr ((upgradeAnonymousUser_keeps hpatch h4).mono
    (fun own5 _ h5 => ?_) fun own5 err h5 => hundone own5 err h5))
  refine .nowMs (.read rfl) fun now => ?_
  exact (reissueAfterUpgrade_keeps p (.oauth s cred) rfl (promoted_of_suffix (List.suffix_cons _ _) h5)).mono
    (fun _ _ h => h) fun _ _ h => .inr h

/-- How a call ends: the account is promoted by it, or it has left nothing behind. -/
def UpgradeEnd (call : UpgradeCall) (userID : String) (caller : Nat) (own : Trace) :
    Except Err LoginResult → Prop
  | .ok _ => promoted own = true
  | .error _ => UpgradeFailed call userID caller own

lemma UpgradeCall.program_keeps (call : UpgradeCall) :
    (call.program p userID).call.Keeps caller (UpgradeStep call userID caller) (UpgradeEnd call userID caller) [] := by
  have hends : ∀ {flow : ServiceCall LoginResult}, flow.Keeps caller (UpgradeStep call userID caller)
      (fun own' _ => promoted own' = true) (fun own' _ => UpgradeFailed call userID caller own') [] →
      flow.call.Keeps caller (UpgradeStep call userID caller) (UpgradeEnd call userID caller) [] := by
    intro flow hflow
    refine Call.Keeps.mono hflow fun own' result => ?_
    cases result with
    | ok | error => exact fun h => h
  cases call with
  | password s cred => exact hends (upgradeAnonymousWithPassword_keeps p s cred)
  | oauth s cred => exact hends (upgradeAnonymousWithOAuth_keeps p s cred)

end Keeps

/-! The calls on one account, in any order of their steps. -/

section Run
variable (p : Platform) (calls : List UpgradeCall) (userID : String)

/-- Every promotion finds the account still anonymous, a promoted account that is read
    again can be handed back, and a session that is asked for is opened. -/
def findsAnonymous (pool : Pool Request.Response Repo (Except Err LoginResult)) (caller : Nat) : Request → Bool
  | .user (.updateUser id patch) =>
    decide ((patch.lookup "is_anonymous").isSome = true → ∀ u ∈ pool.store.users.lookup id, u.isAnonymous = true)
  | .user (.getUser id) =>
    decide (promoted (Pool.own pool.trace caller) = true → ∀ u ∈ pool.store.users.lookup id,
      ∀ call ∈ calls[caller]?, call.rules.Ready u)
  | .session (.createSession rec) => (pool.store.createSession rec).1.isOk
  | _ => true

abbrev FindsAnonymous (pool : Pool Request.Response Repo (Except Err LoginResult)) (caller : Nat) (_ : Tick)
    (q : Request) : Prop := findsAnonymous calls pool caller q = true

/-- The account of a run so far: anonymous and unbound, or bound by the one call that
    promoted it. -/
def BoundOnce (trace : Trace) (account : User) : Prop :=
  (account.isAnonymous = true ∧ account.email = "" ∧ account.passwordHash = "" ∧
      ∀ caller, promoted (Pool.own trace caller) = false) ∨
    ∃ winner call, calls[winner]? = some call ∧ account.isAnonymous = false ∧ call.Spells account.email ∧
      call.Supplies account.passwordHash ∧ ∀ caller, promoted (Pool.own trace caller) = true ↔ caller = winner

/-- The call that created the link still holds it. -/
@[grind =]
def HoldsLink (trace : Trace) (link : OAuthIdentity) : Prop :=
  ∃ caller oi, attachOf (Pool.own trace caller) = some (linkStored caller oi) ∧
    withdrawn (Pool.own trace caller) = false ∧ oi.provider = link.provider ∧ oi.providerUserID = link.providerUserID

/-- What holds of the store and the steps taken so far. -/
@[grind]
structure UpgradeInv (r : Repo) (trace : Trace) : Prop where
  account : ∃ account, r.users.lookup userID = some account ∧ account.id = userID ∧ BoundOnce calls trace account
  rereads : ∀ caller user, Reread userID caller (Pool.own trace caller) user → ∀ call, calls[caller]? = some call →
    ∃ u, user = some u ∧ u.id = userID ∧ call.rules.Ready u ∧ call.Spells u.email
  opened : ∀ caller, ¬ SessionRefused caller (Pool.own trace caller)
  unique : LinksUnique r
  links : ∀ key link, r.oauthIdentities.lookup key = some link → link.userID = userID → HoldsLink trace link

def UpgradeHolds (pool : Pool Request.Response Repo (Except Err LoginResult)) : Prop :=
  UpgradeInv calls userID pool.store pool.trace

end Run

section Step
variable {r : Repo}

lemma promoted_cons_of_not (hnot : promotes event = false) (own : Trace) : promoted (event :: own) = promoted own := by
  rw [promoted, List.any_cons, hnot]
  rfl

lemma BoundOnce.of_not (hbound : BoundOnce calls trace account)
    (hnot : promotes ⟨caller, q, resp⟩ = false) : BoundOnce calls (⟨caller, q, resp⟩ :: trace) account := by
  have hsame : ∀ other, promoted (Pool.own (⟨caller, q, resp⟩ :: trace) other) = promoted (Pool.own trace other) := by
    intro other
    by_cases hsame : caller = other
    · subst hsame
      rw [own_cons_self, promoted_cons_of_not hnot]
    · rw [own_cons_ne hsame]
  unfold BoundOnce
  simp only [hsame]
  exact hbound

/-- The winner's own steps settle nothing new. -/
lemma BoundOnce.winner (hbound : BoundOnce calls trace account)
    (hcall : calls[caller]? = some call) (hpromoted : promoted (Pool.own trace caller) = true)
    (hflag : account'.isAnonymous = account.isAnonymous) (hemail : call.Spells account.email →
      call.Spells account'.email)
    (hpassword : account'.passwordHash = account.passwordHash) (resp : Request.Response q) :
    BoundOnce calls (⟨caller, q, resp⟩ :: trace) account' := by
  rcases hbound with ⟨-, -, -, hnone⟩ | ⟨winner, call', hcall', hnot, hspells, hsupplies, honly⟩
  · rw [hnone caller] at hpromoted
    cases hpromoted
  · grind [promoted_of_suffix, List.suffix_cons, own_cons_ne, BoundOnce]

/-- The account's columns after a step of a sign-in that read the address `email`. -/
def Rebound (s : AuthService) (email : String) (u u' : User) : Prop :=
  u'.id = u.id ∧ u'.isAnonymous = u.isAnonymous ∧ u'.passwordHash = u.passwordHash ∧
    (u'.email = u.email ∨ s.canonicalRewriteTarget email = .ok u'.email)

lemma rebound_of_rewrites {f : User → User} (hrewrites : Rewrites (fun u u' => u' = f u) rowID r r')
    (haccount : r.users.lookup userID = some account) (hrow : rowID = userID → Rebound s email account (f account)) :
    ∃ account', r'.users.lookup userID = some account' ∧ Rebound s email account account' := by
  by_cases hid : rowID = userID
  · subst hid
    obtain ⟨account', haccount', rfl | rfl⟩ := hrewrites.lookup_self haccount
    · exact ⟨account', haccount', rfl, rfl, rfl, .inl rfl⟩
    · exact ⟨_, haccount', hrow rfl⟩
  · exact ⟨account, (hrewrites.lookup_ne (Ne.symm hid)).trans haccount, rfl, rfl, rfl, .inl rfl⟩

lemma SignInStep.rebinds {account : User} (hstep : SignInStep s userID email q)
    (haccount : r.users.lookup userID = some account) (p : Platform) (tick : Tick) :
    ∃ account', (handle p q tick r).2.users.lookup userID = some account' ∧ Rebound s email account account' := by
  by_cases hsame : (handle p q tick r).2.users = r.users
  · exact ⟨account, by rw [hsame, haccount], rfl, rfl, rfl, .inl rfl⟩
  have hpatch := fun rowID patch (hrow : rowID = userID → Rebound s email account (applyUserFields account patch)) =>
    rebound_of_rewrites (updateUser_rewrites rowID r tick.now patch) haccount hrow
  cases hstep with
  | account hstep =>
    cases hstep with
    | read hread => exact absurd (by rw [handle_isRead (isRead_of_isPlain hread)]) hsame
    | cancelDeletion now => exact hpatch _ _ fun _ => ⟨rfl, rfl, rfl, .inl rfl⟩
    | column rowID patch hleaves hkeeps =>
      exact hpatch rowID patch fun _ => ⟨applyUserFields_id account patch, hkeeps.isAnonymous account,
        hkeeps.passwordHash account, .inl (hkeeps.email account)⟩
    | freed holderID now hother => exact hpatch _ _ fun hself => absurd hself hother
    | moved canonical now htarget => exact hpatch _ _ fun _ => ⟨rfl, rfl, rfl, .inr htarget⟩
    | address rowID addr =>
      exact rebound_of_rewrites (assignAccountAddress_rewrites rowID r addr) haccount
        fun _ => ⟨rfl, rfl, rfl, .inl rfl⟩
  | session rec => exact absurd (handle_users p tick r rfl) hsame
  | refreshToken t => exact absurd rfl hsame

/-- A patch of a row that is there is written, or refused with nothing written. -/
lemma updateUser_outcome (haccount : r.users.lookup userID = some account) (now : Int) (patch : Fields) :
    ((r.updateUser now userID patch).1 = .ok () ∧
        (r.updateUser now userID patch).2.users = r.users.insert userID (applyUserFields account patch)) ∨
      ∃ err, (r.updateUser now userID patch).1 = .error err ∧ (r.updateUser now userID patch).2 = r := by
  unfold Repo.updateUser
  rw [haccount]
  dsimp only
  split
  · exact .inr ⟨_, rfl, rfl⟩
  · exact .inl ⟨rfl, by simp⟩

section
variable (hinv : UpgradeInv calls userID r trace)
include hinv

lemma UpgradeInv.account_step (hcall : calls[caller]? = some call)
    (hstep : UpgradeStep call userID caller (Pool.own trace caller) q)
    (hanonymous : ∀ id patch, q = .user (.updateUser id patch) → (patch.lookup "is_anonymous").isSome = true →
      ∀ u, r.users.lookup id = some u → u.isAnonymous = true) :
    ∃ account, (handle p q tick r).2.users.lookup userID = some account ∧ account.id = userID ∧
      BoundOnce calls (⟨caller, q, (handle p q tick r).1⟩ :: trace) account := by
  obtain ⟨account, haccount, hid, hbound⟩ := hinv.account
  by_cases hquiet : (handle p q tick r).2.users = r.users ∧ promotes ⟨caller, q, (handle p q tick r).1⟩ = false
  · exact ⟨account, by rw [hquiet.1, haccount], hid, hbound.of_not hquiet.2⟩
  cases hstep with
  | read hread =>
    exact absurd ⟨by rw [handle_isRead (isRead_of_isPlain hread)], not_promotes_of_isPlain hread _⟩ hquiet
  | link | unlink | mail | endTokens | endSessions => exact absurd ⟨handle_users p tick r rfl, rfl⟩ hquiet
  | issue u hreread hissue =>
    obtain ⟨_, hsame, huid, -, hspelled⟩ := hinv.rereads caller (some u) hreread call hcall
    cases Option.some.inj hsame
    rw [huid] at hissue
    obtain ⟨account', haccount', hid', hflag, hpassword, hemail⟩ := hissue.rebinds haccount p tick
    grind [hbound.winner, promoted_of_suffix, List.suffix_cons, BoundOnce]
  | promote patch hpatch hnot =>
    rcases updateUser_outcome haccount tick.now patch with ⟨hok, husers⟩ | ⟨err, herr, hkept⟩
    · -- the account was anonymous, so nobody has promoted it before
      have hstill := hanonymous userID patch rfl hpatch.lookup account haccount
      rcases hbound with ⟨-, -, hpassword, hnone⟩ | ⟨_, _, _, hbound, _⟩
      · obtain ⟨hflag, hspells, hsupplies⟩ := hpatch.binds account hpassword
        refine ⟨applyUserFields account patch, ?_, (applyUserFields_id account patch).trans hid,
          .inr ⟨caller, call, hcall, hflag, hspells, hsupplies, fun other => ?_⟩⟩
        · exact (congrArg (AList.lookup userID) husers).trans (by rw [GoMap.lookup_insert_eq, if_pos rfl])
        by_cases hsame : caller = other
        · subst hsame
          refine ⟨fun _ => rfl, fun _ => ?_⟩
          rw [own_cons_self]
          have hevent := congrArg (fun answer => promotes ⟨caller, .user (.updateUser userID patch), answer⟩) hok
          exact List.any_eq_true.mpr ⟨_, .head _, hevent.trans hpatch.lookup⟩
        · grind [own_cons_ne]
      · rw [hbound] at hstill
        cases hstill
    have hevent : promotes ⟨caller, .user (.updateUser userID patch), (r.updateUser tick.now userID patch).1⟩ =
      false := by
      rw [herr]
      rfl
    exact absurd ⟨congrArg Repo.users hkept, hevent⟩ hquiet

lemma UpgradeInv.rereads_step
    (hready : q = .user (.getUser userID) → promoted (Pool.own trace caller) = true →
      ∀ u, r.users.lookup userID = some u →
      ∀ call, calls[caller]? = some call → call.rules.Ready u) (other : Nat) (user : Option User)
    (hreread : Reread userID other (Pool.own (⟨caller, q, (handle p q tick r).1⟩ :: trace) other) user)
    (call : UpgradeCall)
    (hcall : calls[other]? = some call) :
    ∃ u, user = some u ∧ u.id = userID ∧ call.rules.Ready u ∧ call.Spells u.email := by
  by_cases hsame : caller = other
  · subst hsame
    rw [own_cons_self] at hreread
    obtain ⟨older, hsuffix, hpromoted⟩ := hreread
    rcases List.suffix_cons_iff.mp hsuffix with heq | hsuffix
    swap
    · exact hinv.rereads caller user ⟨older, hsuffix, hpromoted⟩ call hcall
    obtain ⟨hevent, rfl⟩ := List.cons.inj heq
    injection hevent with _ hq hresp
    cases hq
    obtain ⟨account, haccount, hid, hbound⟩ := hinv.account
    have huser : user = some account := (eq_of_heq hresp).trans haccount
    rcases hbound with ⟨-, -, -, hnone⟩ | ⟨winner, call', hcall', -, hspells, -, honly⟩
    · rw [hnone caller] at hpromoted
      cases hpromoted
    · grind
  · grind [own_cons_ne]

lemma UpgradeInv.opened_step
    (hopens : ∀ rec, q = .session (.createSession rec) → (r.createSession rec).1.isOk = true) (other : Nat) :
    ¬ SessionRefused other (Pool.own (⟨caller, q, (handle p q tick r).1⟩ :: trace) other) := by
  by_cases hsame : caller = other
  · subst hsame
    rw [own_cons_self]
    rintro ⟨rec, err, hmem⟩
    rcases List.mem_cons.mp hmem with hevent | hmem
    · injection hevent with _ hq hresp
      cases hq
      have hok := hopens rec rfl
      rw [← show Except.error err = (r.createSession rec).1 from eq_of_heq hresp] at hok
      cases hok
    · exact hinv.opened caller ⟨rec, err, hmem⟩
  · rw [own_cons_ne hsame]
    exact hinv.opened other

end

lemma HoldsLink.of_not (hholds : HoldsLink trace link)
    (hnot : attaches ⟨caller, q, resp⟩ = false) (hheld : withdraws ⟨caller, q, resp⟩ = false) :
    HoldsLink (⟨caller, q, resp⟩ :: trace) link := by
  obtain ⟨holder, oi, hattach, hkept, hidentity⟩ := hholds
  refine ⟨holder, oi, ?_, ?_, hidentity⟩
  all_goals
    by_cases hsame : caller = holder
    · subst hsame
      rw [own_cons_self]
      first
      | rwa [attachOf_cons_of_not hnot]
      | rwa [withdrawn, List.any_cons, hheld, Bool.false_or]
    · rwa [own_cons_ne hsame]

lemma UpgradeInv.links_step (hinv : UpgradeInv calls userID r trace)
    (hstep : UpgradeStep call userID caller (Pool.own trace caller) q) : LinksUnique (handle p q tick r).2 ∧
      ∀ key link, (handle p q tick r).2.oauthIdentities.lookup key = some link → link.userID = userID →
        HoldsLink (⟨caller, q, (handle p q tick r).1⟩ :: trace) link := by
  by_cases hquiet : (handle p q tick r).2.oauthIdentities = r.oauthIdentities ∧
      attaches ⟨caller, q, (handle p q tick r).1⟩ = false ∧ withdraws ⟨caller, q, (handle p q tick r).1⟩ = false
  · obtain ⟨hsame, hnot, hheld⟩ := hquiet
    unfold LinksUnique
    rw [hsame]
    exact ⟨hinv.unique, fun key link hlink howner => (hinv.links key link hlink howner).of_not hnot hheld⟩
  cases hstep with
  | read hread => exact absurd ⟨by rw [handle_isRead (isRead_of_isPlain hread)], inert_of_isPlain hread _⟩ hquiet
  | promote | endTokens | endSessions =>
    exact absurd ⟨(handle_credentials p tick r rfl).oauthIdentities, rfl, rfl⟩ hquiet
  | issue u hreread hissue => exact absurd ⟨(hissue.leavesCredentials p tick r).oauthIdentities, hissue.inert _⟩ hquiet
  | mail t hpromoted => exact absurd ⟨rfl, rfl, rfl⟩ hquiet
  | link oi howner hfirst hheld =>
    refine ⟨createOAuthIdentity_linksUnique hinv.unique oi, fun key link hlink huser => ?_⟩
    rcases createOAuthIdentity_lookup hlink with ⟨hold, -⟩ | ⟨hok, -, rfl⟩
    · -- a call that had a link before is another one
      grind [own_cons_ne]
    have hevent := congrArg (fun answer => (⟨caller, .credential (.createOAuthIdentity oi), answer⟩ : StoreEvent)) hok
    refine ⟨caller, oi, ?_, ?_, rfl, rfl⟩
    · rw [own_cons_self]
      exact (congrArg (fun event => attachOf (event :: _)) hevent).trans (attachOf_cons_of_attaches rfl)
    · rw [own_cons_self]
      exact (congrArg (fun event => withdrawn (event :: _)) hevent).trans hheld
  | unlink oi hlinked hnot =>
    refine ⟨deleteOAuthIdentity_linksUnique hinv.unique _ _ _, fun key link hlink huser => ?_⟩
    obtain ⟨hold, hother⟩ := deleteOAuthIdentity_lookup hinv.unique hlink
    grind [own_cons_ne]

/-- One step of one call. -/
lemma UpgradeInv.step (hinv : UpgradeInv calls userID pool.store pool.trace) (hcall : calls[caller]? = some call)
    (hstep : UpgradeStep call userID caller (Pool.own pool.trace caller) q)
    (hcond : FindsAnonymous calls pool caller tick q) : UpgradeInv calls userID (handle p q tick pool.store).2
      (⟨caller, q, (handle p q tick pool.store).1⟩ :: pool.trace) where
  account := hinv.account_step hcall hstep fun id patch hq => by
    subst hq
    exact of_decide_eq_true hcond
  rereads := hinv.rereads_step fun hq => by
    subst hq
    exact of_decide_eq_true hcond
  opened := hinv.opened_step fun rec hq => by
    subst hq
    exact hcond
  unique := (hinv.links_step hstep).1
  links := (hinv.links_step hstep).2

end Step

/-- An anonymous account without an address, a password or a provider link. -/
def Unbound (r : Repo) (userID : String) : Prop :=
  (∃ account, r.users.lookup userID = some account ∧ account.id = userID ∧ account.isAnonymous = true ∧
      account.email = "" ∧ account.passwordHash = "") ∧
    ∀ key link, r.oauthIdentities.lookup key = some link → link.userID ≠ userID

lemma Unbound.inv (hstart : Unbound r userID) (hunique : LinksUnique r) : UpgradeInv calls userID r [] where
  account := by
    obtain ⟨⟨account, haccount, hid, hflag, hemail, hpassword⟩, -⟩ := hstart
    exact ⟨account, haccount, hid, .inl ⟨hflag, hemail, hpassword, fun _ => rfl⟩⟩
  rereads := by
    rintro caller user ⟨older, hsuffix, -⟩
    cases List.suffix_nil.mp hsuffix
  opened := fun caller ⟨rec, err, hmem⟩ => nomatch hmem
  unique := hunique
  links := fun key link hlink howner => absurd howner (hstart.2 key link hlink)

/-- A call that failed has left nothing behind. -/
lemma UpgradeInv.failed
    (hinv : UpgradeInv calls userID r trace) (hcall : calls[caller]? = some call) (hsigns : call.rules.Signs)
    (hfailed : UpgradeFailed call userID caller (Pool.own trace caller)) : promoted (Pool.own trace caller) = false ∧
      (attachOf (Pool.own trace caller) = none ∨ withdrawn (Pool.own trace caller) = true) := by
  rcases hfailed with hclean | ⟨user, hreread, hunready⟩ | hnot | hrefused
  · exact hclean
  · grind
  · exact absurd hsigns hnot
  · exact absurd hrefused (hinv.opened caller)

section Finished
variable {pool : Pool Request.Response Repo (Except Err LoginResult)} (hinv :
  UpgradeInv calls userID pool.store pool.trace)
  (hends : ∀ caller result, pool.result caller = some result →
    ∃ call, calls[caller]? = some call ∧ UpgradeEnd call userID caller (Pool.own pool.trace caller) result)

include hinv hends

/-- Whoever succeeds is the one that promoted the account. -/
lemma UpgradeInv.succeeds_once (hi : pool.result i = some (.ok first))
    (hj : pool.result j = some (.ok second)) : i = j := by
  obtain ⟨_, -, hi⟩ := hends i _ hi
  obtain ⟨_, -, hj⟩ := hends j _ hj
  obtain ⟨account, -, -, ⟨-, -, -, hnone⟩ | ⟨winner, call, -, -, -, -, honly⟩⟩ := hinv.account
  · have hi : promoted (Pool.own pool.trace i) = true := hi
    rw [hnone i] at hi
    cases hi
  · exact ((honly i).mp hi).trans ((honly j).mp hj).symm

lemma UpgradeInv.binds (hcall : calls[i]? = some call)
    (hi : pool.result i = some (.ok result)) : call.Binds pool.store userID := by
  obtain ⟨_, -, hi⟩ := hends i _ hi
  have hi : promoted (Pool.own pool.trace i) = true := hi
  obtain ⟨account, haccount, -, ⟨-, -, -, hnone⟩ | ⟨winner, call', hcall', -, hspells, hsupplies, honly⟩⟩ :=
    hinv.account
  · rw [hnone i] at hi
    cases hi
  · grind

variable (hsigns : ∀ call ∈ calls, call.rules.Signs) (hfinished : ∀ i < calls.length, (pool.result i).isSome = true)
include hsigns hfinished

/-- A call that has promoted the account or still holds a link has succeeded. -/
lemma UpgradeInv.succeeded (hbound : i < calls.length) (hleft : promoted (Pool.own pool.trace i) = true ∨
      ((attachOf (Pool.own pool.trace i)).isSome = true ∧ withdrawn (Pool.own pool.trace i) = false)) :
    ∃ result, pool.result i = some (.ok result) := by
  obtain ⟨result, hresult⟩ := Option.isSome_iff_exists.mp (hfinished i hbound)
  cases result with
  | ok value => exact ⟨value, hresult⟩
  | error err =>
    obtain ⟨call, hcall, hfailed⟩ := hends i _ hresult
    obtain ⟨hunpromoted, hclean⟩ := hinv.failed hcall (hsigns call (List.mem_of_getElem? hcall)) hfailed
    grind

section
variable (hbounded : ∀ event ∈ pool.trace, event.caller < calls.length)
include hbounded

lemma UpgradeInv.link_of_success (hlink : pool.store.oauthIdentities.lookup key = some link)
    (howner : link.userID = userID) :
    ∃ i oi result, pool.result i = some (.ok result) ∧ linkStored i oi ∈ pool.trace ∧
      oi.provider = link.provider ∧ oi.providerUserID = link.providerUserID := by
  obtain ⟨i, oi, hattach, hheld, hprovider, hid⟩ := hinv.links key link hlink howner
  obtain ⟨hmem, -⟩ := Pool.mem_of_mem_own (List.mem_of_find?_eq_some hattach)
  have hbound : i < calls.length := hbounded _ hmem
  obtain ⟨result, hresult⟩ := hinv.succeeded hends hsigns hfinished hbound (.inr ⟨by rw [hattach]; rfl, hheld⟩)
  exact ⟨i, oi, result, hresult, hmem, hprovider, hid⟩

lemma UpgradeInv.unbound (hnone : ∀ i result, pool.result i ≠ some (.ok result)) : Unbound pool.store userID := by
  refine ⟨?_, fun key link hlink howner => ?_⟩
  · obtain ⟨account, haccount, hid, ⟨hflag, hemail, hpassword, -⟩ | ⟨winner, call, hcall, -, -, -, honly⟩⟩ :=
      hinv.account
    · exact ⟨account, haccount, hid, hflag, hemail, hpassword⟩
    · grind [hinv.succeeded]
  · grind [hinv.link_of_success]

end
end Finished

/-- An anonymous account is promoted by at most one call, and a call that fails leaves
    nothing behind. -/
theorem anonymous_upgraded_once (p : Platform) (r : Repo) (userID : String) (hstart : Unbound r userID)
    (hunique : LinksUnique r) (calls : List UpgradeCall) (hsigns : ∀ call ∈ calls, call.rules.Signs)
    (schedule : List (Nat × Tick)) :
    let start : Pool Request.Response Repo (Except Err LoginResult) :=
      Pool.start r (calls.map fun call => (call.program p userID).call)
    let pool := start.run (handle p) schedule
    Pool.Along (handle p) (FindsAnonymous calls) start schedule →
      (∀ i j first second, pool.result i = some (.ok first) → pool.result j = some (.ok second) → i = j) ∧
      ((∀ i < calls.length, (pool.result i).isSome = true) →
        (∀ i call result, calls[i]? = some call → pool.result i = some (.ok result) → call.Binds pool.store userID) ∧
        (∀ key link, pool.store.oauthIdentities.lookup key = some link → link.userID = userID →
          ∃ i oi result, pool.result i = some (.ok result) ∧ linkStored i oi ∈ pool.trace ∧
            oi.provider = link.provider ∧ oi.providerUserID = link.providerUserID) ∧
        ((∀ i result, pool.result i ≠ some (.ok result)) → Unbound pool.store userID)) := by
  intro start pool halong
  have hkeep : start.Keep
      (fun caller own q => ∃ call, calls[caller]? = some call ∧ UpgradeStep call userID caller own q)
      (fun caller own result => ∃ call, calls[caller]? = some call ∧ UpgradeEnd call userID caller own result) :=
    Pool.keep_start (fun call caller => call.program_keeps p) r
  have hinv : UpgradeHolds calls userID pool := by
    refine Pool.along_invariant (fun pool caller tick q next hinv hcall _ hguard hcond => ?_) hkeep
      (hstart.inv hunique)
      schedule halong
    obtain ⟨call, hitem, hstep⟩ := hguard
    rw [Pool.step_request hcall]
    exact UpgradeInv.step hinv hitem hstep hcond
  have hends : ∀ caller result, pool.result caller = some result →
      ∃ call, calls[caller]? = some call ∧ UpgradeEnd call userID caller (Pool.own pool.trace caller) result :=
    fun caller result hresult => (hkeep.run schedule).result hresult
  refine ⟨fun i j first second => hinv.succeeds_once hends, fun hfinished => ?_⟩
  have hbounded : ∀ event ∈ pool.trace, event.caller < calls.length := by
    have hfirst : ∀ event ∈ start.trace, event.caller < start.calls.length := fun event hmem => nomatch hmem
    have hrun := Pool.bound_run (h := handle p) hfirst schedule
    rwa [show start.calls.length = calls.length from List.length_map _] at hrun
  exact ⟨fun i call result => hinv.binds hends, fun key link => hinv.link_of_success hends hsigns hfinished hbounded,
    hinv.unbound hends hsigns hfinished hbounded⟩

/-- A guest that has not given an address yet. -/
def sampleGuest : User where
  id := "guest"
  status := "active"
  kind := .person
  isAnonymous := true

def sampleGuestStore : Repo := { new with users := (∅ : GoMap String User).insert "guest" sampleGuest }

/-- Two addresses for the guest, with a password for each. -/
def sampleUpgrades : List UpgradeCall :=
  [.password sampleAuth ⟨"a@b.com", "First-Passw0rd!", "", ⟨"", ""⟩⟩,
    .password sampleAuth ⟨"c@d.com", "Second-Passw0rd!", "", ⟨"", ""⟩⟩]

/-- Turns at one time, with texts drawn per caller. -/
def sampleUpgradeTurns (callers : List Nat) : List (Nat × Tick) :=
  callers.map fun caller => (caller, ⟨20, sampleTick.pos, if caller = 0 then "refresh-1" else "refresh-2"⟩)

def sampleUpgradeRun (turns : List Nat) : Pool Request.Response Repo (Except Err LoginResult) :=
  (Pool.start sampleGuestStore (sampleUpgrades.map fun call => (call.program tokenPlatform "guest").call)).run
    (handle tokenPlatform) (sampleUpgradeTurns turns)

/-- One upgrade after the other: the first one stays. -/
theorem anonymous_upgraded_once_in_turn :
    let pool := sampleUpgradeRun (List.replicate 21 0 ++ [1])
    (pool.store.users.lookup "guest").map (·.email) = some "a@b.com" ∧
      (pool.result 0).map Except.isOk = some true ∧ (pool.result 1).map Except.isOk = some false ∧
      (UpgradeCall.password sampleAuth ⟨"a@b.com", "First-Passw0rd!", "", ⟨"", ""⟩⟩).Binds pool.store "guest" := by
  intro pool
  have hstart : Unbound sampleGuestStore "guest" := ⟨⟨sampleGuest, rfl, rfl, rfl, rfl, rfl⟩, nofun⟩
  have hunique : LinksUnique sampleGuestStore := fun key key' link link' hlink => by cases hlink
  have honce := anonymous_upgraded_once tokenPlatform sampleGuestStore "guest" hstart hunique sampleUpgrades
    (by simp [sampleUpgrades, AuthService.Signs, UpgradeCall.rules, sampleAuth])
    (sampleUpgradeTurns (List.replicate 21 0 ++ [1])) (by decide +kernel)
  have hok : (pool.result 0).map Except.isOk = some true := by decide +kernel
  obtain ⟨result, hresult, hvalue⟩ := Option.map_eq_some_iff.mp hok
  cases result with
  | error err => cases hvalue
  | ok value =>
    exact ⟨by decide +kernel, hok, by decide +kernel, (honce.2 (by decide +kernel)).1 0 _ value rfl hresult⟩

/-- Both upgrades read the account before either writes: both succeed, and the one that
    writes last takes the account over. -/
theorem anonymous_upgraded_twice :
    let pool := sampleUpgradeRun (List.replicate 5 0 ++ List.replicate 21 1 ++ List.replicate 16 0)
    (pool.result 0).map Except.isOk = some true ∧ (pool.result 1).map Except.isOk = some true ∧
      (pool.store.users.lookup "guest").map (·.email) = some "a@b.com" := by
  decide +kernel

end identity.service
