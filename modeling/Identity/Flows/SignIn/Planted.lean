import Identity.Flows.SignIn.Attaching
import Identity.Flows.SignIn.Sweep

open identity.repository identity.memory
namespace identity.service
open GoMap

/-- A call that attaches a credential to an account. -/
inductive AttachCall where
  | link (exchanged : Except Err ProviderIdentity)
  | passkey (auth : AuthService) (challengeID credentialJSON deviceName : String) (issueSession : Bool)
      (client : ClientInfo)

/-- The calls that race for an account: a proof of its address, and whoever attaches. -/
inductive RaceCall where
  | proof (auth : AuthService) (user : User) (proof : ExternalProof) (now : Int)
  | attach (call : AttachCall)

def RaceCall.program (p : Platform) (userID : String) : RaceCall → Call Request.Response (Except Err Unit)
  | .proof auth user evidence now =>
    (auth.markEmailVerifiedViaExternalProof user evidence now).call >>= fun result => pure (result.map fun _ => ())
  | .attach (.link exchanged) =>
    (AuthService.linkIdentity userID exchanged).call >>= fun result => pure (result.map fun _ => ())
  | .attach (.passkey auth challengeID credentialJSON deviceName issueSession client) =>
    (auth.completePasskeyRegistration p userID challengeID credentialJSON deviceName issueSession client).call >>=
      fun result => pure (result.map fun _ => ())

/-- One proof, the first of the calls, and any number of attaching calls. -/
def proofRace (auth : AuthService) (user : User) (proof : ExternalProof) (now : Int) (attaching : List AttachCall) :
    List RaceCall :=
  .proof auth user proof now :: attaching.map .attach

abbrev RacePool := Pool Request.Response Repo (Except Err Unit)

/-- The account as a read of it found it. -/
def accountSeen (userID : String) : StoreEvent → Option User
  | ⟨_, .user (.getUser id), found⟩ => if id = userID then found else none
  | _ => none

/-- From the mark back. -/
def untilMark (userID : String) (trace : Trace) : Trace :=
  trace.dropWhile fun event => !marks userID event

def RaceGuard (userID : String) : RaceCall → Nat → Trace → Request → Prop
  | .proof _ _ _ _, _, own, q => ProofGuard userID own q
  | .attach _, caller, own, q => AttachGuard userID caller own q

def RacePost (userID : String) : RaceCall → Nat → Trace → Except Err Unit → Prop
  | .proof auth user proof _, _, own, result => result = .ok () → isMarked userID own = true →
      CredentialsSwept userID (proof.voids auth.toASCII user.email) own
  | .attach _, caller, own, _ => Settled userID caller own

lemma race_keeps (p : Platform) (call : RaceCall)
    (hid : ∀ auth user proof now, call = .proof auth user proof now → user.id = userID) :
    (call.program p userID).Keeps caller (RaceGuard userID call caller) (RacePost userID call caller) [] := by
  cases call with
  | proof auth user proof now =>
    have huser := hid auth user proof now rfl
    subst huser
    have hfirst : isMarked user.id [] = false := rfl
    refine Routine.Keeps.wrap ((auth.markEmailVerifiedViaExternalProof_keeps user proof now hfirst).mono ?_ ?_)
    · exact fun own' _ hswept _ => hswept
    · exact fun own' err _ hok => by cases hok
  | attach call =>
    cases call with
    | link exchanged =>
      refine Routine.Keeps.wrap ?_
      exact AuthService.linkIdentity_keeps userID exchanged
    | passkey auth challengeID credentialJSON deviceName issueSession client =>
      refine Routine.Keeps.wrap ?_
      exact auth.completePasskeyRegistration_keeps p userID challengeID credentialJSON deviceName issueSession client

/-- The first call is the proof, every other one attaches. -/
lemma raceGuard_cases
    (hcall : (proofRace auth user proof now attaching)[caller]? = some call) (hguard :
      RaceGuard userID call caller own q) :
    caller = 0 ∧ ProofGuard userID own q ∨ caller ≠ 0 ∧ AttachGuard userID caller own q := by
  cases caller with
  | zero =>
    cases hcall
    exact .inl ⟨rfl, hguard⟩
  | succ d => grind [proofRace, RaceGuard]

/-- What every run of the race keeps: until the mark the address is unproven and every read
    finds it so, and only the proof marks. -/
@[grind]
structure RaceBase (userID : String) (r : Repo) (trace : Trace) : Prop where
  account : ∃ u, r.users.lookup userID = some u
  found : ∀ event ∈ trace, event.req = .user (.getUser userID) → (accountSeen userID event).isSome = true
  marker : ∀ event ∈ trace, marks userID event = true → event.caller = 0
  unmarked : isMarked userID trace = false → (∀ u, r.users.lookup userID = some u → u.emailVerified = false) ∧
    ∀ event ∈ trace, ∀ account, accountSeen userID event = some account → account.emailVerified = false
  early : ∀ event ∈ untilMark userID trace, ∀ account, accountSeen userID event = some account →
    account.emailVerified = false
  unique : LinksUnique r

lemma not_marks_of_isPlain (hread : q.isPlain = true) (resp : Request.Response q) :
    marks userID ⟨caller, q, resp⟩ = false := by
  cases q with
  | user q => cases q <;> first | rfl | cases hread
  | _ => rfl

lemma NeutralStep.not_marks (hstep : NeutralStep q) (resp : Request.Response q) :
    marks userID ⟨caller, q, resp⟩ = false := by
  cases hstep with
  | read hread => exact not_marks_of_isPlain hread resp
  | signIn hstep =>
    cases hstep with
    | account hstep =>
      cases hstep with
      | read hread => exact not_marks_of_isPlain hread resp
      | _ => rfl
    | _ => rfl
  | challenge nodeID => rfl

lemma AttachGuard.notNewlyProven (hguard : AttachGuard userID caller own q) (p : Platform) (tick : Tick) (r : Repo) :
    marks userID ⟨caller, q, (handle p q tick r).1⟩ = false ∧
      r.users.Pointwise NotNewlyProven (handle p q tick r).2.users := by
  have hleaves : ∀ q' : CredentialRequest, r.users.Pointwise NotNewlyProven
    (handle p (.credential q') tick r).2.users := by
    intro q'
    rw [handle_users p tick r rfl]
    exact GoMap.Pointwise.refl (fun _ h => h) _
  unfold AttachGuard at hguard
  split at hguard
  · exact ⟨rfl, hleaves _⟩
  · exact ⟨rfl, hleaves _⟩
  · exact ⟨rfl, hleaves _⟩
  · exact ⟨rfl, hleaves _⟩
  · exact ⟨hguard.not_marks _, hguard.notNewlyProven p tick r⟩

/-- Only the proof's mark proves an address. -/
lemma race_users (p : Platform) (tick : Tick) (r : Repo)
    (hguard : caller = 0 ∧ ProofGuard userID (Pool.own trace caller) q ∨
      caller ≠ 0 ∧ AttachGuard userID caller (Pool.own trace caller) q) :
    (caller = 0 ∧ isMarked userID (Pool.own trace 0) = false ∧ marks userID ⟨caller, q, (handle p q tick r).1⟩ = true ∧
      ∃ u, (handle p q tick r).2.users.lookup userID = some u ∧ u.emailVerified = true) ∨
    (marks userID ⟨caller, q, (handle p q tick r).1⟩ = false ∧
      r.users.Pointwise NotNewlyProven (handle p q tick r).2.users) := by
  have hrefl : ∀ u, NotNewlyProven u u := fun _ h => h
  rcases hguard with ⟨rfl, hguard⟩ | ⟨-, hguard⟩
  · rcases hguard with hstep | ⟨email, atMs, clear, rfl, hfirst⟩
    · refine .inr ⟨hstep.not_marks _, ?_⟩
      have hsame : (handle p q tick r).2.users = r.users := by
        cases hstep <;> exact handle_users p tick r rfl
      rw [hsame]
      exact GoMap.Pointwise.refl hrefl _
    have hmark : handle p (.user (.setUserEmailVerified userID email atMs clear)) tick r =
      r.setUserEmailVerified userID email atMs clear := rfl
    rw [hmark]
    rcases setUserEmailVerified_cases userID r email atMs clear with ⟨u, cleared, hu, -, hanswer, hstore⟩ |
      ⟨hnot, hstore⟩
    · refine .inl ⟨rfl, hfirst, by rw [hanswer]; simp [marks], markedVerified atMs clear u, ?_, ?_⟩
      · rw [hstore, lookup_insert_eq, if_pos rfl]
      · cases clear <;> rfl
    refine .inr ⟨?_, by rw [hstore]; exact GoMap.Pointwise.refl hrefl _⟩
    generalize (r.setUserEmailVerified userID email atMs clear).1 = answer at hnot
    rcases answer with err | ⟨verified, cleared⟩
    · rfl
    cases verified with
    | false => simp [marks]
    | true => exact absurd rfl (hnot cleared)
  · refine .inr (hguard.notNewlyProven p tick r)

lemma untilMark_cons (event : StoreEvent) :
    untilMark userID (event :: trace) = if marks userID event = true then event :: trace
      else untilMark userID trace := by
  unfold untilMark
  cases h : marks userID event <;> simp [h]

lemma isMarked_own (hmarker : ∀ event ∈ steps, marks userID event = true → event.caller = 0) :
    isMarked userID (Pool.own steps 0) = isMarked userID steps := by
  rw [Bool.eq_iff_iff, isMarked, isMarked]
  constructor
  · grind
  · grind [Pool.mem_own]

/-- A read of the account answers the row. -/
lemma accountSeen_handle (hseen : accountSeen userID ⟨caller, q, (handle p q tick r).1⟩ = some account) :
    q = .user (.getUser userID) ∧ r.users.lookup userID = some account ∧ (handle p q tick r).2 = r := by
  cases q with
  | user q =>
    cases q with
    | getUser id =>
      have hfound : (if id = userID then r.users.lookup id else none) = some account := hseen
      split at hfound
      · rename_i hid
        subst hid
        exact ⟨rfl, hfound, rfl⟩
      · cases hfound
    | _ => cases hseen
  | _ => cases hseen

lemma RaceBase.step (hbase : RaceBase userID r trace)
    (hguard : caller = 0 ∧ ProofGuard userID (Pool.own trace caller) q ∨
      caller ≠ 0 ∧ AttachGuard userID caller (Pool.own trace caller) q)
    (hunique : LinksUnique (handle p q tick r).2) :
    RaceBase userID (handle p q tick r).2 (⟨caller, q, (handle p q tick r).1⟩ :: trace) := by
  have hnotRead : ∀ account, marks userID ⟨caller, q, (handle p q tick r).1⟩ = true →
      accountSeen userID ⟨caller, q, (handle p q tick r).1⟩ ≠ some account := by
    intro account hmarks hseen
    obtain ⟨rfl, -, -⟩ := accountSeen_handle hseen
    cases hmarks
  have hfound : ∀ event ∈ (⟨caller, q, (handle p q tick r).1⟩ : StoreEvent) :: trace,
      event.req = .user (.getUser userID) → (accountSeen userID event).isSome = true := by
    intro event hmem hreq
    rcases List.mem_cons.mp hmem with rfl | hold
    · cases hreq
      obtain ⟨u, hu⟩ := hbase.account
      have hseen : accountSeen userID
        ⟨caller, .user (.getUser userID), (handle p (.user (.getUser userID)) tick r).1⟩ =
        r.users.lookup userID := if_pos rfl
      rw [hseen, hu]
      rfl
    · exact hbase.found event hold hreq
  rcases race_users p tick r hguard with ⟨rfl, hfirst, hmarks, u, hu, hverified⟩ | ⟨hmarks, husers⟩
  · have hunmarked := hbase.unmarked (by rw [← isMarked_own hbase.marker]; exact hfirst)
    refine ⟨⟨u, hu⟩, hfound, ?_, ?_, ?_, hunique⟩
    · grind
    · intro hnone
      simp [hmarks] at hnone
    · grind [untilMark_cons]
  refine ⟨?_, hfound, ?_, ?_, ?_, hunique⟩
  · grind [husers.lookup_some]
  · grind
  · intro hnone
    rw [isMarked_cons] at hnone
    grind [husers.lookup_some_inv, accountSeen_handle]
  · grind [untilMark_cons]

/-- The two reads of an account that a call makes before it attaches find the address
    alike, proven or not; and a passkey is withdrawn where the account holds no second one
    under the same credential id. -/
def Undivided (userID : String) (pool : RacePool) (caller : Nat) (_ : Tick) : Request → Prop
  | .user (.getUser id) => id = userID → (attachOf (Pool.own pool.trace caller)).isNone = true →
      ∀ event ∈ Pool.own pool.trace caller, ∀ seen ∈ accountSeen userID event, ∀ u ∈ pool.store.users.lookup userID,
        u.emailVerified = seen.emailVerified
  | .credential (.deletePasskeyCredential id credentialID) =>
    (pool.store.passkeyCreds.entries.filter fun entry =>
      entry.2.userID == id && entry.2.credentialID == credentialID).length ≤ 1
  | _ => True

instance (userID : String) (pool : RacePool) (caller : Nat) (tick : Tick) (q : Request) :
    Decidable (Undivided userID pool caller tick q) := by
  unfold Undivided
  split <;> infer_instance

section Late
variable {stores : StoreEvent → Bool} {bad : OAuthIdentity → Bool}

lemma attaches_of_storesPasskey (hstores : storesPasskey nodeID event = true) : attaches event = true := by
  unfold storesPasskey at hstores
  split at hstores
  · rfl
  · cases hstores

lemma attaches_of_storesLink (hstores : storesLink link event = true) : attaches event = true := by
  unfold storesLink at hstores
  split at hstores
  · rfl
  · cases hstores

/-- The call that last stored a credential has not withdrawn it and has not found the address
    unproven since. -/
@[grind]
structure Late (userID : String) (stores : StoreEvent → Bool) (trace : Trace) (d : Nat)
    (attach : StoreEvent) : Prop where
  newest : trace.find? stores = some attach
  attacher : d ≠ 0
  attached : attachOf (Pool.own trace d) = some attach
  since : ∀ event ∈ sinceAttach (Pool.own trace d), withdraws event = false ∧ readsUnproven userID event = false

/-- The attaching step itself. -/
lemma late_of_attach (hcaller : caller ≠ 0)
    (hstores : stores ⟨caller, q, resp⟩ = true) (hattach : attaches ⟨caller, q, resp⟩ = true) :
    Late userID stores (⟨caller, q, resp⟩ :: trace) caller ⟨caller, q, resp⟩ where
  newest := List.find?_cons_of_pos hstores
  attacher := hcaller
  attached := by rw [Pool.own_cons_self, attachOf_cons_of_attaches hattach]
  since := by
    rw [Pool.own_cons_self, sinceAttach_cons_of_attaches hattach]
    exact List.forall_mem_nil _

lemma NeutralStep.not_stores (hstep : NeutralStep q) (resp : Request.Response q)
    (hstores : ∀ event, stores event = true → attaches event = true) : stores ⟨caller, q, resp⟩ = false := by
  by_contra hnew
  have hattach := hstores _ (by simpa using hnew)
  rw [(hstep.inert resp).1] at hattach
  cases hattach

lemma accountSeen_of_readsUnproven (hreads : readsUnproven userID event = true) :
    ∃ account, accountSeen userID event = some account ∧ account.emailVerified = false := by
  obtain ⟨c, req, resp⟩ := event
  cases req with
  | user req =>
    cases req with
    | getUser id =>
      cases resp with
      | none => cases hreads
      | some account =>
        have hboth : id = userID ∧ account.emailVerified = false := by simpa [readsUnproven] using hreads
        exact ⟨account, if_pos hboth.1, hboth.2⟩
    | _ => cases hreads
  | _ => cases hreads

lemma readsUnproven_of_accountSeen (hseen : accountSeen userID event = some account)
    (hunproven : account.emailVerified = false) : readsUnproven userID event = true := by
  unfold accountSeen at hseen
  split at hseen
  · rename_i id found
    by_cases hid : id = userID
    · cases (if_pos hid).symm.trans hseen
      simp [readsUnproven, hid, hunproven]
    · cases (if_neg hid).symm.trans hseen
  · cases hseen

/-- Once the passkeys are swept, every passkey of the account is a late one. -/
@[grind =]
def PasskeysLate (userID : String) (r : Repo) (trace : Trace) : Prop :=
  passkeysSwept userID (Pool.own trace 0) = true → ∀ key c, r.passkeyCreds.lookup key = some c → c.userID = userID →
    ∃ d rec, Late userID (storesPasskey key) trace d (passkeyStored d rec key) ∧ rec.credentialID = c.credentialID

/-- The link is one of those that are still to be swept, or a late one. -/
@[grind =]
def PendingOrLate (userID : String) (pending : List OAuthIdentity) (link : OAuthIdentity) (trace : Trace) : Prop :=
  (∃ other ∈ pending, other.provider = link.provider ∧ other.providerUserID = link.providerUserID) ∨
    ∃ d oi, Late userID (storesLink link) trace d (linkStored d oi)

/-- Once the links are listed again, every bad link of the account is about to be deleted or
    a late one. -/
def LinksLate (userID : String) (bad : OAuthIdentity → Bool) (r : Repo) (trace : Trace) : Prop :=
  ∀ pending, pendingLinks userID bad (Pool.own trace 0) = some pending → ∀ key link,
    r.oauthIdentities.lookup key = some link → link.userID = userID → bad link = true →
      PendingOrLate userID pending link trace

lemma isMarked_of_passkeysSwept (hswept : passkeysSwept userID own = true) : isMarked userID own = true := by
  induction own with
  | nil => cases hswept
  | cons event older ih =>
    rw [isMarked_cons]
    rw [passkeysSwept] at hswept
    grind

lemma emptiesPasskeys_handle (huser : userID ≠ "")
    (hempties : emptiesPasskeys userID ⟨caller, q, (handle p q tick r).1⟩ = true)
    (hc : (handle p q tick r).2.passkeyCreds.lookup key = some c) : c.userID ≠ userID := by
  cases q with
  | credential q =>
    cases q with
    | listPasskeyCredentials id =>
      have hboth : (id == userID && (r.listPasskeyCredentials id).isEmpty) = true := hempties
      rw [Bool.and_eq_true, beq_iff_eq, List.isEmpty_iff] at hboth
      intro howner
      have hrow : r.passkeyCreds.lookup key = some c := hc
      have hmem : c ∈ r.listPasskeyCredentials _ :=
        List.mem_filter.mpr ⟨mem_rows_iff.mpr ⟨key, hrow⟩, by simpa using howner.trans hboth.1.symm⟩
      rw [hboth.2] at hmem
      cases hmem
    | deletePasskeyCredentialsForUser id =>
      have hid : id = userID := by simpa [emptiesPasskeys] using hempties
      subst hid
      have hkept : (r.deletePasskeyCredentialsForUser id).passkeyCreds.lookup key = some c := hc
      rw [Repo.deletePasskeyCredentialsForUser, if_neg huser] at hkept
      simpa using (lookup_keep_eq_some.mp hkept).2
    | _ => cases hempties
  | _ => cases hempties

/-- A proof stores no passkey. -/
lemma ProofGuard.passkeys (hguard : ProofGuard userID own q) (hc :
    (handle p q tick r).2.passkeyCreds.lookup key = some c) :
    r.passkeyCreds.lookup key = some c := by
  rcases hguard with hstep | ⟨email, atMs, clear, rfl, -⟩
  · cases hstep with
    | listPasskeys => exact hc
    | deletePasskeys =>
      have hrows : (r.deletePasskeyCredentialsForUser userID).passkeyCreds.lookup key = some c := hc
      unfold Repo.deletePasskeyCredentialsForUser at hrows
      split at hrows
      · exact hrows
      · exact (lookup_keep_eq_some.mp hrows).1
    | listLinks => exact hc
    | deleteLink provider providerUserID =>
      have hrows : (r.deleteOAuthIdentity userID provider providerUserID).2.passkeyCreds.lookup key = some c := hc
      unfold Repo.deleteOAuthIdentity at hrows
      split at hrows <;> exact hrows
    | session q => rwa [(handle_credentials p tick r rfl).passkeyCreds] at hc
  · rwa [(handle_credentials p tick r rfl).passkeyCreds] at hc

lemma ProofGuard.not_attaches (hguard : ProofGuard userID own q)
    (resp : Request.Response q) : attaches ⟨caller, q, resp⟩ = false := by
  rcases hguard with hstep | ⟨email, atMs, clear, rfl, -⟩
  · cases hstep <;> rfl
  · rfl

section
variable (hlate : Late userID stores trace d attach)
include hlate

lemma Late.step (resp : Request.Response q) (hnew : stores ⟨caller, q, resp⟩ = false)
    (hown : caller = d → attaches ⟨caller, q, resp⟩ = false ∧ withdraws ⟨caller, q, resp⟩ = false ∧
      readsUnproven userID ⟨caller, q, resp⟩ = false) :
    Late userID stores (⟨caller, q, resp⟩ :: trace) d attach := by
  have hnewest : (⟨caller, q, resp⟩ :: trace : Trace).find? stores = some attach := by
    rw [List.find?_cons_of_neg (by simp [hnew]), hlate.newest]
  by_cases hsame : caller = d
  · obtain ⟨hnot, hquiet⟩ := hown hsame
    subst hsame
    refine ⟨hnewest, hlate.attacher, ?_, ?_⟩
    · rw [Pool.own_cons_self, attachOf_cons_of_not hnot, hlate.attached]
    · rw [Pool.own_cons_self, sinceAttach_cons_of_not hnot]
      exact List.forall_mem_cons.mpr ⟨hquiet, hlate.since⟩
  · grind [Pool.own_cons_ne]

/-- Where the address is proven, a neutral step keeps every late credential late. -/
lemma Late.neutral (hstep : NeutralStep q) (hstores : ∀ event, stores event = true → attaches event = true)
    (hverified : ∀ u, r.users.lookup userID = some u → u.emailVerified = true) :
    Late userID stores (⟨caller, q, (handle p q tick r).1⟩ :: trace) d attach := by
  refine hlate.step _ (hstep.not_stores _ hstores) fun _ => ⟨(hstep.inert _).1, (hstep.inert _).2, ?_⟩
  by_contra hreads
  obtain ⟨account, hseen, hunproven⟩ := accountSeen_of_readsUnproven (by simpa using hreads)
  rw [hverified account (accountSeen_handle hseen).2.1] at hunproven
  cases hunproven

/-- A call that has not attached yet has nothing late. -/
lemma Late.ne (hnone : attachOf (Pool.own trace caller) = none) : caller ≠ d := by
  rintro rfl
  rw [hlate.attached] at hnone
  cases hnone

/-- A step of the proof is no step of whoever attached. -/
lemma Late.proof (hguard : ProofGuard userID (Pool.own trace 0) q)
    (hstores : ∀ event, stores event = true → attaches event = true) (resp : Request.Response q) :
    Late userID stores (⟨0, q, resp⟩ :: trace) d attach := by
  refine hlate.step resp ?_ fun hsame => absurd hsame.symm hlate.attacher
  by_contra hnew
  have hattach := hstores _ (by simpa using hnew)
  rw [hguard.not_attaches] at hattach
  cases hattach

end

lemma ProofGuard.passkeysLate (hguard : ProofGuard userID (Pool.own trace 0) q) (huser : userID ≠ "")
    (hlate : PasskeysLate userID r trace) :
    PasskeysLate userID (handle p q tick r).2 (⟨0, q, (handle p q tick r).1⟩ :: trace) := by
  intro hswept key c hc howner
  rw [Pool.own_cons_self, passkeysSwept, Bool.or_eq_true, Bool.and_eq_true] at hswept
  rcases hswept with ⟨-, hempties⟩ | hswept
  · exact absurd howner (emptiesPasskeys_handle huser hempties hc)
  · obtain ⟨d, rec, hrec, hcred⟩ := hlate hswept key c (hguard.passkeys hc) howner
    exact ⟨d, rec, hrec.proof hguard (fun _ => attaches_of_storesPasskey) _, hcred⟩

lemma createOAuthIdentity_passkeyCreds (r : Repo) (oi : OAuthIdentity) :
    (r.createOAuthIdentity oi).2.passkeyCreds = r.passkeyCreds := by
  unfold Repo.createOAuthIdentity
  split <;> rfl

/-- An attaching step keeps every passkey of the account late. -/
lemma AttachGuard.passkeysLate (hcaller : caller ≠ 0) (hguard : AttachGuard userID caller (Pool.own trace caller) q)
    (huser : userID ≠ "") (hverified : ∀ u, r.users.lookup userID = some u → u.emailVerified = true)
    (hone : ∀ id credentialID, q = .credential (.deletePasskeyCredential id credentialID) →
      (r.passkeyCreds.entries.filter fun entry =>
        entry.2.userID == id && entry.2.credentialID == credentialID).length ≤ 1)
    (hlate : ∀ key c, r.passkeyCreds.lookup key = some c → c.userID = userID →
      ∃ d rec, Late userID (storesPasskey key) trace d (passkeyStored d rec key) ∧ rec.credentialID = c.credentialID)
        (hc : (handle p q tick r).2.passkeyCreds.lookup key = some c)
    (howner : c.userID = userID) :
    ∃ d rec, Late userID (storesPasskey key) (⟨caller, q, (handle p q tick r).1⟩ :: trace) d
      (passkeyStored d rec key) ∧
      rec.credentialID = c.credentialID := by
  unfold AttachGuard at hguard
  split at hguard
  · rename_i rec
    rcases createPasskeyCredential_lookup hc with ⟨hold, hfresh⟩ | ⟨rfl, rfl⟩
    · obtain ⟨d, rec', hrec, hcred⟩ := hlate key c hold howner
      exact ⟨d, rec', hrec.step _ (beq_eq_false_iff_ne.mpr hfresh.symm)
        fun hsame => absurd hsame (hrec.ne hguard.2), hcred⟩
    · exact ⟨caller, rec, late_of_attach hcaller (beq_self_eq_true _) rfl, rfl⟩
  · rename_i oi
    have hsame := createOAuthIdentity_passkeyCreds r oi
    obtain ⟨d, rec', hrec, hcred⟩ := hlate key c (hsame ▸ hc) howner
    exact ⟨d, rec', hrec.step _ rfl fun hsame => absurd hsame (hrec.ne hguard.2), hcred⟩
  · rename_i id credentialID
    obtain ⟨rfl, rec0, nodeID, hattached, rfl⟩ := hguard
    obtain ⟨hold, hother⟩ := deletePasskeyCredential_lookup hc
    obtain ⟨d, rec, hrec, hcred⟩ := hlate key c hold howner
    refine ⟨d, rec, hrec.step _ rfl fun hsame => ?_, hcred⟩
    -- the caller's own passkey is the one that goes
    subst hsame
    have hstored := hattached.symm.trans hrec.attached
    obtain ⟨-, hreq, hresp⟩ := Event.mk.inj (Option.some.inj hstored)
    cases hreq
    obtain ⟨key', c', hne, hrow', howner', hcred'⟩ := hother huser howner hcred.symm
    have hmem : (⟨key, c⟩ : (_ : String) × PasskeyCredRecord) ∈ r.passkeyCreds.entries.filter fun entry =>
        entry.2.userID == id && entry.2.credentialID == rec0.credentialID :=
      List.mem_filter.mpr ⟨AList.mem_lookup_iff.mp hold, by simp [howner, hcred]⟩
    have hmem' : (⟨key', c'⟩ : (_ : String) × PasskeyCredRecord) ∈ r.passkeyCreds.entries.filter fun entry =>
        entry.2.userID == id && entry.2.credentialID == rec0.credentialID :=
      List.mem_filter.mpr ⟨AList.mem_lookup_iff.mp hrow', by simp [howner', hcred']⟩
    grind [List.length_eq_one_iff]
  · rename_i id provider providerUserID
    have hsame : (r.deleteOAuthIdentity id provider providerUserID).2.passkeyCreds = r.passkeyCreds := by
      unfold Repo.deleteOAuthIdentity
      split <;> rfl
    obtain ⟨d, rec', hrec, hcred⟩ := hlate key c (hsame ▸ hc) howner
    grind [hrec.step, storesPasskey]
  · obtain ⟨d, rec', hrec, hcred⟩ := hlate key c ((hguard.leaves p tick r).1 ▸ hc) howner
    exact ⟨d, rec', hrec.neutral hguard (fun _ => attaches_of_storesPasskey) hverified, hcred⟩

lemma isMarked_of_pendingLinks
    (hpending : pendingLinks userID bad own = some pending) : isMarked userID own = true := by
  induction own generalizing pending with
  | nil => cases hpending
  | cons event older ih =>
    rw [isMarked_cons]
    unfold pendingLinks at hpending
    split at hpending
    · cases ‹_ :: _ = []›
    · grind
    · rename_i heq
      cases heq
      split at hpending
      · obtain ⟨before, hbefore, -⟩ := Option.map_eq_some_iff.mp hpending
        rw [ih hbefore, Bool.or_true]
      · rw [ih hpending, Bool.or_true]
    rename_i heq
    cases heq
    rw [ih hpending, Bool.or_true]

/-- What a proof does to the links. -/
lemma ProofGuard.linksLate (hguard : ProofGuard userID (Pool.own trace 0) q) (hunique : LinksUnique r)
    (hlate : LinksLate userID bad r trace) :
    LinksLate userID bad (handle p q tick r).2 (⟨0, q, (handle p q tick r).1⟩ :: trace) := by
  have hothers : ∀ {d link attach}, Late userID (storesLink link) trace d attach →
      Late userID (storesLink link) (⟨0, q, (handle p q tick r).1⟩ :: trace) d attach :=
    fun hrec => hrec.proof hguard (fun _ => attaches_of_storesLink) _
  -- the steps that leave the links and what is pending alone
  have hsame : (handle p q tick r).2.oauthIdentities = r.oauthIdentities →
      pendingLinks userID bad (⟨0, q, (handle p q tick r).1⟩ :: Pool.own trace 0) =
        pendingLinks userID bad (Pool.own trace 0) →
      LinksLate userID bad (handle p q tick r).2 (⟨0, q, (handle p q tick r).1⟩ :: trace) := by
    intro hrows hpend pending hpending key link hlink howner hbad
    rw [Pool.own_cons_self, hpend] at hpending
    rw [hrows] at hlink
    refine (hlate pending hpending key link hlink howner hbad).imp_right ?_
    rintro ⟨d, oi, hrec⟩
    exact ⟨d, oi, hothers hrec⟩
  rcases hguard with hstep | ⟨email, atMs, clear, rfl, -⟩
  · cases hstep with
    | listPasskeys => exact hsame rfl rfl
    | deletePasskeys =>
      refine hsame ?_ rfl
      show (r.deletePasskeyCredentialsForUser userID).oauthIdentities = _
      unfold Repo.deletePasskeyCredentialsForUser
      split <;> rfl
    | session q => exact hsame (handle_credentials p tick r rfl).oauthIdentities rfl
    | listLinks =>
      by_cases hmarked : isMarked userID (Pool.own trace 0) = true
      · intro pending hpending key link hlink howner hbad
        cases (pendingLinks_list hmarked).symm.trans hpending
        have hrow : r.oauthIdentities.lookup key = some link := hlink
        exact .inl ⟨link, List.mem_filter.mpr
          ⟨List.mem_filter.mpr ⟨mem_rows_iff.mpr ⟨key, hrow⟩, by simpa using howner⟩, hbad⟩, rfl, rfl⟩
      · refine hsame rfl (if_neg fun hboth => hmarked hboth.2)
    | deleteLink provider providerUserID =>
      intro pending hpending key link hlink howner hbad
      obtain ⟨before, hbefore, rfl⟩ := Option.map_eq_some_iff.mp (pendingLinks_delete.symm.trans hpending)
      obtain ⟨hold, hdiffers⟩ := deleteOAuthIdentity_lookup hunique hlink
      rcases hlate before hbefore key link hold howner hbad with ⟨other, hother, hprovider, hid⟩ | ⟨d, oi, hrec⟩
      · grind
      · exact .inr ⟨d, oi, hothers hrec⟩
  · exact hsame (handle_credentials p tick r rfl).oauthIdentities rfl

/-- An attaching step keeps every bad link of the account pending or late. -/
lemma AttachGuard.linksLate (hcaller : caller ≠ 0) (hguard : AttachGuard userID caller (Pool.own trace caller) q)
    (hunique : LinksUnique r) {pending : List OAuthIdentity}
    (hverified : ∀ u, r.users.lookup userID = some u → u.emailVerified = true)
    (hlate : ∀ key link, r.oauthIdentities.lookup key = some link → link.userID = userID → bad link = true →
      PendingOrLate userID pending link trace)
    (hlink : (handle p q tick r).2.oauthIdentities.lookup key = some link)
    (howner : link.userID = userID) (hbad : bad link = true) :
    PendingOrLate userID pending link (⟨caller, q, (handle p q tick r).1⟩ :: trace) := by
  -- a link that was there before stays pending, or late unless its own call moves
  have hold : r.oauthIdentities.lookup key = some link → storesLink link ⟨caller, q, (handle p q tick r).1⟩ = false →
      (∀ oi, Late userID (storesLink link) trace caller (linkStored caller oi) →
        Late userID (storesLink link) (⟨caller, q, (handle p q tick r).1⟩ :: trace) caller (linkStored caller oi)) →
      PendingOrLate userID pending link (⟨caller, q, (handle p q tick r).1⟩ :: trace) := by
    intro hbefore hnew hself
    refine (hlate key link hbefore howner hbad).imp_right ?_
    rintro ⟨d, oi, hrec⟩
    refine ⟨d, oi, ?_⟩
    by_cases hsame : caller = d
    · subst hsame
      exact hself oi hrec
    · exact hrec.step _ hnew fun heq => absurd heq hsame
  unfold AttachGuard at hguard
  split at hguard
  · exact hold hlink rfl fun oi hrec => absurd rfl (hrec.ne hguard.2)
  · rename_i oi
    rcases createOAuthIdentity_lookup hlink with ⟨hbefore, hdiffers⟩ | ⟨hok, rfl, rfl⟩
    · refine hold hbefore ?_ fun oi hrec => absurd rfl (hrec.ne hguard.2)
      have hanswer : (handle p (.credential (.createOAuthIdentity oi)) tick r).1 = (r.createOAuthIdentity oi).1 := rfl
      rw [hanswer]
      cases hresult : (r.createOAuthIdentity oi).1 with
      | error err => rfl
      | ok stored =>
        have hnot := hdiffers hresult
        simpa [storesLink] using hnot
    refine .inr ⟨caller, oi, ?_⟩
    have hanswer : (handle p (.credential (.createOAuthIdentity oi)) tick r).1 = .ok () := hok
    rw [hanswer]
    exact late_of_attach hcaller (by simp [storesLink]) rfl
  · rename_i id credentialID
    obtain ⟨rfl, rec, nodeID, hattached, -⟩ := hguard
    refine hold ?_ rfl fun oi hrec => ?_
    · have hrows : (r.deletePasskeyCredential id credentialID).2.oauthIdentities.lookup key = some link := hlink
      unfold Repo.deletePasskeyCredential at hrows
      split at hrows <;> exact hrows
    · cases congrArg (Option.map Event.req) (hattached.symm.trans hrec.attached)
  · rename_i id provider providerUserID
    obtain ⟨rfl, oi0, hattached, rfl, rfl⟩ := hguard
    obtain ⟨hbefore, hdiffers⟩ := deleteOAuthIdentity_lookup hunique hlink
    refine hold hbefore rfl fun oi hrec => ?_
    -- the caller's own link is the one that goes
    obtain ⟨hprovider, hid⟩ := (by simpa [storesLink, linkStored] using List.find?_some hrec.newest)
    obtain ⟨-, hreq, -⟩ := Event.mk.inj (Option.some.inj (hattached.symm.trans hrec.attached))
    cases hreq
    exact absurd ⟨hprovider.symm, hid.symm⟩ (hdiffers howner)
  have hstores : ∀ event, storesLink link event = true → attaches event = true := fun _ => attaches_of_storesLink
  refine hold ((hguard.leaves p tick r).2 ▸ hlink) (hguard.not_stores _ hstores) fun oi hrec => ?_
  exact hrec.neutral hguard hstores hverified

end Late
end identity.service
