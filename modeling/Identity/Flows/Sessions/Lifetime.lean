import Identity.Flows.Sessions.Lineage
import Identity.Flows.Sessions.Rotation
import Identity.Service.LoginPolicy

open identity.repository identity.memory
namespace identity.service
open Routine GoMap

/-- The calls that open a session and continue it, each with the settings it finds: a
    sign-in, a rotation, and the completion of a ticket for the date of birth. -/
inductive SessionCall where
  | signIn (s : AuthService) (user : User) (client : ClientInfo)
  | refresh (s : AuthService) (raw tenantID : String) (client : ClientInfo)
  | complete (s : AuthService) (ticket : String) (dobMs : Int) (client : ClientInfo)

/-- What the calls of a session ask of the store. -/
inductive SessionStep : Request → Prop
  | rotation {q : Request} (hstep : RefreshStep q) : SessionStep q
  | lookup (hash : String) : SessionStep (.session (.findRefreshTokenByHashIncludingConsumed hash))
  | consume (hash : String) (atMs : Int) : SessionStep (.session (.consumeRefreshTokenByHash hash atMs))
  | endTokens (userID : String) : SessionStep (.session (.deleteRefreshTokensForUser userID))
  | born (userID : String) (dobMs : Int) (status : String) (now : Int) :
      SessionStep (.user (.setDateOfBirthOnce userID dobMs status now))
  | issue (t : RefreshTokenRecord) : SessionStep (.session (.createRefreshToken t))

/-- The step at which a call stores a date of birth and leaves the account's status. -/
def dateStored (caller : Nat) (userID : String) (dobMs now : Int)
    (answer : Request.Response (.user (.setDateOfBirthOnce userID dobMs "" now))) : StoreEvent :=
  ⟨caller, .user (.setDateOfBirthOnce userID dobMs "" now), answer⟩

namespace SessionCall
variable (p : Platform)

/-- The refresh token a call hands out. -/
def program : SessionCall → Call Request.Response (Except Err String)
  | .signIn s user client => (do return (← s.issueTokens p user client).refreshToken : ServiceCall String).call
  | .refresh s raw tenantID client =>
    (do return (← s.refreshToken p raw tenantID client).refreshToken : ServiceCall String).call
  | .complete s ticket dobMs client =>
    (do return (← s.submitDateOfBirth p ticket dobMs client).refreshToken : ServiceCall String).call

/-- A refresh token stored with a start of the session that was handed in. -/
def Anchored (caller : Nat) (own : Trace) (raw : String) (anchor : Int) : Prop :=
  ∃ t id, tokenCreated caller t id ∈ own ∧ t.tokenHash = p.sha256Hex raw ∧ (0 < anchor → t.sessionStartedAt = anchor)

/-- What stands behind a refresh token that a call hands out. -/
def Hands (caller : Nat) (own : Trace) (handed : String) : SessionCall → Prop
  | .signIn _ _ _ => ∃ now, clockRead caller now ∈ own ∧ Anchored p caller own handed now
  | .refresh s raw _ _ => raw ≠ "" ∧ ∃ record user now, tokenLookup caller (p.sha256Hex raw) (some record) ∈ own ∧
      accountRead caller record.userID (some user) ∈ own ∧ clockRead caller now ∈ own ∧
      s.refresh.enforceSessionTimeout user.email now record.sessionStartedAt record.lastUsedAt = .ok () ∧
      Anchored p caller own handed record.sessionStartedAt
  | .complete s ticket _ _ => ∃ claims, s.verifyPurposeTicket tokenPurposeDOBCompletion ticket = .ok claims ∧
      (handed = "" ∨ ∃ userID dobMs now answer, dateStored caller userID dobMs now answer ∈ own)

def Handed (call : SessionCall) (caller : Nat) (own : Trace) (result : Except Err String) : Prop :=
  ∀ handed, result = .ok handed → call.Hands p caller own handed

end SessionCall

lemma SessionCall.Anchored.mono (hanchored : SessionCall.Anchored p caller own raw anchor) (hsuffix : own <:+ own') :
    SessionCall.Anchored p caller own' raw anchor := by
  obtain ⟨t, id, hmem, hrest⟩ := hanchored
  exact ⟨t, id, hsuffix.subset hmem, hrest⟩

/-- A stretch of a rotation's steps, followed by another. -/
lemma rotates_bind {next : α → ServiceCall β}
    (hflow : flow.Makes RefreshStep)
    (hnext : ∀ own' value, own <:+ own' → (next value).Yields caller (fun _ => SessionStep) ok own') :
    (flow >>= next).Yields caller (fun _ => SessionStep) ok own :=
  hflow.followed (fun _ _ _ hstep => .rotation hstep) hnext

namespace AuthService
variable (p : Platform) (s : AuthService)
variable (user : User)
variable (client : ClientInfo)
variable (sessionStartedAtMs authTimeMs : Int)

/-- The token that is about to be stored has the session's start that was handed in. -/
lemma prepareTokens_anchors (tenantID : String) :
    (s.prepareTokens p user client sessionStartedAtMs authTimeMs tenantID).Yields caller (fun _ => SessionStep)
      (fun _ prepared => prepared.2.tokenHash = p.sha256Hex prepared.1.refreshToken ∧
        (0 < sessionStartedAtMs → prepared.2.sessionStartedAt = sessionStartedAtMs)) own := by
  refine rotates_bind (makes_refuseIf _) fun _ _ _ => rotates_bind (makes_nowMs (.read rfl)) fun _ now _ => ?_
  refine rotates_bind (refreshStep_of_looks (s.checkStanding_reads user)) fun _ _ _ => ?_
  refine rotates_bind (makes_check _) fun _ _ _ => rotates_bind (makes_check _) fun _ _ _ => ?_
  refine rotates_bind (s.refreshStep_of_account user (s.ensureCanonicalEmail_completes user).makes) fun _ user1 _ => ?_
  refine rotates_bind (s.refreshStep_of_account user (s.ensureAccountAddress_completes user1).makes)
    fun _ user2 _ => ?_
  refine rotates_bind (s.openSession_refreshes user2 now) fun _ sid _ => rotates_bind (makes_check _) fun _ _ _ => ?_
  exact rotates_bind (makes_randText (.read rfl)) fun _ _ _ => ⟨rfl, fun hanchor => if_neg (Int.not_le.mpr hanchor)⟩

lemma issueTokensWithSessionStart_anchors (tenantID : String) :
    (s.issueTokensWithSessionStart p user client sessionStartedAtMs authTimeMs tenantID).Yields caller
      (fun _ => SessionStep)
        (fun own' issued => SessionCall.Anchored p caller own' issued.refreshToken sessionStartedAtMs) own := by
  refine .bind ((s.prepareTokens_anchors p user client _ _ _).mono ?_ fun _ _ h => h)
  rintro own1 prepared ⟨hhash, hanchor⟩
  exact ⟨.issue _, fun id => ⟨prepared.2, id, .head _, hhash, hanchor⟩⟩

lemma issueSignInTokens_anchors :
    (s.issueSignInTokens p user client sessionStartedAtMs authTimeMs).Yields caller (fun _ => SessionStep)
      (fun own' issued => SessionCall.Anchored p caller own' issued.refreshToken sessionStartedAtMs) own := by
  refine rotates_bind (makes_refuseIf _) fun _ _ _ => rotates_bind (makes_check _) fun _ _ _ => ?_
  refine rotates_bind (s.refreshStep_of_account user (s.cancelPendingDeletionOnLogin_makes user)) fun _ user' _ => ?_
  refine .bind ((s.issueTokensWithSessionStart_anchors p user' client _ _ _).mono ?_ fun _ _ h => h)
  intro own1 issued hanchored
  exact rotates_bind (s.refreshStep_of_account user (s.updateLastLogin_completes _).makes)
    fun _ _ h => hanchored.mono h

lemma issueTokens_hands : (s.issueTokens p user client).Yields caller (fun _ => SessionStep)
      (fun own' issued => (SessionCall.signIn s user client).Hands p caller own' issued.refreshToken) own := by
  refine .nowMs (.rotation (.read rfl)) fun now => ?_
  refine (s.issueSignInTokens_anchors p user client now now).suffix.mono ?_ fun _ _ _ => trivial
  rintro own' issued ⟨hsuffix, hanchored⟩
  exact ⟨now, hsuffix.subset List.mem_cons_self, hanchored⟩

variable (record : RefreshTokenRecord)

/-- Only a session that has not timed out passes. -/
lemma checkSessionTimeout_lives (user : User) :
    (s.checkSessionTimeout record user).Yields caller (fun _ => SessionStep)
      (fun own' _ => ∃ now, clockRead caller now ∈ own' ∧
        s.refresh.enforceSessionTimeout user.email now record.sessionStartedAt record.lastUsedAt = .ok ()) own := by
  refine .nowMs (.rotation (.read rfl)) fun now => ?_
  cases htimeout : s.refresh.enforceSessionTimeout user.email now record.sessionStartedAt record.lastUsedAt with
  | ok _ => exact ⟨now, .head _, htimeout⟩
  | error err =>
    exact rotates_bind (.ask (.deleteToken _)) fun _ _ _ =>
      rotates_bind (s.revokeSessionIfModeSession_refreshes _ _) fun _ _ _ => trivial

lemma rotate_anchors (user : User) (hash tenantID : String) (status : Except Err Unit)
    (client : ClientInfo) : (s.rotate p record user hash tenantID status client).Yields caller (fun _ => SessionStep)
      (fun own' issued => SessionCall.Anchored p caller own' issued.refreshToken record.sessionStartedAt) own := by
  refine rotates_bind (makes_nowMs (.read rfl)) fun _ now _ => ?_
  refine .attempted (.consume hash now) fun answer => ?_
  cases answer with
  | error err => exact .ite (fun _ => trivial) fun _ => trivial
  | ok _ =>
    refine rotates_bind (s.settleStatus_refreshes record status) fun _ _ _ => ?_
    refine rotates_bind (s.readmit_refreshes user) fun _ _ _ => ?_
    exact s.issueTokensWithSessionStart_anchors p user client _ _ _

lemma refreshToken_hands (raw tenantID : String) (client : ClientInfo) :
    (s.refreshToken p raw tenantID client).Yields caller (fun _ => SessionStep)
      (fun own' issued => (SessionCall.refresh s raw tenantID client).Hands p caller own' issued.refreshToken)
        own := by
  refine .past fun hraw => ?_
  refine rotates_bind (makes_check _) fun _ tenantID _ => ?_
  refine keeps_bind.mpr ⟨.lookup _, fun found => ?_⟩
  cases found with
  | none => trivial
  | some record =>
    refine Routine.Keeps.bind (.ite (fun _ => ?_) fun _ => ?_)
    · refine keeps_bind.mpr ⟨.endTokens _, fun _ => ?_⟩
      exact rotates_bind (s.revokeUserSessionsIfModeSession_refreshes record.userID) fun _ _ _ => trivial
    refine rotates_bind (s.checkRefreshExpiry_refreshes record) fun own1 _ h1 => ?_
    refine .getUser (.rotation (.read rfl)) fun user => ?_
    cases user with
    | none => trivial
    | some user =>
      refine .bind ((s.checkSessionTimeout_lives record user).suffix.mono ?_ fun _ _ _ => trivial)
      rintro own2 _ ⟨h2, now, hnow, hlives⟩
      refine rotates_bind (s.refreshGates_refreshes record user tenantID) fun own3 status h3 => ?_
      refine (s.rotate_anchors p record user _ tenantID status client).suffix.mono ?_ fun _ _ _ => trivial
      rintro own4 issued ⟨h4, hanchored⟩
      have hsuffix := h2.trans (h3.trans h4)
      refine ⟨hraw, record, user, now, ?_, hsuffix.subset List.mem_cons_self, (h3.trans h4).subset hnow,
        hlives, hanchored⟩
      exact hsuffix.subset (.tail _ (h1.subset (.head _)))

/-- A completion hands out a token only after it stored a date that does not gate the
    account. -/
lemma completeDateOfBirth_hands (dobMs authTime : Int) (client : ClientInfo) :
    (s.completeDateOfBirth p user dobMs authTime client).Yields caller (fun _ => SessionStep)
      (fun own' result => result.refreshToken = "" ∨
        ∃ userID dobMs now answer, dateStored caller userID dobMs now answer ∈ own') own := by
  refine rotates_bind (makes_nowMs (.read rfl)) fun _ today _ => rotates_bind (makes_nowMs (.read rfl))
    fun _ now _ => ?_
  generalize s.childBand user dobMs today = child
  refine .attemptRequest (.born _ _ _ _) fun answer => ⟨fun won _ => ?_, fun _ _ => trivial⟩
  refine rotates_bind (makes_refuseIf _) fun own1 _ h1 => .ite (fun _ => .inl rfl) fun hadult => ?_
  cases Bool.eq_false_iff.mpr hadult
  refine .bind ((s.issueSignInTokens_anchors p _ client _ _).suffix.mono ?_ fun _ _ _ => trivial)
  rintro own2 issued ⟨h2, -⟩
  exact .inr ⟨user.id, dobMs, now, answer, (h1.trans h2).subset (.head _)⟩

lemma submitDateOfBirth_hands (ticket : String) (dobMs : Int) (client : ClientInfo) :
    (s.submitDateOfBirth p ticket dobMs client).Yields caller (fun _ => SessionStep)
      (fun own' result => (SessionCall.complete s ticket dobMs client).Hands p caller own' result.refreshToken)
        own := by
  refine .check (fun claims hclaims => ?_) fun _ _ => trivial
  refine rotates_bind (makes_nowMs (.read rfl)) fun _ today _ => rotates_bind (makes_check _) fun _ _ _ => ?_
  refine .getUser (.rotation (.read rfl)) fun user => ?_
  cases user with
  | none => trivial
  | some user =>
    refine rotates_bind (makes_refuseIf _) fun _ _ _ => ?_
    refine rotates_bind (refreshStep_of_looks (s.checkAccountStatus_reads user)) fun _ _ _ => ?_
    refine rotates_bind (makes_check _) fun _ _ _ => ?_
    exact (s.completeDateOfBirth_hands p user dobMs _ client).mono (fun _ _ h => ⟨claims, hclaims, h⟩) fun _ _ h => h

end AuthService

lemma SessionCall.program_keeps (call : SessionCall) (caller : Nat) :
    (call.program p).Keeps caller (fun _ => SessionStep) (call.Handed p caller) [] := by
  have hwrap : ∀ {α : Type} {flow : ServiceCall α} {token : α → String},
      flow.Yields caller (fun _ => SessionStep) (fun own' value => call.Hands p caller own' (token value)) [] →
      (do return token (← flow) : ServiceCall String).call.Keeps caller (fun _ => SessionStep) (call.Handed p caller)
        [] := by
    intro α flow token hflow
    have hpure : (do return token (← flow) : ServiceCall String).Yields caller (fun _ => SessionStep)
        (fun own' handed => call.Hands p caller own' handed) [] := keeps_bind.mpr hflow
    refine Call.Keeps.mono hpure fun own' result hpost => ?_
    cases result with
    | ok handed =>
      rintro _ ⟨⟩
      exact hpost
    | error err => exact nofun
  cases call with
  | signIn s user client => exact hwrap (s.issueTokens_hands p user client)
  | refresh s raw tenantID client => exact hwrap (s.refreshToken_hands p raw tenantID client)
  | complete s ticket dobMs client => exact hwrap (s.submitDateOfBirth_hands p ticket dobMs client)

/-- Every refresh token after a step was there before it, under the same hash and with the
    same start of its session. -/
def AnchorsFrom (r r' : Repo) : Prop :=
  ∀ key t', r'.refreshTokens.lookup key = some t' →
    ∃ t, r.refreshTokens.lookup key = some t ∧ t'.tokenHash = t.tokenHash ∧ t'.sessionStartedAt = t.sessionStartedAt

lemma anchorsFrom_of_eq (hsame : r'.refreshTokens = r.refreshTokens) : AnchorsFrom r r' :=
  fun _ t' ht' => ⟨t', by rw [← hsame, ht'], rfl, rfl⟩

lemma consumeRefreshTokenByHash_anchorsFrom (r : Repo) (hash : String) (atMs : Int) :
    AnchorsFrom r (r.consumeRefreshTokenByHash hash atMs).2 := by
  unfold Repo.consumeRefreshTokenByHash
  split
  · exact anchorsFrom_of_eq rfl
  rename_i entry hfind
  split
  · exact anchorsFrom_of_eq rfl
  intro key t' ht'
  have hlookup : (r.refreshTokens.insert entry.1 { entry.2 with consumedAtMs := atMs }).lookup key = some t' := ht'
  rw [lookup_insert_eq] at hlookup
  split at hlookup
  · rename_i hkey
    cases hlookup
    exact ⟨entry.2, hkey ▸ AList.mem_lookup_iff.mpr (List.mem_of_find?_eq_some hfind), rfl, rfl⟩
  · exact ⟨t', hlookup, rfl, rfl⟩

lemma UserRequest.anchorsFrom (honly : q.usersOnly = true) (p : Platform) (tick : Tick) (r : Repo) :
    AnchorsFrom r (handle p (.user q) tick r).2 :=
  anchorsFrom_of_eq (UserRequest.handle_usersOnly honly tick.now r).sessions.refreshTokens

lemma RefreshStep.anchorsFrom (hstep : RefreshStep q) (p : Platform) (tick : Tick) (r : Repo) :
    AnchorsFrom r (handle p q tick r).2 := by
  cases hstep with
  | read hplain =>
    rw [handle_isRead (isRead_of_isPlain hplain)]
    exact anchorsFrom_of_eq rfl
  | account hstep =>
    cases hstep with
    | read hplain =>
      rw [handle_isRead (isRead_of_isPlain hplain)]
      exact anchorsFrom_of_eq rfl
    | cancelDeletion | column | freed | moved | address => exact UserRequest.anchorsFrom rfl p tick r
  | deleteToken nodeID =>
    intro key t' ht'
    have hlookup : (r.deleteRefreshToken tick.now nodeID).refreshTokens.lookup key = some t' := ht'
    grind [lookup_deleteRefreshToken]
  | revokeSession sid atMs => exact anchorsFrom_of_eq (revokeSession_refreshTokens r sid atMs)
  | revokeSessions userID atMs => exact anchorsFrom_of_eq (revokeSessionsForUser_refreshTokens r userID atMs)
  | seen userID patch => exact UserRequest.anchorsFrom rfl p tick r
  | openSession s => exact anchorsFrom_of_eq (createSession_refreshTokens r s)

/-- Only an issue adds a refresh token. -/
lemma SessionStep.anchorsFrom (hstep : SessionStep q) (hother : ∀ t, q ≠ .session (.createRefreshToken t))
    (p : Platform)
    (tick : Tick) (r : Repo) : AnchorsFrom r (handle p q tick r).2 := by
  cases hstep with
  | rotation hstep => exact hstep.anchorsFrom p tick r
  | lookup hash => exact anchorsFrom_of_eq rfl
  | consume hash atMs => exact consumeRefreshTokenByHash_anchorsFrom r hash atMs
  | endTokens userID =>
    intro key t' ht'
    have hlookup : (r.deleteRefreshTokensForUser tick.now userID).refreshTokens.lookup key = some t' := ht'
    rw [lookup_deleteRefreshTokensForUser, Option.filter_eq_some_iff] at hlookup
    exact ⟨t', hlookup.1, rfl, rfl⟩
  | born userID dobMs status now => exact UserRequest.anchorsFrom rfl p tick r
  | issue t => exact absurd rfl (hother t)

section Run
variable (p : Platform) (calls : List SessionCall)

/-- A refresh token was there at the start or was stored since, with its hash and the start
    of its session. -/
def Stems (start : Repo) (trace : Trace) (t : RefreshTokenRecord) : Prop :=
  (∃ key t₀, start.refreshTokens.lookup key = some t₀ ∧ t.tokenHash = t₀.tokenHash) ∨
    ∃ caller t₀ id, tokenCreated caller t₀ id ∈ trace ∧ t.tokenHash = t₀.tokenHash ∧
      t.sessionStartedAt = t₀.sessionStartedAt

/-- A completion of a ticket that names no sign-in. -/
def SessionCall.completesUnanchored : SessionCall → Bool
  | .complete s ticket _ _ =>
    match s.verifyPurposeTicket tokenPurposeDOBCompletion ticket with
    | .ok claims => claims.authTime == 0
    | .error _ => false
  | _ => false

/-- A date of birth that does not gate the account. -/
def storesUngated : Request → Bool
  | .user (.setDateOfBirthOnce _ _ status _) => status == ""
  | _ => false

/-- The step does not store, for a ticket that names no sign-in, a date of birth that
    leaves the account free to go on. -/
def CompletesSignIn (_ : Pool Request.Response Repo (Except Err String)) (caller : Nat) (_ : Tick)
    (q : Request) : Prop :=
  (calls[caller]?.any SessionCall.completesUnanchored && storesUngated q) = false

instance (pool : Pool Request.Response Repo (Except Err String)) (caller : Nat) (tick : Tick) (q : Request) :
    Decidable (CompletesSignIn calls pool caller tick q) :=
  inferInstanceAs (Decidable (_ = false))

/-- What holds of the store and of the steps taken, all along. -/
@[grind]
structure LifetimeInv (start r : Repo) (trace : Trace) : Prop where
  rows : ∀ key t, r.refreshTokens.lookup key = some t → Stems start trace t
  found : ∀ caller hash record, tokenLookup caller hash (some record) ∈ trace →
    record.tokenHash = hash ∧ Stems start trace record
  clock : ∀ caller now, clockRead caller now ∈ trace → 0 < now
  dates : ∀ caller call, calls[caller]? = some call → call.completesUnanchored = true →
    ∀ userID dobMs now answer, dateStored caller userID dobMs now answer ∉ trace

def LifetimeHolds (start : Repo) (pool : Pool Request.Response Repo (Except Err String)) : Prop :=
  LifetimeInv calls start pool.store pool.trace

end Run

lemma Stems.cons (hstems : Stems start trace t) (event : StoreEvent) : Stems start (event :: trace) t := by
  rcases hstems with hold | ⟨creator, t₀, id, hmem, hrest⟩
  · exact .inl hold
  · exact .inr ⟨creator, t₀, id, .tail _ hmem, hrest⟩

lemma Stems.congr (hstems : Stems start trace t) (hhash : t'.tokenHash = t.tokenHash)
    (hanchor : t'.sessionStartedAt = t.sessionStartedAt) : Stems start trace t' := by
  rcases hstems with ⟨key, t₀, ht0, hsame⟩ | ⟨creator, t₀, id, hmem, hsame, hstart⟩
  · exact .inl ⟨key, t₀, ht0, hhash.trans hsame⟩
  · exact .inr ⟨creator, t₀, id, hmem, hhash.trans hsame, hanchor.trans hstart⟩

section
variable (hinv : LifetimeInv calls start r trace) (hstep : SessionStep q)
include hinv hstep

lemma LifetimeInv.rows_step (key : String)
    (t' : RefreshTokenRecord) (ht' : (handle p q tick r).2.refreshTokens.lookup key = some t') :
    Stems start (⟨caller, q, (handle p q tick r).1⟩ :: trace) t' := by
  by_cases hissue : ∃ t, q = .session (.createRefreshToken t)
  · obtain ⟨t, rfl⟩ := hissue
    have hlookup : (r.refreshTokens.insert (memID (r.seq + 1)) { t with nodeID := memID (r.seq + 1) }).lookup key =
      some t' := ht'
    rw [lookup_insert_eq] at hlookup
    split at hlookup
    · cases hlookup
      exact .inr ⟨caller, t, _, .head _, rfl, rfl⟩
    · exact (hinv.rows key t' hlookup).cons _
  · obtain ⟨t, ht, hhash, hanchor⟩ := hstep.anchorsFrom (fun t heq => hissue ⟨t, heq⟩) p tick r key t' ht'
    exact ((hinv.rows key t ht).congr hhash hanchor).cons _

lemma LifetimeInv.step (hdates : (calls[caller]?.any SessionCall.completesUnanchored && storesUngated q) = false) :
    LifetimeInv calls start (handle p q tick r).2 (⟨caller, q, (handle p q tick r).1⟩ :: trace) where
  rows := hinv.rows_step hstep
  found := by
    intro other hash record hmem
    rcases List.mem_cons.mp hmem with heq | hold
    · injection heq with _ hq hresp
      cases hq
      obtain ⟨⟨key, hlookup⟩, hmatch⟩ := findRow_some (eq_of_heq hresp).symm
      exact ⟨beq_iff_eq.mp hmatch, (hinv.rows key record hlookup).cons _⟩
    · exact (hinv.found other hash record hold).imp_right fun h => h.cons _
  clock := by
    intro other now hmem
    rcases List.mem_cons.mp hmem with heq | hold
    · injection heq with _ hq hresp
      cases hq
      rw [eq_of_heq hresp]
      exact tick.pos
    · exact hinv.clock other now hold
  dates := by
    intro other call hcall hunanchored userID dobMs now answer hmem
    rcases List.mem_cons.mp hmem with heq | hold
    · injection heq with hcaller hq _
      subst hcaller
      rw [hcall, ← hq] at hdates
      simp [hunanchored, storesUngated] at hdates
    · exact hinv.dates other call hcall hunanchored userID dobMs now answer hold

end

section Session
variable (p : Platform) (calls : List SessionCall)

/-- The refresh tokens of the session that call `first` opened: its own, those of the
    rotations of one of them, and those of the completions of a ticket that such a rotation
    minted when it asked for the date of birth. -/
inductive InSession (pool : Pool Request.Response Repo (Except Err String)) (first : Nat) : String → Prop
  | signIn {s : AuthService} {user : User} {client : ClientInfo} {raw : String}
      (hcall : calls[first]? = some (.signIn s user client)) (hresult : pool.result first = some (.ok raw)) :
      InSession pool first raw
  | rotation {i : Nat} {s : AuthService} {raw raw' tenantID : String} {client : ClientInfo}
      (hraw : InSession pool first raw) (hcall : calls[i]? = some (.refresh s raw tenantID client))
      (hresult : pool.result i = some (.ok raw')) : InSession pool first raw'
  | completion {i j : Nat} {s s' : AuthService} {raw raw' tenantID ticket : String} {client client' : ClientInfo}
      {user : User} {dobMs : Int} (hraw : InSession pool first raw)
      (hrefused : calls[i]? = some (.refresh s raw tenantID client))
      (hasked : pool.result i = some (.error (.sentinel .dobRequired)))
      (hticket : s.mintDOBCompletionTicket user 0 = .ok ticket)
      (hcall : calls[j]? = some (.complete s' ticket dobMs client')) (hresult : pool.result j = some (.ok raw')) :
      InSession pool first raw'

/-- A ticket for the date of birth says when the sign-in behind it was, in whole seconds. -/
def TicketsCarry : Prop :=
  ∀ (s s' : AuthService) (raw tenantID : String) (client : ClientInfo) (ticket : String) (dobMs : Int)
    (client' : ClientInfo), .refresh s raw tenantID client ∈ calls → .complete s' ticket dobMs client' ∈ calls →
    ∀ user authTimeMs, s.mintDOBCompletionTicket user authTimeMs = .ok ticket →
      ∀ claims, s'.verifyPurposeTicket tokenPurposeDOBCompletion ticket = .ok claims →
        claims.authTime = authTimeMs.tdiv 1000

/-- The refresh token an event stores. -/
def storedToken : StoreEvent → Option RefreshTokenRecord
  | ⟨_, .session (.createRefreshToken t), _⟩ => some t
  | _ => none

/-- The time a call read in an event. -/
def readingOf (caller : Nat) : StoreEvent → Option Int
  | ⟨other, .clock, now⟩ => if other = caller then some now else none
  | _ => none

/-- No refresh token is drawn twice, and none that is stored already. -/
@[grind]
structure TokensDrawnOnce (start : Repo) (trace : Trace) : Prop where
  once : ((trace.filterMap storedToken).map fun t => t.tokenHash).Nodup
  fresh : ∀ t ∈ trace.filterMap storedToken,
    start.refreshTokens.anyRow (fun row => row.tokenHash == t.tokenHash) = false

/-- The accounts that a rotation reads are governed by a login policy whose absolute
    timeout is `timeout` seconds. -/
def Governed (timeout : Int) (s : AuthService) (caller : Nat) (trace : Trace) : Prop :=
  ∃ resolveLoginPolicy, s.refresh.enforceSessionTimeout = enforceSessionTimeout resolveLoginPolicy ∧
    ∀ userID user, accountRead caller userID (some user) ∈ trace →
      ∃ policy, resolveLoginPolicy user.email = some policy ∧ policy.sessionAbsoluteTimeoutSeconds = timeout

variable {p calls}

lemma mem_readingOf {trace : Trace} (hmem : clockRead caller now ∈ trace) : now ∈ trace.filterMap (readingOf caller) :=
  List.mem_filterMap.mpr ⟨_, hmem, if_pos rfl⟩

/-- A token of the session is stored with a start that is not after the sign-in. -/
@[grind =]
def StartedBy (p : Platform) (trace : Trace) (t₀ : Int) (raw : String) : Prop :=
  ∃ caller t id, tokenCreated caller t id ∈ trace ∧ t.tokenHash = p.sha256Hex raw ∧ 0 < t.sessionStartedAt ∧
    t.sessionStartedAt ≤ t₀

/-- A row that is found under the hash of such a token has that start. -/
lemma StartedBy.record {record : RefreshTokenRecord}
    (hstarted : StartedBy p trace t₀ raw) (hdrawn : TokensDrawnOnce start trace)
    (hhash : record.tokenHash = p.sha256Hex raw) (hstems : Stems start trace record) :
    0 < record.sessionStartedAt ∧ record.sessionStartedAt ≤ t₀ := by
  obtain ⟨caller, t, id, hmem, hraw, hpos, hle⟩ := hstarted
  have hdrew : ∀ {other drawn id}, tokenCreated other drawn id ∈ trace → drawn ∈ trace.filterMap storedToken :=
    fun hdrawn => List.mem_filterMap.mpr ⟨_, hdrawn, rfl⟩
  rcases hstems with ⟨key, old, hold, hthen⟩ | ⟨caller', t', id', hmem', hthen, hanchor⟩
  · grind
  · grind [List.inj_on_of_nodup_map]

lemma InSession.startedBy (hsession : InSession calls pool first raw)
    (hkeep : ∀ i call result, calls[i]? = some call → pool.result i = some result →
      call.Handed p i (Pool.own pool.trace i) result)
    (hinv : LifetimeInv calls start pool.store pool.trace) (hdrawn : TokensDrawnOnce start pool.trace)
    (htickets : TicketsCarry calls) (hsigned : ∀ now ∈ pool.trace.filterMap (readingOf first), now ≤ t₀) :
    raw = "" ∨ StartedBy p pool.trace t₀ raw := by
  induction hsession with
  | signIn hcall hresult =>
    obtain ⟨now, hnow, t, id, hmem, hhash, hanchor⟩ := hkeep _ _ _ hcall hresult _ rfl
    have hclock := (Pool.mem_trace hnow)
    have hstart := hanchor (hinv.clock _ _ hclock)
    refine .inr ⟨_, t, id, (Pool.mem_trace hmem), hhash, ?_, ?_⟩
    · rw [hstart]
      exact hinv.clock _ _ hclock
    · rw [hstart]
      exact hsigned now (mem_readingOf hclock)
  | rotation hraw hcall hresult ih =>
    obtain ⟨hnonempty, record, user, now, hfound, -, -, -, t, id, hmem, hhash, hanchor⟩ :=
      hkeep _ _ _ hcall hresult _ rfl
    obtain ⟨hsame, hstems⟩ := hinv.found _ _ _ (Pool.mem_trace hfound)
    obtain ⟨hpos, hle⟩ := (ih.resolve_left hnonempty).record hdrawn hsame hstems
    grind
  | completion hraw hrefused hasked hticket hcall hresult ih =>
    obtain ⟨claims, hclaims, hempty | ⟨userID, dobMs, now, answer, hstored⟩⟩ := hkeep _ _ _ hcall hresult _ rfl
    · exact .inl hempty
    · grind [TicketsCarry, SessionCall.completesUnanchored]

end Session

/-- The absolute lifetime of a session: in every run in which no ticket without a sign-in
    completes a session, a rotation later than the timeout after the sign-in hands out no
    tokens. -/
theorem session_ends_at_absolute_timeout (p : Platform) (start : Repo) (calls : List SessionCall)
    (schedule : List (Nat × Tick)) (htickets : TicketsCarry calls) :
    let pool := Pool.start start (calls.map fun call => call.program p)
    let final := pool.run (handle p) schedule
    pool.Along (handle p) (CompletesSignIn calls) schedule → TokensDrawnOnce start final.trace →
    ∀ timeout, 0 < timeout → timeout * msPerSecond < 2 ^ 63 →
    ∀ first t₀, (∀ now ∈ final.trace.filterMap (readingOf first), now ≤ t₀) →
    ∀ raw, InSession calls final first raw →
    ∀ i s tenantID client, calls[i]? = some (.refresh s raw tenantID client) → Governed timeout s i final.trace →
      (∀ now ∈ final.trace.filterMap (readingOf i), t₀ + timeout * msPerSecond < now) →
      ∀ raw', final.result i ≠ some (.ok raw') := by
  intro pool final halong hdrawn timeout hset hfits first t₀ hsigned raw hsession i s tenantID client
    hcall hgoverned hlate
    raw' hresult
  have hkeep : pool.Keep (fun caller _ q => ∃ call, calls[caller]? = some call ∧ SessionStep q)
      (fun caller own result => ∃ call, calls[caller]? = some call ∧ call.Handed p caller own result) :=
    Pool.keep_start (fun call caller => call.program_keeps caller) start
  have hinv : LifetimeHolds calls start final := by
    refine Pool.along_invariant (fun pool caller tick q next hinv hcall _ hguard hcond => ?_) hkeep ?_ schedule halong
    · obtain ⟨_, -, hstep⟩ := hguard
      rw [Pool.step_request hcall]
      exact LifetimeInv.step hinv hstep hcond
    · exact ⟨fun key t ht => .inl ⟨key, t, ht, rfl⟩, fun _ _ _ hmem => absurd hmem List.not_mem_nil,
        fun _ _ hmem => absurd hmem List.not_mem_nil, fun _ _ _ _ _ _ _ _ => List.not_mem_nil⟩
  have hhanded : ∀ i call result, calls[i]? = some call → final.result i = some result →
      call.Handed p i (Pool.own final.trace i) result := by
    intro i call result hitem hresult
    obtain ⟨call', hitem', hpost⟩ := (hkeep.run schedule).result hresult
    rw [hitem] at hitem'
    cases hitem'
    exact hpost
  obtain ⟨hnonempty, record, user, now, hfound, hread, hnow, hlives, -⟩ := hhanded i _ _ hcall hresult raw' rfl
  have hstarted := (hsession.startedBy hhanded hinv hdrawn htickets hsigned).resolve_left hnonempty
  obtain ⟨hhash, hstems⟩ := hinv.found i _ record (Pool.mem_trace hfound)
  obtain ⟨hpos, hle⟩ := hstarted.record hdrawn hhash hstems
  obtain ⟨resolveLoginPolicy, hrules, hpolicy⟩ := hgoverned
  obtain ⟨policy, hresolved, rfl⟩ := hpolicy _ user (Pool.mem_trace hread)
  have hpast := hlate now (mem_readingOf (Pool.mem_trace hnow))
  rw [hrules] at hlives
  exact enforceSessionTimeout_expired hresolved hset hfits hpos (by omega) _ hlives

/-- The policy of the samples: a session lasts a minute. -/
def sampleTimeout : LoginPolicy where
  sessionIdleTimeoutSeconds := 0
  sessionAbsoluteTimeoutSeconds := 60

/-- A project under that policy; its tickets name the account and the second of
    the sign-in. -/
def sampleLifetimeAuth (requireDOB : Bool) : AuthService :=
  { sampleAuth with
    revocationModeSession := false
    ageGateRequireDOB := requireDOB
    ageGate := { sampleAuth.ageGate with determine := fun _ _ _ => .adult }
    mintDOBCompletionTicket := fun user authTimeMs =>
      if user.id = "alice" ∧ authTimeMs.tdiv 1000 = 0 then .ok "alice@0" else .error (.text "signer")
    verifyPurposeTicket := fun _ ticket =>
      if ticket = "alice@0" then .ok { sub := "alice", authTime := 0 }
        else .error (.wrapped .unauthenticated "invalid")
    refresh := { sampleAuth.refresh with enforceSessionTimeout := enforceSessionTimeout fun _ => some sampleTimeout } }

/-- A turn some milliseconds after the sign-in. -/
def lifetimeTick (after : Nat) (random : String) : Tick :=
  ⟨1700000000000 + after, by omega, random⟩

/-- One call after the other, each at one time and with the token it draws. -/
def lifetimeTurns (turns : List (Nat × String)) : List (Nat × Tick) :=
  turns.zipIdx.flatMap fun turn => List.replicate 16 (turn.2, lifetimeTick turn.1.1 turn.1.2)

def lifetimePool (calls : List SessionCall) (turns : List (Nat × String)) :
    Pool Request.Response Repo (Except Err String) :=
  (Pool.start sampleMemberStore (calls.map fun call => call.program tokenPlatform)).run (handle tokenPlatform)
    (lifetimeTurns turns)

/-- A sign-in, a rotation in time and one that is late. -/
def sampleRotations : List SessionCall :=
  [.signIn (sampleLifetimeAuth false) sampleMember sampleClientInfo,
    .refresh (sampleLifetimeAuth false) "refresh-1" "" sampleClientInfo,
    .refresh (sampleLifetimeAuth false) "refresh-2" "" sampleClientInfo]

def sampleRotationTurns : List (Nat × String) := [(0, "refresh-1"), (59000, "refresh-2"), (60001, "refresh-3")]

/-- A sign-in, a rotation that asks for the date of birth, the completion of its ticket and
    a rotation that is late. -/
def sampleCompletion : List SessionCall :=
  [.signIn (sampleLifetimeAuth false) sampleMember sampleClientInfo,
    .refresh (sampleLifetimeAuth true) "refresh-1" "" sampleClientInfo,
    .complete (sampleLifetimeAuth true) "alice@0" 500000000000 sampleClientInfo,
    .refresh (sampleLifetimeAuth true) "refresh-2" "" sampleClientInfo]

def sampleCompletionTurns : List (Nat × String) :=
  [(0, "refresh-1"), (1000, ""), (2000, "refresh-2"), (60001, "refresh-3")]

theorem late_rotation_refused :
    let final := lifetimePool sampleRotations sampleRotationTurns
    final.result 0 = some (.ok "refresh-1") ∧ final.result 1 = some (.ok "refresh-2") ∧
      ∀ raw', final.result 2 ≠ some (.ok raw') := by
  intro final
  have hfirst : final.result 0 = some (.ok "refresh-1") := by decide +kernel
  have hsecond : final.result 1 = some (.ok "refresh-2") := by decide +kernel
  refine ⟨hfirst, hsecond, ?_⟩
  have htickets : TicketsCarry sampleRotations := by
    intro s s' raw tenantID client ticket dobMs client' _ hcomplete
    simp [sampleRotations] at hcomplete
  exact session_ends_at_absolute_timeout tokenPlatform sampleMemberStore sampleRotations
    (lifetimeTurns sampleRotationTurns)
    htickets (by decide +kernel) ⟨by decide +kernel, by decide +kernel⟩ 60 (by decide) (by decide) 0 1700000000000
    (by decide +kernel) "refresh-2" (.rotation (.signIn rfl hfirst) rfl hsecond) 2 _ _ _ rfl
    ⟨fun _ => some sampleTimeout, rfl, fun _ _ _ => ⟨sampleTimeout, rfl, rfl⟩⟩ (by decide +kernel)

/-- The completion starts the session anew: the late rotation hands out tokens. -/
theorem late_rotation_after_completion :
    let final := lifetimePool sampleCompletion sampleCompletionTurns
    TicketsCarry sampleCompletion ∧ TokensDrawnOnce sampleMemberStore final.trace ∧
      (∀ now ∈ final.trace.filterMap (readingOf 0), now ≤ 1700000000000) ∧
      InSession sampleCompletion final 0 "refresh-2" ∧ Governed 60 (sampleLifetimeAuth true) 3 final.trace ∧
      (∀ now ∈ final.trace.filterMap (readingOf 3), 1700000000000 + 60 * msPerSecond < now) ∧
      final.result 3 = some (.ok "refresh-3") := by
  intro final
  have htickets : TicketsCarry sampleCompletion := by
    intro s s' raw tenantID client ticket dobMs client' hrefresh hcomplete user authTimeMs hticket claims hclaims
    grind [sampleCompletion, sampleLifetimeAuth]
  have hfirst : final.result 0 = some (.ok "refresh-1") := by decide +kernel
  have hasked : final.result 1 = some (.error (.sentinel .dobRequired)) := by decide +kernel
  have hcompleted : final.result 2 = some (.ok "refresh-2") := by decide +kernel
  have hticket : (sampleLifetimeAuth true).mintDOBCompletionTicket sampleMember 0 = .ok "alice@0" := by decide +kernel
  have hsession : InSession sampleCompletion final 0 "refresh-2" :=
    .completion (.signIn rfl hfirst) rfl hasked hticket rfl hcompleted
  exact ⟨htickets, ⟨by decide +kernel, by decide +kernel⟩, by decide +kernel, hsession,
    ⟨fun _ => some sampleTimeout, rfl, fun _ _ _ => ⟨sampleTimeout, rfl, rfl⟩⟩, by decide +kernel, by decide +kernel⟩

end identity.service
