import Identity.Flows.Qr.Login
import Identity.Flows.SignIn.Steps
import Identity.Repository.Delegation

open identity.repository identity.memory
namespace identity.service
open AuthService Routine
open Routine (keeps_bind keeps_ite)

/-- A step that mints a session or a refresh token. -/
def mintsTokens : Request → Bool
  | .session (.createSession _) => true
  | .session (.createRefreshToken _) => true
  | _ => false

/-- The call found the session and consumed it. -/
def Collected (sessionID : String) (own : Trace) : Prop :=
  ∃ reader s consumer atMs,
    (⟨reader, .signIn (.findQrLoginSession sessionID), some s⟩ : StoreEvent) ∈ own ∧
    (⟨consumer, .signIn (.consumeQrLoginSession s.nodeID atMs), .ok ()⟩ : StoreEvent) ∈ own

/-- The call found the row in an open status. -/
def ReadOpen (nodeID : String) (own : Trace) : Prop :=
  ∃ reader sessionID s,
    (⟨reader, .signIn (.findQrLoginSession sessionID), some s⟩ : StoreEvent) ∈ own ∧
    s.nodeID = nodeID ∧ (s.status = "pending" ∨ s.status = "approved")

/-- A step that leaves the QR sessions alone. -/
def LeavesQr (q : Request) : Prop := ∀ p tick r, (handle p q tick r).2.qrSessions = r.qrSessions

def QrCall.sessionID : QrCall → String
  | .get sessionID => sessionID
  | .approve sessionID .. => sessionID
  | .poll sessionID .. => sessionID

/-- The requests the calls make: a row is written only by a call that read it open,
    and tokens are minted only by a call that consumed the session. -/
def QrGuard (sessionID : String) (own : Trace) (q : Request) : Prop :=
  (mintsTokens q = true → Collected sessionID own) ∧
    match q with
    | .signIn (.updateQrLoginSession nodeID _) => ReadOpen nodeID own
    | .signIn (.consumeQrLoginSession _ _) => True
    | q => LeavesQr q

section

lemma Collected.mono (hcollected : Collected sessionID own) (hsuffix : own <:+ own') :
    Collected sessionID own' := by
  obtain ⟨reader, s, consumer, atMs, hfound, hconsumed⟩ := hcollected
  exact ⟨reader, s, consumer, atMs, hsuffix.subset hfound, hsuffix.subset hconsumed⟩

lemma ReadOpen.mono (hread : ReadOpen nodeID own) (hsuffix : own <:+ own') :
    ReadOpen nodeID own' := by
  obtain ⟨reader, sessionID, s, hfound, hopen⟩ := hread
  exact ⟨reader, sessionID, s, hsuffix.subset hfound, hopen⟩

lemma leavesQr_of_isRead (hread : q.isRead = true) : LeavesQr q := fun p tick r => by rw [handle_isRead hread]

lemma SignInStep.leavesQr (hstep : SignInStep s accountID email q) : LeavesQr q := by
  have hleaves : q.leavesSignIns = true ∨ q.isRead = true := by
    cases hstep with
    | account hstep =>
      cases hstep with
      | read hread => exact .inr (isRead_of_isPlain hread)
      | _ => exact .inl rfl
    | _ => exact .inl rfl
  rcases hleaves with hleaves | hread
  · exact fun p tick r => (handle_signIns p tick r hleaves).qrSessions
  · exact leavesQr_of_isRead hread

/-- Looking is always allowed. -/
lemma qrGuard_of_isRead (hread : q.isRead = true) : QrGuard sessionID own q := by
  refine ⟨fun hmints => ?_, ?_⟩
  · unfold mintsTokens at hmints
    split at hmints
    · cases hread
    · cases hread
    · cases hmints
  split
  · cases hread
  · cases hread
  · exact leavesQr_of_isRead hread

/-- The steps of a sign-in are allowed once the session is collected. -/
lemma SignInStep.qrGuard (hstep : SignInStep s accountID email q)
    (hcollected : Collected sessionID own) : QrGuard sessionID own q := by
  refine ⟨fun _ => hcollected, ?_⟩
  have hleaves := hstep.leavesQr
  split
  · cases hstep with
    | account hstep =>
      cases hstep with
      | read hread => cases hread
  · trivial
  · exact hleaves

variable {α : Type}

lemma keeps_of_looks (hlooks : Looks flow) (hok : ∀ own' value, own <:+ own' → ok own' value) :
    flow.Yields caller (QrGuard sessionID) ok own :=
  hlooks.keeps (fun _ _ _ hread => qrGuard_of_isRead (isRead_of_isPlain hread)) hok fun _ _ _ => trivial

@[simp]
lemma keeps_findQrLoginSession {guard : Trace → Request → Prop} :
    (findQrLoginSession sessionID).Keeps caller guard ok fails own ↔
      guard own (.signIn (.findQrLoginSession sessionID)) ∧ ∀ s : Option QrLoginSessionRecord,
        ok (⟨caller, .signIn (.findQrLoginSession sessionID), s⟩ :: own) s := Iff.rfl

variable {ok : Trace → Unit → Prop}

/-- Writing a row the call has read open. -/
lemma updateQrLoginSession_keeps (hread : ReadOpen nodeID own) (patch : Fields)
    (hok : ∀ own', own <:+ own' → ok own' ()) :
    (updateQrLoginSession nodeID patch).Yields caller (QrGuard sessionID) ok own := by
  refine keeps_attemptRequest.mpr ⟨⟨fun hmints => ?_, hread⟩, fun resp => ⟨fun value _ => ?_, fun _ _ => trivial⟩⟩
  · cases hmints
  · exact hok _ (List.suffix_cons _ _)

lemma expireQrLogin_keeps (hread : ReadOpen nodeID own) (now : Int) (hok : ∀ own', own <:+ own' → ok own' ()) :
    (expireQrLogin nodeID now).Yields caller (QrGuard sessionID) ok own := by
  refine .bind (keeps_attempt.mpr ?_)
  have hwrite : (updateQrLoginSession nodeID (fields [("status", .str "expired"), ("updated_at", .int now)])).Asks
      caller (QrGuard sessionID) own :=
    updateQrLoginSession_keeps hread _ fun _ _ => trivial
  exact hwrite.suffix.mono (fun own' _ h => hok own' h.1) fun own' _ h => hok own' h.1

lemma getQrLoginSession_keeps (own : Trace) :
    (getQrLoginSession sessionID).Asks caller (QrGuard sessionID) own := by
  unfold getQrLoginSession
  simp only [keeps_bind, keeps_refuseIf, keeps_findQrLoginSession, implies_true, true_and]
  refine fun _ => ⟨qrGuard_of_isRead rfl, fun session => ?_⟩
  cases session with
  | none => trivial
  | some session =>
    simp only [keeps_bind, keeps_nowMs]
    refine ⟨qrGuard_of_isRead rfl, fun now => ?_⟩
    refine .ite (fun hpending => ?_) fun _ => trivial
    refine .bind (expireQrLogin_keeps ⟨caller, sessionID, session, ?_, rfl, .inl hpending.1⟩ now ?_)
    · simp
    · exact fun _ _ => trivial

variable (s : AuthService)

lemma checkQrApprover_looks (userID : String) : Looks (s.checkQrApprover userID) :=
  (getCurrentUser_reads userID).bind fun user => s.checkAccountStatus_reads user

lemma decideQrLogin_keeps (hread : ReadOpen session.nodeID own)
    (approve : Bool) (userID : String) (client : ClientInfo) (now : Int) :
    (s.decideQrLogin session approve userID client now).Asks caller (QrGuard sessionID) own := by
  refine .ite (fun _ => ?_) fun _ => ?_
  · refine .bind (keeps_of_looks (checkQrApprover_looks s userID) fun own' _ hsuffix => ?_)
    exact .bind (updateQrLoginSession_keeps (hread.mono hsuffix) _ fun _ _ => trivial)
  · exact .bind (updateQrLoginSession_keeps hread _ fun _ _ => trivial)

lemma approveQrLogin_keeps (approve : Bool) (userID : String) (client : ClientInfo) (own : Trace) :
    (s.approveQrLogin sessionID approve userID client).Asks caller (QrGuard sessionID) own := by
  unfold approveQrLogin
  simp only [keeps_bind, keeps_refuseIf, keeps_findQrLoginSession, implies_true, true_and]
  refine fun _ => ⟨qrGuard_of_isRead rfl, fun session => ?_⟩
  cases session with
  | none => trivial
  | some session =>
    simp only [keeps_bind, keeps_ite, keeps_nowMs, keeps_refuseIf, ne_eq, Decidable.not_not, implies_true, true_and]
    refine ⟨qrGuard_of_isRead rfl, fun now => ⟨fun _ => ?_, fun _ hpending => ?_⟩⟩
    · refine .bind (.ite (fun hpending => ?_) fun _ => trivial)
      exact expireQrLogin_keeps ⟨caller, sessionID, session, by simp, rfl, .inl hpending⟩ now fun _ _ => trivial
    · exact decideQrLogin_keeps s ⟨caller, sessionID, session, by simp, rfl, .inl hpending⟩ approve userID client now

/-- An answer with tokens comes after a step that minted them. -/
def Polled (own : Trace) (answer : PollQrResult) : Prop :=
  answer.status = "approved" → ∃ event ∈ own, mintsTokens event.req = true

lemma collectQrLogin_keeps (p : Platform) (s : AuthService)
    (hfound : (⟨reader, .signIn (.findQrLoginSession sessionID), some session⟩ : StoreEvent) ∈ own)
    (now : Int) (client : ClientInfo) :
    (s.collectQrLogin p session now client).Yields caller (QrGuard sessionID) Polled own := by
  refine (makes_refuseIf _).followed (fun _ _ _ hread => qrGuard_of_isRead (isRead_of_isPlain hread))
    fun own1 _ h1 => ?_
  refine (looks_getUser _).followed (fun _ _ _ hread => qrGuard_of_isRead (isRead_of_isPlain hread))
    fun own2 user h2 => ?_
  cases user with
  | none => trivial
  | some user =>
    refine ((s.checkAccountStatus_reads user).bind
      fun _ => (Routine.Makes.ite (fun _ => .pure ()) fun _ => s.enforceAccountAccessLogin_reads user).bind fun _ =>
        makes_check _).followed (fun _ _ _ hread => qrGuard_of_isRead (isRead_of_isPlain hread)) fun own3 _ h3 => ?_
    refine .bind (keeps_attempt.mpr (keeps_attemptRequest.mpr
      ⟨⟨nofun, trivial⟩, fun resp => ⟨fun value hvalue => ?_, fun err _ => ?_⟩⟩))
    · -- the compare-and-set succeeded: the session is this call's
      subst hvalue
      have hcollected : Collected sessionID
          (⟨caller, .signIn (.consumeQrLoginSession session.nodeID now), .ok ()⟩ :: own3) :=
        ⟨reader, session, caller, now, .tail _ ((h1.trans (h2.trans h3)).subset hfound), .head _⟩
      refine (s.issueSignInTokens_settles p user client 0 0 fun own' q h hstep =>
        hstep.qrGuard (hcollected.mono h)).seq ?_
      rintro own4 issued ⟨t, id, hmem⟩ -
      exact ⟨_, hmem, rfl⟩
    · refine .ite (fun _ => ?_) fun _ => trivial
      exact fun h => absurd h (by decide)

lemma pollQrLogin_keeps (p : Platform) (s : AuthService) (pollSecret : String) (client : ClientInfo) (own : Trace) :
    (s.pollQrLogin p sessionID pollSecret client).Yields caller (QrGuard sessionID) Polled own := by
  have hexpired : ∀ own', Polled own' { status := "expired" } := fun _ h => absurd h (by decide)
  unfold pollQrLogin
  simp only [keeps_bind, keeps_ite, keeps_pure, keeps_refuseIf, keeps_findQrLoginSession, hexpired,
    implies_true, true_and]
  refine fun _ _ => ⟨qrGuard_of_isRead rfl, fun session => ?_⟩
  cases session with
  | none => exact hexpired _
  | some session =>
    simp only [keeps_bind, keeps_ite, keeps_pure, keeps_nowMs, hexpired, implies_true, true_and]
    refine fun _ => ⟨qrGuard_of_isRead rfl, fun now => ?_⟩
    have hfound : (⟨caller, .signIn (.findQrLoginSession sessionID), some session⟩ : StoreEvent) ∈
        ⟨caller, .clock, now⟩ :: ⟨caller, .signIn (.findQrLoginSession sessionID), some session⟩ :: own := by simp
    refine .ite (fun hclosed => ?_) fun _ => .ite (fun hstatus => ?_) fun _ => ?_
    · have hopen : session.status = "pending" ∨ session.status = "approved" := by
        unfold qrCollectionClosed at hclosed
        split at hclosed
        · exact .inl ‹_›
        split at hclosed
        · exact .inr ‹_›
        · cases hclosed
      exact .bind (expireQrLogin_keeps ⟨caller, sessionID, session, hfound, rfl, hopen⟩ now
        fun own' _ => hexpired own')
    · intro (happroved : session.status = "approved")
      rw [happroved] at hstatus
      exact absurd hstatus (by decide)
    · exact collectQrLogin_keeps p s hfound now client

end

/-- What the result of a call says about the call's own steps. -/
def QrPost (call : QrCall) (own : Trace) (result : QrResult) : Prop :=
  match call, result with
  | .get _, .info _ => True
  | .approve .., .decision _ => True
  | .poll .., .polled (.ok answer) => Polled own answer
  | .poll .., .polled (.error _) => True
  | _, _ => False

/-- Every call keeps to the guard, whatever the store answers. -/
lemma QrInvocation.program_keeps (p : Platform) (i : QrInvocation) (caller : Nat) :
    (i.program p).Keeps caller (QrGuard i.call.sessionID) (QrPost i.call) [] := by
  obtain ⟨s, call⟩ := i
  cases call with
  | get sessionID => exact ((getQrLoginSession_keeps []).mono (fun _ _ _ => trivial) fun _ _ _ => trivial).wrap
  | approve sessionID approve userID client =>
    exact ((approveQrLogin_keeps s approve userID client []).mono (fun _ _ _ => trivial) fun _ _ _ => trivial).wrap
  | poll sessionID pollSecret client =>
    exact ((pollQrLogin_keeps p s pollSecret client []).mono (fun _ _ h => h) fun _ _ _ => trivial).wrap

/-- Calls in progress on the QR sessions of one store. -/
abbrev QrPool := Pool Request.Response Repo QrResult

/-- The session as a step found it. -/
def sessionRead : StoreEvent → Option QrLoginSessionRecord
  | ⟨_, .signIn (.findQrLoginSession _), found⟩ => found
  | _ => none

/-- A write of a call finds the row in the status the call read it in. -/
def WritesWhatItRead (pool : QrPool) (caller : Nat) (_ : Tick) (q : Request) : Prop :=
  match q with
  | .signIn (.updateQrLoginSession nodeID _) => ∀ s ∈ (Pool.own pool.trace caller).filterMap sessionRead,
      s.nodeID = nodeID → (pool.store.qrSessions.lookup nodeID).map (·.status) = some s.status
  | _ => True

instance (pool : QrPool) (caller : Nat) (tick : Tick) (q : Request) :
    Decidable (WritesWhatItRead pool caller tick q) := by
  unfold WritesWhatItRead
  split <;> infer_instance

section

/-- A guarded step whose write is fresh moves only open rows. -/
lemma QrGuard.moves (hguard : QrGuard sessionID (Pool.own pool.trace caller) q)
    (hfresh : WritesWhatItRead pool caller tick q) :
    pool.store.qrSessions.Pointwise QrMovesTo (handle p q tick pool.store).2.qrSessions := by
  obtain ⟨-, hguard⟩ := hguard
  split at hguard
  · obtain ⟨reader, readID, s, hfound, hnode, hopen⟩ := hguard
    have hstatus := hfresh s (List.mem_filterMap.mpr ⟨_, hfound, rfl⟩) hnode
    obtain ⟨row, hrow, hstatus⟩ := Option.map_eq_some_iff.mp hstatus
    dsimp only [handle, SignInRequest.handle, Repo.updateQrLoginSession]
    simp only [hrow]
    exact GoMap.pointwise_insert QrMovesTo.refl hrow ⟨rfl, rfl, fun _ => hstatus ▸ hopen⟩
  · exact consumeQrLoginSession_moves _ _ _
  · rw [hguard p tick pool.store]
    exact .refl QrMovesTo.refl _

/-- The store accepted a collection of the session. -/
def Collects (nodeID : String) (event : StoreEvent) : Prop :=
  ∃ caller atMs, event = ⟨caller, .signIn (.consumeQrLoginSession nodeID atMs), .ok ()⟩

section
variable (hcollects : Collects nodeID ⟨caller, q, (handle p q tick r).1⟩)
include hcollects

/-- An accepted collection finds the session approved and leaves it consumed. -/
lemma Collects.spec : (∃ row, r.qrSessions.lookup nodeID = some row ∧ row.status = "approved") ∧
      QrConsumed nodeID (handle p q tick r).2 := by
  obtain ⟨_, atMs, heq⟩ := hcollects
  obtain ⟨-, rfl, hresp⟩ := Event.mk.inj heq
  have hok : (r.consumeQrLoginSession nodeID atMs).1 = .ok () := eq_of_heq hresp
  rcases consumeQrLoginSession_cases r nodeID atMs with ⟨err, hcase⟩ | ⟨row, hrow, happroved, hcase⟩
  · rw [hcase] at hok
    cases hok
  · have hafter : (handle p (.signIn (.consumeQrLoginSession nodeID atMs)) tick r).2 = _ := congrArg Prod.snd hcase
    grind

lemma Collects.not_closed (hrow : r.qrSessions.lookup nodeID = some row) : ¬ QrClosed row.status := by
  obtain ⟨⟨row', hrow', happroved⟩, -⟩ := hcollects.spec
  rw [hrow] at hrow'
  cases hrow'
  exact fun hclosed => hclosed.not_open (.inr happroved)

end

/-- A closed row stays as it is. -/
lemma QrGuard.closed_stays (hguard : QrGuard sessionID (Pool.own pool.trace caller) q)
    (hfresh : WritesWhatItRead pool caller tick q)
    (hrow : pool.store.qrSessions.lookup nodeID = some row) (hclosed : QrClosed row.status) :
    (handle p q tick pool.store).2.qrSessions.lookup nodeID = some row := by
  obtain ⟨row', hrow', hmoves⟩ := (hguard.moves hfresh).lookup_some hrow
  by_cases hsame : row' = row
  · rw [hrow', hsame]
  · exact absurd (hmoves.open_of_ne hsame) hclosed.not_open

variable (sessionID) in
/-- What holds of the store and the steps so far: a session that was found is still
    the row under its id, and each row has been collected once at most, tokens only
    by the call that did. -/
@[grind]
structure QrRun (owner : Nat → Option String) (r : Repo) (trace : Trace) : Prop where
  unique : QrUnique sessionID r
  found : ∀ reader s, (⟨reader, .signIn (.findQrLoginSession sessionID), some s⟩ : StoreEvent) ∈ trace →
    ∃ row, r.qrSessions.lookup s.nodeID = some row ∧ row.sessionID = sessionID
  collected : ∀ nodeID, Spends (Collects nodeID) (QrConsumed nodeID) r trace
  minted : ∀ event ∈ trace, mintsTokens event.req = true → owner event.caller = some sessionID →
    Collected sessionID (Pool.own trace event.caller)

lemma qrRun_start (hunique : QrUnique sessionID r) : QrRun sessionID owner r [] where
  unique := hunique
  found := fun _ _ hmem => nomatch hmem
  collected := fun _ => .nil r
  minted := List.forall_mem_nil _

lemma QrRun.step (hrun : QrRun sessionID owner pool.store pool.trace)
    (howner : owner caller = some callID) (hguard : QrGuard callID (Pool.own pool.trace caller) q)
    (hfresh : WritesWhatItRead pool caller tick q) : QrRun sessionID owner (handle p q tick pool.store).2
      (⟨caller, q, (handle p q tick pool.store).1⟩ :: pool.trace) where
  unique := hrun.unique.moves (hguard.moves hfresh)
  found := by
    intro reader s hmem
    have hbefore : ∃ row, pool.store.qrSessions.lookup s.nodeID = some row ∧ row.sessionID = sessionID := by
      rcases List.mem_cons.mp hmem with heq | hold
      · obtain ⟨-, rfl, hresp⟩ := Event.mk.inj heq
        have hfound : pool.store.findQrLoginSession sessionID = some s := (eq_of_heq hresp).symm
        exact ⟨s, hrun.unique.found hfound⟩
      · exact hrun.found reader s hold
    obtain ⟨row, hrow, hsession⟩ := hbefore
    obtain ⟨row', hrow', hmoves⟩ := (hguard.moves hfresh).lookup_some hrow
    exact ⟨row', hrow', hmoves.sessionID.trans hsession⟩
  collected := by
    intro nodeID
    refine (hrun.collected nodeID).cons ?_ fun hcollects => ⟨?_, hcollects.spec.2⟩
    · grind [hguard.closed_stays]
    · rintro ⟨row, hrow, hconsumed⟩
      exact hcollects.not_closed hrow (.inr (.inr hconsumed))
  minted := by
    intro event hmem hmints hsession
    rcases List.mem_cons.mp hmem with rfl | hold
    · rw [howner] at hsession
      cases hsession
      exact (hguard.1 hmints).mono (by rw [Pool.own_cons_self]; exact List.suffix_cons _ _)
    · exact (hrun.minted event hold hmints hsession).mono (Pool.own_suffix (List.suffix_cons _ _) _)

end

/-- The call minted a session or a refresh token, or answered that it did. -/
def IssuesTokens (pool : QrPool) (caller : Nat) : Prop :=
  (∃ event ∈ pool.trace, event.caller = caller ∧ mintsTokens event.req = true) ∨
    ∃ answer, pool.result caller = some (.polled (.ok answer)) ∧ answer.status = "approved"

section
variable {sessionID : String} {calls : List QrInvocation}
variable (calls) in
def QrCallsGuard (caller : Nat) (own : Trace) (q : Request) : Prop :=
  ∃ i, calls[caller]? = some i ∧ QrGuard i.call.sessionID own q

variable (calls) in
def QrCallsPost (caller : Nat) (own : Trace) (result : QrResult) : Prop :=
  ∃ i, calls[caller]? = some i ∧ QrPost i.call own result

variable (calls) in
/-- The session each call is on. -/
def callSession (caller : Nat) : Option String := calls[caller]?.map fun i => i.call.sessionID

variable (sessionID calls) in
structure QrMoment (pool : QrPool) : Prop where
  keep : pool.Keep (QrCallsGuard calls) (QrCallsPost calls)
  run : QrRun sessionID (callSession calls) pool.store pool.trace

lemma qrMoment_start (hunique : QrUnique sessionID r) :
    QrMoment sessionID calls (Pool.start r (calls.map fun i => i.program p)) where
  keep := by
    have hkeeps : ∀ (i : QrInvocation) (caller : Nat),
        (i.program p).Keeps caller (QrGuard i.call.sessionID) (QrPost i.call) [] :=
      fun i caller => i.program_keeps p caller
    exact Pool.keep_start hkeeps r
  run := qrRun_start hunique

lemma callSession_eq (hi : calls[caller]? = some i) : callSession calls caller = some i.call.sessionID := by
  rw [callSession, hi]
  rfl

section
variable (hmoment : QrMoment sessionID calls pool)
include hmoment

lemma QrMoment.run_schedule (schedule : List (Nat × Tick))
    (hfresh : Pool.Along (handle p) WritesWhatItRead pool schedule) :
    QrMoment sessionID calls (pool.run (handle p) schedule) where
  keep := hmoment.keep.run schedule
  run := by
    refine Pool.along_invariant (fun pool caller tick q next
      (hrun : QrRun sessionID (callSession calls) pool.store pool.trace) hcall _ hguard hcond => ?_) hmoment.keep
      hmoment.run schedule hfresh
    obtain ⟨i, hi, hguard⟩ := hguard
    rw [Pool.step_request hcall]
    exact hrun.step (callSession_eq hi) hguard hcond

/-- A call that issues tokens has consumed the session it is on. -/
lemma QrMoment.collected
    (hi : calls[caller]? = some i) (hsession : i.call.sessionID = sessionID) (hissues : IssuesTokens pool caller) :
    ∃ nodeID row atMs, pool.store.qrSessions.lookup nodeID = some row ∧ row.sessionID = sessionID ∧
      (⟨caller, .signIn (.consumeQrLoginSession nodeID atMs), .ok ()⟩ : StoreEvent) ∈ pool.trace := by
  have hmints : ∃ event ∈ pool.trace, event.caller = caller ∧ mintsTokens event.req = true := by
    rcases hissues with hmints | ⟨answer, hresult, happroved⟩
    · exact hmints
    obtain ⟨i', hi', hpost⟩ := hmoment.keep.result hresult
    cases hcall : i'.call with
    | get | approve => rw [hcall] at hpost; exact hpost.elim
    | poll sessionID pollSecret client =>
      rw [hcall] at hpost
      obtain ⟨event, hmem, hmints⟩ := hpost happroved
      exact ⟨event, (Pool.mem_trace hmem), (Pool.mem_of_mem_own hmem).2, hmints⟩
  obtain ⟨event, hmem, rfl, hmints⟩ := hmints
  have howner : callSession calls event.caller = some sessionID := (callSession_eq hi).trans (congrArg some hsession)
  obtain ⟨reader, s, consumer, atMs, hfound, hconsumed⟩ := hmoment.run.minted event hmem hmints howner
  obtain ⟨row, hrow, hname⟩ := hmoment.run.found reader s (Pool.mem_trace hfound)
  obtain ⟨hconsumed, rfl⟩ := Pool.mem_of_mem_own hconsumed
  exact ⟨s.nodeID, row, atMs, hrow, hname, hconsumed⟩

lemma QrMoment.issues_once
    (hi1 : calls[caller₁]? = some i₁) (hi2 : calls[caller₂]? = some i₂) (hsession1 : i₁.call.sessionID = sessionID)
    (hsession2 : i₂.call.sessionID = sessionID) (hissues1 : IssuesTokens pool caller₁)
    (hissues2 : IssuesTokens pool caller₂) : caller₁ = caller₂ := by
  obtain ⟨nodeID1, row1, at1, hrow1, hname1, hmem1⟩ := hmoment.collected hi1 hsession1 hissues1
  obtain ⟨nodeID2, row2, at2, hrow2, hname2, hmem2⟩ := hmoment.collected hi2 hsession2 hissues2
  obtain rfl := hmoment.run.unique.unique _ _ _ _ hrow1 hrow2 hname1 hname2
  exact (hmoment.run.collected nodeID1).once _ hmem1 _ hmem2 ⟨caller₁, at1, rfl⟩ ⟨caller₂, at2, rfl⟩

/-- From a closed session on, its row stays and nothing more collects it. -/
lemma QrMoment.closed_run (hrow : pool.store.qrSessions.lookup nodeID = some row) (hclosed : QrClosed row.status)
    (later : List (Nat × Tick)) (hfresh : Pool.Along (handle p) WritesWhatItRead pool later) :
    (pool.run (handle p) later).store.qrSessions.lookup nodeID = some row ∧
      ∀ event ∈ (pool.run (handle p) later).trace, Collects nodeID event → event ∈ pool.trace := by
  refine Pool.along_invariant (fun pool' caller tick q next (hinv : pool'.store.qrSessions.lookup nodeID = some row ∧
      ∀ event ∈ pool'.trace, Collects nodeID event → event ∈ pool.trace) hcall _ hguard hcond => ?_) hmoment.keep
    ⟨hrow, fun _ hmem _ => hmem⟩ later hfresh
  obtain ⟨hstays, hold⟩ := hinv
  obtain ⟨i, -, hguard⟩ := hguard
  rw [Pool.step_request hcall]
  refine ⟨hguard.closed_stays hcond hstays hclosed, fun event hmem hcollects => ?_⟩
  rcases List.mem_cons.mp hmem with rfl | hmem
  · exact absurd hclosed (hcollects.not_closed hstays)
  · exact hold event hmem hcollects

end
end

/-- One sign-in per QR session, in every interleaving whose status writes each find
    the session in the status the writing call had read. -/
theorem qr_login_one_sign_in (p : Platform) (r : Repo) (sessionID : String) (hunique : QrUnique sessionID r)
    (calls : List QrInvocation) (schedule later : List (Nat × Tick))
    (hfresh : Pool.Along (handle p) WritesWhatItRead (Pool.start r (calls.map fun i => i.program p))
      (schedule ++ later)) :
    let pool := (Pool.start r (calls.map fun i => i.program p)).run (handle p) schedule
    let after := pool.run (handle p) later
    (∀ caller₁ caller₂ i₁ i₂, calls[caller₁]? = some i₁ → calls[caller₂]? = some i₂ →
      i₁.call.sessionID = sessionID → i₂.call.sessionID = sessionID →
      IssuesTokens after caller₁ → IssuesTokens after caller₂ → caller₁ = caller₂) ∧
    (∀ nodeID row, pool.store.qrSessions.lookup nodeID = some row → row.sessionID = sessionID → QrClosed row.status →
      after.store.qrSessions.lookup nodeID = some row ∧
        ∀ caller i, calls[caller]? = some i → i.call.sessionID = sessionID → IssuesTokens after caller →
          row.status = "consumed" ∧ ∃ atMs,
            (⟨caller, .signIn (.consumeQrLoginSession nodeID atMs), .ok ()⟩ : Event Request.Response) ∈
              pool.trace) := by
  intro pool after
  rw [Pool.along_append] at hfresh
  have hmoment : QrMoment sessionID calls pool := (qrMoment_start hunique).run_schedule schedule hfresh.1
  have hafter : QrMoment sessionID calls after := hmoment.run_schedule later hfresh.2
  refine ⟨fun caller₁ caller₂ i₁ i₂ hi1 hi2 => hafter.issues_once hi1 hi2, ?_⟩
  intro nodeID row hrow hname hclosed
  obtain ⟨hstays, hearlier⟩ := hmoment.closed_run hrow hclosed later hfresh.2
  refine ⟨hstays, fun caller i hi hsession hissues => ?_⟩
  obtain ⟨nodeID', row', atMs, hrow', hname', hconsumed⟩ := hafter.collected hi hsession hissues
  obtain rfl := hafter.run.unique.unique _ _ _ _ hstays hrow' hname hname'
  have hmem := hearlier _ hconsumed ⟨caller, atMs, rfl⟩
  obtain ⟨row'', hrow'', hstatus⟩ := (hmoment.run.collected nodeID).spent _ hmem ⟨caller, atMs, rfl⟩
  rw [hrow] at hrow''
  cases hrow''
  exact ⟨hstatus, atMs, hmem⟩

def sampleQrSession : QrLoginSessionRecord where
  sessionID := "qr-1"
  status := "pending"
  pollSecretHash := samplePlatform.sha256Hex "secret"
  expiresAt := 1000
  createdAt := 1
  updatedAt := 1

/-- Two people and a session waiting for a decision. -/
def sampleQrStore : Repo :=
  run samplePlatform new
    [(.user (.createUser { id := "alice", status := "active", kind := .person }), sampleTick),
     (.user (.createUser { id := "bob", status := "active", kind := .person }), sampleTick),
     (.signIn (.createQrLoginSession sampleQrSession), sampleTick)]

lemma sampleQrStore_unique : QrUnique "qr-1" sampleQrStore := by
  have hrows : ∀ key row, sampleQrStore.qrSessions.lookup key = some row →
      key = "mem-1" ∧ row = { sampleQrSession with nodeID := "mem-1" } := by
    intro key row hrow
    exact GoMap.lookup_single hrow
  grind

/-- Both people approve, and the new device polls twice. -/
def sampleQrCalls : List QrInvocation :=
  [⟨sampleAuth, .approve "qr-1" true "alice" ⟨"", ""⟩⟩, ⟨sampleAuth, .approve "qr-1" true "bob" ⟨"", ""⟩⟩,
   ⟨sampleAuth, .poll "qr-1" "secret" ⟨"", ""⟩⟩, ⟨sampleAuth, .poll "qr-1" "secret" ⟨"", ""⟩⟩]

/-- A number of steps of one call. -/
def qrTurns (caller steps : Nat) (rand : String) : List (Nat × Tick) :=
  List.replicate steps (caller, ⟨20, sampleTick.pos, rand⟩)

def sampleQrRun (schedule : List (Nat × Tick)) : QrPool :=
  (Pool.start sampleQrStore (sampleQrCalls.map fun i => i.program samplePlatform)).run (handle samplePlatform) schedule

/-- The first person approves and the first poll collects. -/
def sampleQrCollection : List (Nat × Tick) := qrTurns 0 4 "" ++ qrTurns 2 12 "sid-1"

set_option maxRecDepth 4000 in
/-- With the calls one after the other the first poll signs in, and neither the
    second approval nor the second poll changes anything. -/
theorem qr_login_one_sign_in_sequential :
    IssuesTokens (sampleQrRun (sampleQrCollection ++ (qrTurns 1 4 "" ++ qrTurns 3 12 "sid-2"))) 2 ∧
      ¬ IssuesTokens (sampleQrRun (sampleQrCollection ++ (qrTurns 1 4 "" ++ qrTurns 3 12 "sid-2"))) 3 := by
  obtain ⟨honce, -⟩ := qr_login_one_sign_in samplePlatform sampleQrStore "qr-1" sampleQrStore_unique sampleQrCalls
    sampleQrCollection (qrTurns 1 4 "" ++ qrTurns 3 12 "sid-2") (by decide +kernel)
  have hfirst : IssuesTokens (sampleQrRun (sampleQrCollection ++ (qrTurns 1 4 "" ++ qrTurns 3 12 "sid-2"))) 2 :=
    .inr ⟨_, rfl, rfl⟩
  refine ⟨hfirst, fun hsecond => ?_⟩
  rw [sampleQrRun, Pool.run_append] at hfirst hsecond
  exact absurd (honce 2 3 _ _ rfl rfl rfl rfl hfirst hsecond) (by decide)

set_option maxRecDepth 4000 in
/-- The second person read the session while it was pending. Their approval lands
    after the session was collected, reopens it, and a second poll signs in as them. -/
theorem qr_login_second_sign_in : QrUnique "qr-1" sampleQrStore ∧
    (sampleQrRun (qrTurns 1 3 "" ++ sampleQrCollection)).store.qrSessions.lookup "mem-1" =
      some { sampleQrSession with nodeID := "mem-1", status := "consumed", userID := "alice", updatedAt := 20 } ∧
    (sampleQrRun (qrTurns 1 3 "" ++ sampleQrCollection ++ qrTurns 1 1 "")).store.qrSessions.lookup "mem-1" =
      some { sampleQrSession with nodeID := "mem-1", status := "approved", userID := "bob", updatedAt := 20 } ∧
    IssuesTokens (sampleQrRun (qrTurns 1 3 "" ++ sampleQrCollection ++ qrTurns 1 1 "" ++ qrTurns 3 12 "sid-2")) 2 ∧
    IssuesTokens (sampleQrRun (qrTurns 1 3 "" ++ sampleQrCollection ++ qrTurns 1 1 "" ++ qrTurns 3 12 "sid-2")) 3 :=
  ⟨sampleQrStore_unique, rfl, rfl, .inr ⟨_, rfl, rfl⟩, .inr ⟨_, rfl, rfl⟩⟩

end identity.service
