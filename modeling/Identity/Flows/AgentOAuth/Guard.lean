import Identity.Flows.AgentOAuth.Service

open identity.repository identity.memory
namespace identity.service
open AgentOAuthService
open Routine (keeps_bind keeps_ite keeps_pure keeps_throw)

/-- The calls that act on an issued authorization request. -/
inductive AgentOAuthCall where
  | decide (h : AgentOAuthHuman) (id : String) (revision : Int) (approve : Bool) (agentID : String)
  | redeem (client redirect resource code verifier : String)
  | refresh (client resource raw scope : String)
  | introspect (resource raw : String)
  | revokeToken (client raw : String)
  | revoke (h : AgentOAuthHuman) (id : String)

inductive AgentOAuthResult where
  | redirect (result : Except Err String)
  | tokens (result : Except Err AgentOAuthTokens)
  | introspection (result : Except Err AgentOAuthIntrospection)
  | ended (result : Except Err Unit)

/-- One call, under the service's configuration as that call finds it. -/
structure AgentOAuthInvocation where
  settings : AgentOAuthService
  call : AgentOAuthCall

def AgentOAuthInvocation.program (p : Platform) (i : AgentOAuthInvocation) : Call Request.Response AgentOAuthResult :=
  match i.call with
  | .decide h id revision approve agentID => do
    return .redirect (← (i.settings.decide p h id revision approve agentID).call)
  | .redeem client redirect resource code verifier => do
    return .tokens (← (i.settings.redeem p client redirect resource code verifier).call)
  | .refresh client resource raw scope => do
    return .tokens (← (i.settings.refresh p client resource raw scope).call)
  | .introspect resource raw => do
    return .introspection (← (i.settings.introspect p resource raw).call)
  | .revokeToken client raw => do
    return .ended (← (AgentOAuthService.revokeToken p client raw).call)
  | .revoke h id => do
    return .ended (← (AgentOAuthService.revoke h id).call)

variable {α : Type}

@[simp]
def mutatesGrant : Request → Bool
  | .agent (.mutateAgentAuthorization _ _) => true
  | _ => false

/-- None of the steps was a mutation of a grant. -/
def NotYetMutated (own : Trace) : Prop := ∀ event ∈ own, mutatesGrant event.req = false

@[simp]
lemma notYetMutated_nil : NotYetMutated [] := List.forall_mem_nil _

@[simp]
lemma notYetMutated_cons :
    NotYetMutated (event :: own) ↔ mutatesGrant event.req = false ∧ NotYetMutated own := List.forall_mem_cons

/-- A time the call has read off the clock. -/
def ReadAt (now : Int) (own : Trace) : Prop :=
  ∃ reader, (⟨reader, .clock, now⟩ : StoreEvent) ∈ own

/-- What a mutation of a grant by one of the calls looks like: only an issue records
    a refresh credential, and a rotation presents the credential by which the call
    found the grant, at a time it read and before that grant's own deadline. -/
@[grind]
structure Permitted (p : Platform) (call : AgentOAuthCall) (own : Trace) (id : String)
    (m : AgentOAuthMutation) : Prop where
  next : m.nextRefreshHash ≠ "" → m.operation = .redeem ∨ m.operation = .rotate
  rotate : m.operation = .rotate → ∃ client resource raw scope caller g,
    call = .refresh client resource raw scope ∧ m.refreshHash = p.sha256Hex raw ∧
    (⟨caller, .agent (.findAgentAuthorizationByRefresh m.refreshHash), some g⟩ : StoreEvent) ∈ own ∧
    g.id = id ∧ ReadAt m.atMs own ∧ m.atMs < g.grantExpiresAtMs

/-- The requests the calls make. A mutation of a grant is the last thing a call does. -/
def OAuthGuard (p : Platform) (call : AgentOAuthCall) (own : Trace) (q : Request) : Prop :=
  NotYetMutated own ∧
    match q with
    | .agent (.mutateAgentAuthorization id m) => Permitted p call own id m
    | .agent (.mutateAgentMachine _ m) => m.operation = .revoke
    | q => q.isRead = true

lemma permitted_revoke {id : String} (hop : m.operation = .revoke)
    (hnext : m.nextRefreshHash = "") : Permitted p call own id m :=
  ⟨fun h => absurd hnext h, fun h => by rw [hop] at h; cases h⟩

@[simp]
lemma oauthGuard_clock : OAuthGuard p call own .clock ↔ NotYetMutated own := and_iff_left rfl

@[simp]
lemma oauthGuard_random : OAuthGuard p call own .random ↔ NotYetMutated own := and_iff_left rfl

@[simp]
lemma oauthGuard_getUser (userID : String) : OAuthGuard p call own (.user (.getUser userID)) ↔ NotYetMutated own :=
  and_iff_left rfl

@[simp]
lemma oauthGuard_getSessionBySid (sid : String) :
    OAuthGuard p call own (.session (.getSessionBySid sid)) ↔ NotYetMutated own :=
  and_iff_left rfl

variable (id : String)

@[simp]
lemma oauthGuard_agentOAuthAuthority (ownerID agentID sid clientID : String) :
    OAuthGuard p call own (.agent (.agentOAuthAuthority ownerID agentID sid clientID)) ↔ NotYetMutated own :=
  and_iff_left rfl

@[simp]
lemma oauthGuard_agentMachineAuthority (id agent : String) :
    OAuthGuard p call own (.agent (.agentMachineAuthority id agent)) ↔ NotYetMutated own :=
  and_iff_left rfl

@[simp]
lemma oauthGuard_mutate (m : AgentOAuthMutation) : OAuthGuard p call own (.agent (.mutateAgentAuthorization id m)) ↔
      NotYetMutated own ∧ Permitted p call own id m := Iff.rfl

@[simp]
lemma oauthGuard_mutateMachine (m : AgentMachineMutation) :
    OAuthGuard p call own (.agent (.mutateAgentMachine id m)) ↔ NotYetMutated own ∧ m.operation = .revoke := Iff.rfl

/-- A flow of reads: it can be followed by whatever keeps to the guard after it. -/
@[grind =]
def Reads {α : Type} (flow : ServiceCall α) : Prop :=
  ∀ p call caller own, NotYetMutated own →
    flow.Yields caller (OAuthGuard p call) (fun own' _ => NotYetMutated own') own

variable {ok : Trace → α → Prop}

lemma Reads.then (hreads : Reads flow) (hown : NotYetMutated own)
    (hok : ∀ own' value, own <:+ own' → NotYetMutated own' → ok own' value) :
    flow.Yields caller (OAuthGuard p call) ok own :=
  (hreads p call caller own hown).suffix.mono (fun own' value h => hok own' value h.1 h.2) fun _ _ _ => trivial

lemma human_reads (h : AgentOAuthHuman) (recent : Bool) : Reads (human h recent) := by
  intro p call caller own hown
  simp [human, hown]

lemma grantExpiry_reads (s : AgentOAuthService) (user : User) (session : SessionRecord) :
    Reads (s.grantExpiry user session) := by
  intro p call caller own hown
  simp only [grantExpiry, keeps_bind, keeps_nowMs, keeps_check, oauthGuard_clock, hown, true_and]
  intro now
  refine ⟨fun policy _ => ?_, fun _ _ => trivial⟩
  cases policy with
  | none | some => simpa using hown

lemma readAuthority_reads (s : AgentOAuthService) (request : AgentAuthorization) :
    Reads (s.readAuthority request) := by
  intro p call caller own hown
  simp [readAuthority, hown]

section
variable (hown : NotYetMutated own)
include hown

/-- Ending a grant never answers a value. -/
@[simp]
lemma invalidate_keeps (request : AgentAuthorization) :
    (invalidate request : ServiceCall α).Yields caller (OAuthGuard p call) ok own := by
  simp [invalidate, permitted_revoke, hown]

@[simp]
lemma invalidateMachine_keeps (s : AgentOAuthService) (machine : Option AgentMachine) :
    (s.invalidateMachine machine : ServiceCall α).Yields caller (OAuthGuard p call) ok own := by
  simp [invalidateMachine, hown]

lemma revoke_keeps (h : AgentOAuthHuman) (id : String) :
    (AgentOAuthService.revoke h id).Asks caller (OAuthGuard p call) own := by
  unfold AgentOAuthService.revoke
  simp only [keeps_bind, keeps_ite, keeps_throw, implies_true, true_and]
  intro _
  refine (human_reads h false).then hown fun own1 _ _ hown1 => ?_
  simp [permitted_revoke, hown1]

lemma revokeToken_keeps (client raw : String) :
    (AgentOAuthService.revokeToken p client raw).Asks caller (OAuthGuard p call) own := by
  unfold AgentOAuthService.revokeToken
  refine .ask ⟨hown, rfl⟩ fun (request : Option AgentAuthorization) => ?_
  cases request with
  | none => trivial
  | some request => simp [permitted_revoke, hown]

end

variable {ok : Trace → AgentOAuthAuthority × Int → Prop}
section
variable (s : AgentOAuthService) (request : AgentAuthorization)

lemma admitStanding_keeps (a : AgentOAuthAuthority)
    (hown : NotYetMutated own) (hok : ∀ own' value, own <:+ own' → NotYetMutated own' → ok own' value) :
    (s.admitStanding request a).Yields caller (OAuthGuard p call) ok own := by
  unfold admitStanding
  split
  · simp [hown]
  simp only [keeps_ite, keeps_bind, hown, invalidateMachine_keeps, keeps_nowMs, oauthGuard_clock,
    keeps_pure, keeps_deref, implies_true, true_and, and_true]
  refine ⟨fun _ _ now => hok _ _ (List.suffix_cons _ _) (by simpa using hown), fun _ owner _ session _ => ?_⟩
  refine (grantExpiry_reads s owner session).then hown fun own1 expiry hsuffix hown1 => ?_
  simp only [hown1, invalidate_keeps, implies_true, true_and]
  refine fun _ now => ⟨fun _ => ?_, fun _ => ?_⟩
  · exact invalidate_keeps (by simpa using hown1) request
  · exact hok _ _ hsuffix.later (by simpa using hown1)

lemma admittedAuthority_keeps (hown : NotYetMutated own)
    (hok : ∀ own' value, own <:+ own' → NotYetMutated own' → ok own' value) :
    (s.admittedAuthority p request).Yields caller (OAuthGuard p call) ok own := by
  refine .bind ?_
  refine (readAuthority_reads s request).then hown fun own1 a hsuffix hown1 => ?_
  simp only [keeps_ite, keeps_bind, keeps_throw, hown1, invalidate_keeps, keeps_nowMs,
    oauthGuard_clock, implies_true, true_and]
  intro _ _
  refine ⟨fun _ now => ⟨fun _ => invalidate_keeps (by simpa using hown1) request, fun _ => ?_⟩, fun _ => ?_⟩
  · exact admitStanding_keeps s request a (by simpa using hown1) fun own2 value h => hok own2 value
      (hsuffix.trans ((List.suffix_cons _ _).trans h))
  · exact admitStanding_keeps s request a hown1 fun own2 value h => hok own2 value (hsuffix.trans h)

end

/-- Tokens are answered only after the store accepted the mutation that commits
    them, on the grant the access token names. -/
def Issued (caller : Nat) (operation : AgentOAuthOperation) (presentedHash : String)
    (own : Trace) (t : AgentOAuthTokens) : Prop :=
  ∃ m next,
    (⟨caller, .agent (.mutateAgentAuthorization t.accessToken.claims.grantID m), .ok next⟩ :
      StoreEvent) ∈ own ∧
    m.operation = operation ∧ (operation = .rotate → m.refreshHash = presentedHash)

/-- A presented refresh credential by which the call found the grant. -/
def Presents (p : Platform) (call : AgentOAuthCall) (presentedHash : String) (request : AgentAuthorization)
    (own : Trace) : Prop :=
  ∃ client resource raw scope caller, call = .refresh client resource raw scope ∧
    presentedHash = p.sha256Hex raw ∧
    (⟨caller, .agent (.findAgentAuthorizationByRefresh presentedHash), some request⟩ :
      StoreEvent) ∈ own

lemma permitted_issue (hop : operation = .redeem ∨ operation = .rotate)
    (hpresents : operation = .rotate → Presents p call presentedHash request own)
    (hread : ReadAt now own) (hunexpired : now < request.grantExpiresAtMs) (authority : AgentOAuthAuthority)
    (sid : String) (refresh : Option String) (refreshExpiresAtMs : Int) :
    Permitted p call own request.id (issueMutation p operation now authority sid presentedHash
      refresh refreshExpiresAtMs) where
  next _ := hop
  rotate hrotate := by
    obtain ⟨client, resource, raw, scope, finder, hcall, hhash, hfound⟩ := hpresents hrotate
    have hrefreshHash : (issueMutation p operation now authority sid presentedHash
        refresh refreshExpiresAtMs).refreshHash = presentedHash := by
      simp only [issueMutation] at hrotate ⊢
      rw [hrotate]
      simp
    rw [hrefreshHash]
    exact ⟨client, resource, raw, scope, finder, request, hcall, hhash, hfound, rfl, hread, hunexpired⟩

lemma Presents.mono (hpresents : Presents p call presentedHash request own)
    (hsuffix : own <:+ own') : Presents p call presentedHash request own' := by
  obtain ⟨client, resource, raw, scope, finder, hcall, hhash, hfound⟩ := hpresents
  exact ⟨client, resource, raw, scope, finder, hcall, hhash, hsuffix.subset hfound⟩

lemma nextRefresh_reads (client : OAuthClient) : Reads (nextRefresh client) := by
  intro p call caller own hown
  simp [nextRefresh, hown]

lemma commitIssue_keeps (s : AgentOAuthService)
    (hown : NotYetMutated own) (hop : operation = .redeem ∨ operation = .rotate)
    (hpresents : operation = .rotate → Presents p call presentedHash request own) (authority : AgentOAuthAuthority)
    (currentExpiry : Int) (hread : ReadAt now own) (hunexpired : now < request.grantExpiresAtMs)
    (hgrant : token.claims.grantID = request.id) (client : OAuthClient) :
    (s.commitIssue p request operation presentedHash authority currentExpiry now token client).Yields caller
      (OAuthGuard p call) (Issued caller operation presentedHash) own := by
  refine .bind ?_
  refine (nextRefresh_reads client).then hown fun own1 refresh hsuffix hown1 => ?_
  simp only [keeps_bind, keeps_ite, keeps_throw, keeps_pure, keeps_mutateAgentAuthorization,
    oauthGuard_mutate, hown1, implies_true, true_and, and_true]
  obtain ⟨reader, hclock⟩ := hread
  refine ⟨permitted_issue hop (fun h => (hpresents h).mono hsuffix) ⟨reader, hsuffix.subset hclock⟩ hunexpired
    authority _ refresh _, fun next _ => ?_⟩
  unfold Issued
  rw [hgrant]
  refine ⟨_, next, .head _, rfl, fun hrotate => ?_⟩
  simp [issueMutation, hrotate]

lemma issue_keeps (s : AgentOAuthService) (request : AgentAuthorization)
    (hown : NotYetMutated own) (hop : operation = .redeem ∨ operation = .rotate)
    (hpresents : operation = .rotate → Presents p call presentedHash request own) :
    (s.issue p request operation presentedHash).Yields caller (OAuthGuard p call)
      (Issued caller operation presentedHash) own := by
  refine .bind ?_
  refine admittedAuthority_keeps s request hown fun own1 admitted hsuffix hown1 => ?_
  obtain ⟨authority, currentExpiry⟩ := admitted
  simp only [keeps_ite, keeps_bind, keeps_throw, keeps_pure, keeps_nowMs, keeps_randText,
    keeps_deref, keeps_check, oauthGuard_clock, oauthGuard_random, notYetMutated_cons, mutatesGrant, hown1,
    implies_true, true_and, and_true]
  intro now hleft
  have hunexpired : now < request.grantExpiresAtMs := by
    -- once whole seconds are left, the deadline is ahead of the clock
    by_contra hnot
    exact hleft (Int.tdiv_le_tdiv (by omega) (by omega))
  refine ⟨fun _ sid owner _ jwtID signature _ client _ => ?_, fun _ owner _ jwtID signature _ client _ => ?_⟩
  all_goals
    refine commitIssue_keeps s (by simpa using hown1) hop (fun h => (hpresents h).mono ?_) authority currentExpiry
      ⟨caller, by simp⟩ hunexpired rfl client
  · exact hsuffix.trans ((List.suffix_cons _ _).trans ((List.suffix_cons _ _).later))
  · exact hsuffix.trans ((List.suffix_cons _ _).later)

/-- A token is called active only after the store accepted a validation of the grant
    stored under the token's grant id. -/
def Introspected (caller : Nat) (own : Trace) (answer : AgentOAuthIntrospection) : Prop :=
  answer.active = true → ∃ request m next,
    (⟨caller, .agent (.getAgentAuthorization answer.grantID), some request⟩ : StoreEvent) ∈ own ∧
    (⟨caller, .agent (.mutateAgentAuthorization request.id m), .ok next⟩ : StoreEvent) ∈ own ∧
    m.operation = .validate

/-- What the result of a call says about the call's own steps. -/
def OAuthPost (p : Platform) (caller : Nat) (call : AgentOAuthCall) (own : Trace)
    (result : AgentOAuthResult) : Prop :=
  match call, result with
  | .decide .., .redirect _ => True
  | .redeem .., .tokens (.ok t) => Issued caller .redeem "" own t
  | .redeem .., .tokens (.error _) => True
  | .refresh _ _ raw _, .tokens (.ok t) => Issued caller .rotate (p.sha256Hex raw) own t
  | .refresh .., .tokens (.error _) => True
  | .introspect .., .introspection (.ok answer) => Introspected caller own answer
  | .introspect .., .introspection (.error _) => True
  | .revokeToken .., .ended _ => True
  | .revoke .., .ended _ => True
  | _, _ => False

section
variable (s : AgentOAuthService)
include s
section
variable (hown : NotYetMutated own)
include hown

lemma decide_keeps (h : AgentOAuthHuman) (id : String) (revision : Int) (approve : Bool) (agentID : String) :
    (s.decide p h id revision approve agentID).Asks caller (OAuthGuard p call) own := by
  unfold AgentOAuthService.decide
  simp only [keeps_bind, keeps_ite, keeps_throw, implies_true, true_and]
  intro _
  refine (human_reads h true).then hown fun own1 _ _ hown1 => ?_
  refine Routine.keeps_ask.mpr ⟨⟨hown1, rfl⟩, fun (request : Option AgentAuthorization) => ?_⟩
  cases request with
  | none => trivial
  | some request =>
    simp only [keeps_bind, keeps_ite, keeps_throw, keeps_agentOAuthAuthority, keeps_nowMs,
      keeps_check, keeps_randText, keeps_deref, keeps_mutateAgentAuthorization, oauthGuard_agentOAuthAuthority,
      oauthGuard_clock, oauthGuard_random, oauthGuard_mutate, notYetMutated_cons, mutatesGrant, hown1,
      implies_true, true_and, and_true]
    intro authority now
    refine ⟨fun _ _ _ _ _ owner _ session _ => ?_, fun _ => ?_⟩
    · refine (grantExpiry_reads s owner session).then (by simpa using hown1) fun own2 expiry _ hown2 => ?_
      exact ⟨hown2, by simp, by simp⟩
    · exact ⟨by simp, by simp⟩

lemma redeem_keeps (client redirect resource code verifier : String) :
    (s.redeem p client redirect resource code verifier).Yields caller (OAuthGuard p call)
      (Issued caller .redeem (p.sha256Hex code)) own := by
  unfold AgentOAuthService.redeem
  refine .ask ⟨hown, rfl⟩ fun (request : Option AgentAuthorization) => ?_
  cases request with
  | none => trivial
  | some request =>
    simp only [keeps_bind, keeps_ite, keeps_throw, keeps_nowMs, oauthGuard_clock,
      notYetMutated_cons, mutatesGrant, hown, implies_true, true_and]
    exact fun now _ => issue_keeps s request (by simpa using hown) (.inl rfl) (by simp)

lemma refresh_keeps (client resource raw scope : String) :
    (s.refresh p client resource raw scope).Yields caller (OAuthGuard p (.refresh client resource raw scope))
      (Issued caller .rotate (p.sha256Hex raw)) own := by
  unfold AgentOAuthService.refresh
  refine .ask ⟨hown, rfl⟩ fun (request : Option AgentAuthorization) => ?_
  cases request with
  | none => trivial
  | some request =>
    simp only [keeps_bind, keeps_ite, keeps_throw, implies_true, true_and]
    exact fun _ => issue_keeps s request (by simpa using hown) (.inr rfl) fun _ =>
      ⟨client, resource, raw, scope, caller, rfl, rfl, .head _⟩

lemma introspect_keeps (resource raw : String) : (s.introspect p resource raw).Yields caller (OAuthGuard p call)
      (Introspected caller) own := by
  unfold AgentOAuthService.introspect
  split
  · simp [Introspected]
  refine .ask ⟨hown, rfl⟩ fun (request : Option AgentAuthorization) => ?_
  cases request with
  | none => simp [Introspected]
  | some request =>
    simp only [keeps_bind, keeps_ite, Routine.keeps_attempt]
    refine ⟨fun _ => by simp [Introspected], fun _ => ?_⟩
    refine (admittedAuthority_keeps s request (by simpa using hown) fun own1 admitted hsuffix hown1 => ?_).mono
      (fun _ _ h => h) fun own1 err _ => ?_
    · obtain ⟨authority, _⟩ := admitted
      simp only [keeps_nowMs, keeps_mutateAgentAuthorization, keeps_deref, keeps_pure, oauthGuard_clock,
        oauthGuard_mutate, notYetMutated_cons, mutatesGrant, hown1, implies_true, true_and, and_true]
      intro now
      refine ⟨⟨by simp, by simp⟩, fun next owner _ _ => ?_, fun err => ?_⟩
      · grind [List.mem_cons_self]
      · simp [Introspected]
    · simp [Introspected]

end
end

/-- Every call keeps to the guard, whatever the store answers. -/
lemma AgentOAuthInvocation.program_keeps (p : Platform) (i : AgentOAuthInvocation) (caller : Nat) :
    (i.program p).Keeps caller (OAuthGuard p i.call) (OAuthPost p caller i.call) [] := by
  have hown := notYetMutated_nil
  obtain ⟨s, call⟩ := i
  cases call with
  | decide h id revision approve agentID =>
    exact ((decide_keeps s hown h id revision approve agentID).mono (fun _ _ _ => trivial) fun _ _ _ => trivial).wrap
  | redeem client redirect resource code verifier =>
    refine ((redeem_keeps s hown client redirect resource code verifier).mono (fun own t ht => ?_)
      fun _ _ _ => trivial).wrap
    obtain ⟨m, next, hmem, hop, -⟩ := ht
    exact ⟨m, next, hmem, hop, nofun⟩
  | refresh client resource raw scope =>
    exact ((refresh_keeps s hown client resource raw scope).mono (fun _ _ h => h) fun _ _ _ => trivial).wrap
  | introspect resource raw =>
    exact ((introspect_keeps s hown resource raw).mono (fun _ _ h => h) fun _ _ _ => trivial).wrap
  | revokeToken client raw =>
    exact ((revokeToken_keeps hown client raw).mono (fun _ _ _ => trivial) fun _ _ _ => trivial).wrap
  | revoke h id => exact ((revoke_keeps hown h id).mono (fun _ _ _ => trivial) fun _ _ _ => trivial).wrap

end identity.service
