import Identity.Flows.AgentOAuth.Guard
import Identity.Memory.Rotation
import Identity.Repository.Delegation

open identity.repository identity.memory
namespace identity.service
open AgentOAuthCall

/-- The store accepted a redemption of the authorization. -/
@[grind =]
def Redeems (id : String) (event : StoreEvent) : Prop :=
  ∃ caller m next, event = ⟨caller, .agent (.mutateAgentAuthorization id m), .ok next⟩ ∧ m.operation = .redeem

/-- The store accepted a rotation of the refresh credential. -/
@[grind =]
def Rotates (hash : String) (event : StoreEvent) : Prop :=
  ∃ caller id m next, event = ⟨caller, .agent (.mutateAgentAuthorization id m), .ok next⟩ ∧
    m.operation = .rotate ∧ m.refreshHash = hash

/-- The store accepted a use of the authorization. -/
def Uses (id : String) (event : StoreEvent) : Prop :=
  ∃ caller m next, event = ⟨caller, .agent (.mutateAgentAuthorization id m), .ok next⟩ ∧ usesGrant m.operation = true

section
variable {id : String}

/-- No guarded request undoes anything. -/
lemma OAuthGuard.onward (hguard : OAuthGuard p call own q) (tick : Tick) (r : Repo) :
    Onward r (handle p q tick r).2 := by
  obtain ⟨-, hguard⟩ := hguard
  split at hguard
  · exact (mutateAgentAuthorization_result p r _ _).onward
  · obtain ⟨hgrants, -, hrefresh⟩ := mutateAgentMachine_revokes r p _ _
    refine ⟨hgrants.mono fun _ _ => AgentAuthorization.RevokedTo.follows, fun _ token h => ⟨token, ?_, rfl, rfl, id⟩⟩
    exact hrefresh ▸ h
  · rw [handle_isRead hguard]

lemma OAuthGuard.family (hguard : OAuthGuard p call own q) (hid : id ≠ "") (hfamily : Family id r) (tick : Tick) :
    Family id (handle p q tick r).2 := by
  have honward := hguard.onward tick r
  obtain ⟨-, hguard⟩ := hguard
  split at hguard
  · exact (mutateAgentAuthorization_result p r _ _).family hfamily hid hguard.next
  · obtain ⟨hgrants, hcodes, hrefresh⟩ := mutateAgentMachine_revokes r p _ _
    exact hfamily.of_revoked hgrants honward hcodes hrefresh
  · rw [handle_isRead hguard]
    exact hfamily

/-- What the store and the steps taken so far say about one authorization. -/
@[grind]
structure FamilyRun (id : String) (r : Repo) (trace : Trace) : Prop where
  family : Family id r
  redeemed : Spends (Redeems id) (CodeUsed id) r trace
  rotated : ∀ hash, Spends (Rotates hash) (Consumed hash) r trace
  found : ∀ caller hash g,
    (⟨caller, .agent (.findAgentAuthorizationByRefresh hash), some g⟩ : StoreEvent) ∈ trace → g.id = id →
      ∃ row, r.agentAuthorizations.lookup id = some row ∧ row.decision = .approved ∧
        row.grantExpiresAtMs = g.grantExpiresAtMs
  got : ∀ caller key g,
    (⟨caller, .agent (.getAgentAuthorization key), some g⟩ : StoreEvent) ∈ trace → g.id = key
  clocked : ∀ caller (now : Int), (⟨caller, .clock, now⟩ : StoreEvent) ∈ trace → 0 < now

/-- A mutation the store has just accepted. -/
lemma accepted_result (heq : (⟨caller, q, (handle p q tick r).1⟩ : StoreEvent) =
      ⟨caller', .agent (.mutateAgentAuthorization key m), .ok next⟩) :
    MutationResult p r key m (.ok next, (handle p q tick r).2) := by
  obtain ⟨-, rfl, hresp⟩ := Event.mk.inj heq
  have hpair : r.mutateAgentAuthorization p key m = (.ok next, (r.mutateAgentAuthorization p key m).2) :=
    Prod.ext (eq_of_heq hresp) rfl
  exact hpair ▸ mutateAgentAuthorization_result p r key m

lemma Redeems.once (hredeems : Redeems id ⟨caller, q, (handle p q tick r).1⟩) :
    ¬ CodeUsed id r ∧ CodeUsed id (handle p q tick r).2 := by
  obtain ⟨_, m, next, heq, hop⟩ := hredeems
  exact (accepted_result heq).redeem_once hop

lemma Rotates.once {hash : String} (hrotates : Rotates hash ⟨caller, q, (handle p q tick r).1⟩) :
    ¬ Consumed hash r ∧ Consumed hash (handle p q tick r).2 := by
  obtain ⟨_, key, m, next, heq, hop, rfl⟩ := hrotates
  exact (accepted_result heq).rotate_once hop

lemma Uses.live (huses : Uses id ⟨caller, q, (handle p q tick r).1⟩) : ¬ Revoked id r := by
  obtain ⟨_, m, next, heq, hop⟩ := huses
  exact (accepted_result heq).not_revoked hop

/-- One guarded step. -/
lemma FamilyRun.step (hrun : FamilyRun id r trace) (hid : id ≠ "") (hguard : OAuthGuard p call own q)
    (caller : Nat) (tick : Tick) :
    FamilyRun id (handle p q tick r).2 (⟨caller, q, (handle p q tick r).1⟩ :: trace) where
  family := hguard.family hid hrun.family tick
  redeemed := hrun.redeemed.cons (hguard.onward tick r).codeUsed Redeems.once
  rotated hash := (hrun.rotated hash).cons (hguard.onward tick r).consumed Rotates.once
  found := by
    intro finder hash g hmem hg
    have honward := hguard.onward tick r
    have hbefore : ∃ row, r.agentAuthorizations.lookup id = some row ∧ row.decision = .approved ∧
        row.grantExpiresAtMs = g.grantExpiresAtMs := by
      rcases List.mem_cons.mp hmem with heq | hold
      · obtain ⟨-, rfl, hresp⟩ := Event.mk.inj heq
        -- the grant a refresh credential leads to is approved
        have hfind : r.findAgentAuthorizationByRefresh hash = some g := (eq_of_heq hresp).symm
        unfold Repo.findAgentAuthorizationByRefresh at hfind
        split at hfind
        · cases hfind
        · grind
      · exact hrun.found finder hash g hold hg
    grind [honward.grants.lookup_some]
  got := by
    intro getter key g hmem
    rcases List.mem_cons.mp hmem with heq | hold
    · obtain ⟨-, rfl, hresp⟩ := Event.mk.inj heq
      exact hrun.family.named key g (eq_of_heq hresp).symm
    · exact hrun.got getter key g hold
  clocked := by
    intro reader now hmem
    rcases List.mem_cons.mp hmem with heq | hold
    · obtain ⟨-, rfl, hresp⟩ := Event.mk.inj heq
      rw [eq_of_heq hresp]
      exact tick.pos
    · exact hrun.clocked reader now hold

end

/-- Calls in progress on the authorizations of one store. -/
abbrev AgentOAuthPool := Pool Request.Response Repo AgentOAuthResult

def AgentOAuthCall.isRedeem : AgentOAuthCall → Bool
  | .redeem .. => true
  | _ => false

/-- The refresh token a call presents to have it rotated. -/
def AgentOAuthCall.presents : AgentOAuthCall → Option String
  | .refresh _ _ raw _ => some raw
  | _ => none

/-- The call returned tokens of the authorization, or called one of its tokens active. -/
def Succeeded (id : String) (pool : AgentOAuthPool) (caller : Nat) : Prop :=
  (∃ t, pool.result caller = some (.tokens (.ok t)) ∧ t.accessToken.claims.grantID = id) ∨
    ∃ answer, pool.result caller = some (.introspection (.ok answer)) ∧ answer.active = true ∧ answer.grantID = id

section
variable {p : Platform} {id : String} {calls : List AgentOAuthInvocation}
variable (p calls) in
@[grind =]
def CallsGuard (caller : Nat) (own : Trace) (q : Request) : Prop :=
  ∃ i, calls[caller]? = some i ∧ OAuthGuard p i.call own q

variable (p calls) in
def CallsPost (caller : Nat) (own : Trace) (result : AgentOAuthResult) : Prop :=
  ∃ i, calls[caller]? = some i ∧ OAuthPost p caller i.call own result

variable (p id calls) in
/-- A moment of a run of the calls: each of them is somewhere in its text, and the
    store and the steps so far fit together. -/
@[grind]
structure Moment (pool : AgentOAuthPool) : Prop where
  keep : pool.Keep (CallsGuard p calls) (CallsPost p calls)
  run : FamilyRun id pool.store pool.trace

lemma moment_start (hunissued : Unissued id r) :
    Moment p id calls (Pool.start r (calls.map fun i => i.program p)) where
  keep := Pool.keep_start (fun i caller => i.program_keeps p caller) r
  run :=
    { family := hunissued.family
      redeemed := .nil r
      rotated := fun _ => .nil r
      found := fun _ _ _ hmem => nomatch hmem
      got := fun _ _ _ hmem => nomatch hmem
      clocked := fun _ _ hmem => nomatch hmem }

section
variable (hmoment : Moment p id calls pool)
include hmoment

lemma Moment.run_schedule (hid : id ≠ "") (schedule : List (Nat × Tick)) :
    Moment p id calls (pool.run (handle p) schedule) where
  keep := hmoment.keep.run schedule
  run := by
    refine Pool.run_invariant (fun r trace caller q tick hrun hguard => ?_) hmoment.keep hmoment.run schedule
    grind [hrun.step]

/-- The step by which a call that answered tokens committed them. -/
lemma Moment.issued (hi : calls[caller]? = some i) (hresult : pool.result caller = some (.tokens (.ok t))) :
    (i.call.isRedeem = true ∧ Issued caller .redeem "" (Pool.own pool.trace caller) t) ∨
      ∃ raw, i.call.presents = some raw ∧ Issued caller .rotate (p.sha256Hex raw) (Pool.own pool.trace caller) t := by
  obtain ⟨i', hi', hpost⟩ := hmoment.keep.result hresult
  rw [hi] at hi'
  cases hi'
  cases hcall : i.call with
  | redeem client redirect resource code verifier => rw [hcall] at hpost; exact .inl ⟨rfl, hpost⟩
  | refresh client resource raw scope => rw [hcall] at hpost; exact .inr ⟨raw, rfl, hpost⟩
  | _ => rw [hcall] at hpost; exact hpost.elim

lemma Moment.redeemed (hi : calls[caller]? = some i) (hredeem : i.call.isRedeem = true)
    (hresult : pool.result caller = some (.tokens (.ok t))) (hgrant : t.accessToken.claims.grantID = id) :
    ∃ event ∈ pool.trace, event.caller = caller ∧ Redeems id event := by
  rcases hmoment.issued hi hresult with ⟨-, m, next, hmem, hop, -⟩ | ⟨raw, hpresents, -⟩
  · grind
  · cases hcall : i.call <;> simp [hcall, isRedeem, AgentOAuthCall.presents] at hredeem hpresents

lemma Moment.rotated (hi : calls[caller]? = some i) (hpresents : i.call.presents = some raw)
    (hresult : pool.result caller = some (.tokens (.ok t))) :
    ∃ event ∈ pool.trace, event.caller = caller ∧ Rotates (p.sha256Hex raw) event := by
  rcases hmoment.issued hi hresult with ⟨hredeem, -⟩ | ⟨raw', hpresents', m, next, hmem, hop, hhash⟩
  · cases hcall : i.call <;> simp [hcall, isRedeem, AgentOAuthCall.presents] at hredeem hpresents
  · grind

end
end

section
variable {p : Platform} {id : String} {calls : List AgentOAuthInvocation} {pool : AgentOAuthPool}
section
variable (hmoment : Moment p id calls pool)
include hmoment

/-- A call that has not finished has not mutated a grant. -/
lemma Moment.notYetMutated
    (hcall : pool.Awaits caller q next) : NotYetMutated (Pool.own pool.trace caller) := by
  obtain ⟨⟨i, -, hguard⟩, -⟩ := hmoment.keep caller _ hcall
  exact hguard.1

/-- A mutation of a grant is the last thing a call does. -/
lemma Moment.finished
    (hmem : event ∈ Pool.own pool.trace caller) (hmutates : mutatesGrant event.req = true) (hcall :
      pool.calls[caller]? = some call) :
    ∃ result, call = .done result := by
  cases call with
  | done result => exact ⟨result, rfl⟩
  | request q next =>
    have hnone := hmoment.notYetMutated hcall event hmem
    rw [hmutates] at hnone
    cases hnone

/-- What a success rests on: the store accepted a use of the grant by that call. -/
lemma Moment.uses_of_succeeded
    (hsucceeded : Succeeded id pool caller) : ∃ event ∈ Pool.own pool.trace caller, Uses id event := by
  rcases hsucceeded with ⟨t, hresult, hgrant⟩ | ⟨answer, hresult, hactive, hgrant⟩
  · obtain ⟨i, hi, -⟩ := hmoment.keep.result hresult
    rcases hmoment.issued hi hresult with ⟨-, m, next, hmem, hop, -⟩ | ⟨raw, -, m, next, hmem, hop, -⟩
    all_goals
      rw [hgrant] at hmem
      exact ⟨_, hmem, caller, m, next, rfl, by rw [hop]; rfl⟩
  obtain ⟨i, hi, hpost⟩ := hmoment.keep.result hresult
  cases hcall : i.call with
  | introspect resource raw =>
    rw [hcall] at hpost
    obtain ⟨request, m, next, hgot, hmem, hop⟩ := hpost hactive
    have hrequest : request.id = id :=
      (hmoment.run.got caller answer.grantID request (Pool.mem_trace hgot)).trans hgrant
    rw [hrequest] at hmem
    exact ⟨_, hmem, caller, m, next, rfl, by rw [hop]; rfl⟩
  | _ => rw [hcall] at hpost; exact hpost.elim

end

variable (p id calls pool) in
/-- A call that presents a consumed credential of the authorization is about to ask
    the store for the rotation, and the authority it was admitted on is current. -/
@[grind]
structure ReplayPending (caller : Nat) (m : AgentOAuthMutation)
    (next : Except Err AgentAuthorization → Call Request.Response AgentOAuthResult) : Prop where
  raw : ∃ i raw token, calls[caller]? = some i ∧ i.call.presents = some raw ∧
    pool.store.agentOAuthRefresh.lookup (p.sha256Hex raw) = some token ∧ token.authorizationID = id ∧
    token.consumedAtMs ≠ 0
  pending : pool.calls[caller]? = some (.request (.agent (.mutateAgentAuthorization id m)) next)
  operation : m.operation = .rotate
  authority : ∃ g, pool.store.agentAuthorizations.lookup id = some g ∧
    (pool.store.mutationAuthority g m).valid p g = true ∧
    (pool.store.mutationAuthority g m).fingerprint p = m.authorityFingerprint

/-- The one mutation of a call that a refresh credential was presented to was refused:
    then so is the call. -/
lemma refused_of_mutation {i : AgentOAuthInvocation} (hpresents : i.call.presents = some raw)
    (hown : NotYetMutated own)
    (hpost : OAuthPost p caller i.call
      (⟨caller, .agent (.mutateAgentAuthorization id m), .error refusal⟩ :: own) result) :
    ∃ err, result = .tokens (.error err) := by
  cases hcall : i.call <;> rw [hcall] at hpresents hpost <;> cases hpresents
  cases result with
  | tokens answer =>
    cases answer with
    | error err => exact ⟨err, rfl⟩
    | ok t =>
      obtain ⟨m', accepted, hmem, -⟩ := hpost
      rcases List.mem_cons.mp hmem with heq | hold
      · grind
      · exact absurd (hown _ hold) (by simp)
  | redirect | introspection | ended => exact hpost.elim

lemma Succeeded.bound (hsucceeded : Succeeded id pool caller) : caller < pool.calls.length := by
  rcases hsucceeded with ⟨t, hresult, -⟩ | ⟨answer, hresult, -⟩
  · exact Pool.bound_of_result hresult
  · exact Pool.bound_of_result hresult

lemma Uses.mutates (huses : Uses id event) : mutatesGrant event.req = true := by
  obtain ⟨_, m, accepted, rfl, -⟩ := huses
  rfl

/-- Once the grant is revoked it stays so, and no further use of it is accepted. -/
lemma Moment.revoked_run (hmoment : Moment p id calls pool) (hrevoked : Revoked id pool.store)
    (later : List (Nat × Tick)) : Revoked id (pool.run (handle p) later).store ∧
      ∀ event ∈ (pool.run (handle p) later).trace, Uses id event → event ∈ pool.trace := by
  refine Pool.run_invariant (fun r trace mover q tick
    (hinv : Revoked id r ∧ ∀ event ∈ trace, Uses id event → event ∈ pool.trace) hguard => ?_)
    hmoment.keep ⟨hrevoked, fun _ hmem _ => hmem⟩ later
  obtain ⟨i, -, hguard⟩ := hguard
  refine ⟨(hguard.onward tick r).revoked hinv.1, fun event hmem huses => ?_⟩
  rcases List.mem_cons.mp hmem with rfl | hold
  · exact absurd hinv.1 huses.live
  · exact hinv.2 event hold huses

section
variable (hreplay : ReplayPending p id calls pool caller m next)
include hreplay
section
variable (hmoment : Moment p id calls pool)
include hmoment

/-- The store answers a replay with an error and ends the grant. -/
lemma ReplayPending.revokes : (∃ err, (pool.store.mutateAgentAuthorization p id m).1 = .error err) ∧
      Revoked id (pool.store.mutateAgentAuthorization p id m).2 := by
  obtain ⟨i, raw, token, hi, hpresents, htoken, hgrant, hconsumed⟩ := hreplay.raw
  obtain ⟨g, hg, hvalid, hfingerprint⟩ := hreplay.authority
  obtain ⟨⟨i', hi', -, hpermitted⟩, -⟩ := hmoment.keep caller _ hreplay.pending
  rw [hi] at hi'
  cases hi'
  obtain ⟨client, resource, raw', scope, finder, found, hcall, hhash, hfound, hid, ⟨reader, hread⟩, hunexpired⟩ :=
    hpermitted.rotate hreplay.operation
  obtain rfl : raw' = raw := by
    rw [hcall] at hpresents
    exact Option.some.inj hpresents
  -- the terms under which the call found the grant are still the stored ones
  obtain ⟨row, hrow, -, hexpires⟩ := hmoment.run.found finder _ found (Pool.mem_trace hfound) hid
  rw [hg] at hrow
  cases hrow
  have hpos := hmoment.run.clocked reader _ (Pool.mem_trace hread)
  rw [← hexpires] at hunexpired
  rw [← hhash] at htoken
  exact mutateAgentAuthorization_replay hmoment.run.family hpos hreplay.operation htoken hgrant hconsumed hg
    hunexpired hvalid hfingerprint

/-- The replaying call itself ends with an error. -/
lemma ReplayPending.fails (hid : id ≠ "") (tick : Tick) :
    ∃ err, (pool.step (handle p) caller tick).result caller = some (.tokens (.error err)) := by
  obtain ⟨⟨refusal, hrefusal⟩, -⟩ := hreplay.revokes hmoment
  obtain ⟨i, raw, -, hi, hpresents, -⟩ := hreplay.raw
  have hafter := hmoment.run_schedule hid [(caller, tick)]
  have hmine : (pool.step (handle p) caller tick).calls[caller]? = some (next (.error refusal)) :=
    Pool.calls_step_self hreplay.pending hrefusal
  have hown : Pool.own (pool.step (handle p) caller tick).trace caller =
      ⟨caller, .agent (.mutateAgentAuthorization id m), .error refusal⟩ :: Pool.own pool.trace caller := by
    rw [Pool.trace_step hreplay.pending hrefusal]
    exact Pool.own_cons_self _ _ _ _
  obtain ⟨result, hdone⟩ := hafter.finished (hown ▸ List.mem_cons_self) rfl hmine
  have hresult : (pool.step (handle p) caller tick).result caller = some result := by
    simp only [Pool.result, hmine, hdone]
  obtain ⟨i', hi', hpost⟩ := hafter.keep.result hresult
  rw [hi] at hi'
  cases hi'
  change OAuthPost p caller i.call (Pool.own (pool.step (handle p) caller tick).trace caller) result at hpost
  rw [hown] at hpost
  obtain ⟨err, rfl⟩ := refused_of_mutation hpresents (hmoment.notYetMutated hreplay.pending) hpost
  exact ⟨err, hresult⟩

/-- From the replay on the grant is revoked, and no call that was still running
    succeeds on it. -/
lemma ReplayPending.ends_family (hid : id ≠ "") (tick : Tick) (later : List (Nat × Tick)) :
    Revoked id ((pool.step (handle p) caller tick).run (handle p) later).store ∧ ∀ other, pool.result other = none →
        ¬ Succeeded id ((pool.step (handle p) caller tick).run (handle p) later) other := by
  obtain ⟨⟨refusal, hrefusal⟩, hrevoked⟩ := hreplay.revokes hmoment
  have hafter : Moment p id calls (pool.step (handle p) caller tick) := hmoment.run_schedule hid [(caller, tick)]
  have hended : Revoked id (pool.step (handle p) caller tick).store := by
    rw [Pool.step_request hreplay.pending]
    exact hrevoked
  obtain ⟨hstays, hnoUse⟩ := hafter.revoked_run hended later
  refine ⟨hstays, fun other hunfinished hsucceeded => ?_⟩
  have hfinal := hafter.run_schedule hid later
  obtain ⟨event, hmem, huses⟩ := hfinal.uses_of_succeeded hsucceeded
  obtain ⟨htrace, rfl⟩ := Pool.mem_of_mem_own hmem
  have hbound : event.caller < pool.calls.length := by
    rw [← Pool.length_step caller tick, ← Pool.length_run later]
    exact hsucceeded.bound
  obtain ⟨q, rest, hcall⟩ := Pool.request_of_unfinished hbound hunfinished
  have hbefore := hnoUse event htrace huses
  rw [Pool.trace_step hreplay.pending hrefusal] at hbefore
  rcases List.mem_cons.mp hbefore with rfl | hold
  · -- a refused mutation is not a use
    obtain ⟨_, m', accepted, heq, -⟩ := huses
    obtain ⟨-, hreq, hresp⟩ := Event.mk.inj heq
    cases eq_of_heq hresp
  have hnone := hmoment.notYetMutated hcall event (Pool.mem_own hold)
  rw [huses.mutates] at hnone
  cases hnone

end
end
end

/-- The store holds an unconsumed refresh record of the authorization under this hash. -/
def Unconsumed (id hash : String) (r : Repo) : Prop :=
  ∃ token, r.agentOAuthRefresh.lookup hash = some token ∧ token.authorizationID = id ∧ token.consumedAtMs = 0

lemma Moment.unconsumed_unique {id : String} (hmoment : Moment p id calls pool)
    (h1 : Unconsumed id hash₁ pool.store) (h2 : Unconsumed id hash₂ pool.store) : hash₁ = hash₂ := by
  obtain ⟨token1, hlookup1, hgrant1, hfree1⟩ := h1
  obtain ⟨token2, hlookup2, hgrant2, hfree2⟩ := h2
  exact hmoment.run.family.single hash₁ hash₂ token1 token2 hlookup1 hlookup2 hgrant1 hgrant2 hfree1 hfree2

/-- The tokens of one authorization, at any moment of any interleaving of calls: its
    code is redeemed by one call, each refresh token is rotated by one call, one
    refresh record at most is unconsumed, and a replay ends the authorization. -/
theorem agent_oauth_token_family (p : Platform) (r : Repo) (id : String) (hunissued : Unissued id r)
    (calls : List AgentOAuthInvocation) (schedule : List (Nat × Tick)) :
    let pool := (Pool.start r (calls.map fun i => i.program p)).run (handle p) schedule
    (∀ caller₁ caller₂ i₁ i₂ t₁ t₂, calls[caller₁]? = some i₁ → calls[caller₂]? = some i₂ →
      i₁.call.isRedeem = true → i₂.call.isRedeem = true →
      pool.result caller₁ = some (.tokens (.ok t₁)) → pool.result caller₂ = some (.tokens (.ok t₂)) →
      t₁.accessToken.claims.grantID = id → t₂.accessToken.claims.grantID = id → caller₁ = caller₂) ∧
    (∀ raw caller₁ caller₂ i₁ i₂ t₁ t₂, calls[caller₁]? = some i₁ → calls[caller₂]? = some i₂ →
      i₁.call.presents = some raw → i₂.call.presents = some raw →
      pool.result caller₁ = some (.tokens (.ok t₁)) → pool.result caller₂ = some (.tokens (.ok t₂)) →
      caller₁ = caller₂) ∧
    (∀ hash₁ hash₂, Unconsumed id hash₁ pool.store → Unconsumed id hash₂ pool.store → hash₁ = hash₂) ∧
    (∀ caller m next, ReplayPending p id calls pool caller m next → ∀ tick later,
      let after := (pool.step (handle p) caller tick).run (handle p) later
      Revoked id after.store ∧ (∃ err, after.result caller = some (.tokens (.error err))) ∧
        ∀ other, pool.result other = none → ¬ Succeeded id after other) := by
  intro pool
  have hmoment : Moment p id calls pool := (moment_start hunissued).run_schedule hunissued.id_ne schedule
  refine ⟨?_, ?_, fun _ _ => hmoment.unconsumed_unique, ?_⟩
  · intro caller₁ caller₂ i₁ i₂ t₁ t₂ hi₁ hi₂ hredeem₁ hredeem₂ hresult₁ hresult₂ hgrant₁ hgrant₂
    obtain ⟨event₁, hmem₁, rfl, hevent₁⟩ := hmoment.redeemed hi₁ hredeem₁ hresult₁ hgrant₁
    obtain ⟨event₂, hmem₂, rfl, hevent₂⟩ := hmoment.redeemed hi₂ hredeem₂ hresult₂ hgrant₂
    exact hmoment.run.redeemed.once event₁ hmem₁ event₂ hmem₂ hevent₁ hevent₂
  · intro raw caller₁ caller₂ i₁ i₂ t₁ t₂ hi₁ hi₂ hpresents₁ hpresents₂ hresult₁ hresult₂
    obtain ⟨event₁, hmem₁, rfl, hevent₁⟩ := hmoment.rotated hi₁ hpresents₁ hresult₁
    obtain ⟨event₂, hmem₂, rfl, hevent₂⟩ := hmoment.rotated hi₂ hpresents₂ hresult₂
    exact (hmoment.run.rotated _).once event₁ hmem₁ event₂ hmem₂ hevent₁ hevent₂
  intro caller m next hreplay tick later
  obtain ⟨err, hfails⟩ := hreplay.fails hmoment hunissued.id_ne tick
  grind [hreplay.ends_family, Pool.result_run]

section Sample

/-- The sample platform with distinct digests for the credentials used below. -/
def sampleDigests : Platform :=
  { samplePlatform with
    sha256Hex := fun text =>
      if text = "code-1" then "5feceb66ffc86f38d952786c6d696c79c2dbc239dd4e91b46729d73a27fb57e9"
      else if text = "refresh-1" then "6b86b273ff34fce19d6b804eff5a3f5747ada4eaa22f1d49c01e52ddb7875b4b"
      else if text = "refresh-2" then "d4735e3a265e16eee03f59718b9b5d03019c07d8b6c51f90da3a666eec13ab35"
      else samplePlatform.sha256Hex text }

def sampleService : AgentOAuthService where
  jwtIssuer := "https://id.example"
  projectID := "project-1"
  resources := ["https://api.example"]
  machineEnabled := true
  accessSeconds := 60
  refreshIdleSeconds := 60
  consentSeconds := 600
  refreshExpirySeconds := 600
  requireVerifiedEmail := false
  idvRequired := false
  ageGateRequireDOB := false
  enforceAccountAccessLogin _ _ := .ok ()
  enforceProductAgeGate _ _ := .ok ()
  isMinor _ _ := false
  resolvePolicy _ := .ok none
  signDelegatedAccessToken _ := .ok "signature"
  verifyDelegatedAccessToken _ _ := none
  s256 _ := sampleRequest.challenge
  withQuery redirect _ := .ok redirect

/-- Consent, redemption, a rotation, and the same refresh token once more. -/
def sampleCalls : List AgentOAuthInvocation :=
  [⟨sampleService, .decide ⟨"owner-1", "sid-1", 1⟩ "grant-1" 1 true "agent-1"⟩,
   ⟨sampleService, .redeem "client-1" "https://app.example/cb" "https://api.example" "code-1"
      "dBjftJeZ4CVP-mB92K27uhbUJU1p1r_wW1gFWFOEjXk"⟩,
   ⟨sampleService, .refresh "client-1" "https://api.example" "refresh-1" ""⟩,
   ⟨sampleService, .refresh "client-1" "https://api.example" "refresh-1" ""⟩]

def sampleAuthorization : Repo :=
  ((run sampleDigests new sampleAccounts).createAgentAuthorization sampleDigests sampleRequest).2

/-- The first three calls one after the other, and the fourth up to its mutation. -/
def sampleSchedule : List (Nat × Tick) :=
  List.replicate 9 (0, ⟨20, sampleTick.pos, "code-1"⟩) ++ List.replicate 11 (1, ⟨20, sampleTick.pos, "refresh-1"⟩) ++
    List.replicate 9 (2, ⟨20, sampleTick.pos, "refresh-2"⟩) ++ List.replicate 8 (3, ⟨20, sampleTick.pos, "refresh-3"⟩)

def samplePool : AgentOAuthPool :=
  (Pool.start sampleAuthorization (sampleCalls.map fun i => i.program sampleDigests)).run (handle sampleDigests)
    sampleSchedule

lemma sampleAuthorization_unissued : Unissued "grant-1" sampleAuthorization := by
  refine createAgentAuthorization_unissued sampleRequest (fun key g hg => ?_) (fun hash token ht => ?_) rfl
  · have hnone : (run sampleDigests new sampleAccounts).agentAuthorizations = ∅ := rfl
    cases hg
  cases ht

def sampleReplay : AgentOAuthMutation where
  operation := .rotate
  atMs := 20
  authorityFingerprint := samplePlatform.sha256Hex ""
  sessionID := "refresh-1"
  nextRefreshHash := samplePlatform.sha256Hex "refresh-3"
  refreshExpiresAtMs := 60020
  refreshHash := "6b86b273ff34fce19d6b804eff5a3f5747ada4eaa22f1d49c01e52ddb7875b4b"

set_option maxRecDepth 4000 in
lemma samplePool_issued : (∃ t, samplePool.result 1 = some (.tokens (.ok t))) ∧
    ∃ t, samplePool.result 2 = some (.tokens (.ok t)) :=
  ⟨⟨_, rfl⟩, _, rfl⟩

set_option maxRecDepth 4000 in
lemma samplePool_replayPending :
    ∃ next, ReplayPending sampleDigests "grant-1" sampleCalls samplePool 3 sampleReplay next :=
  ⟨_, ⟨_, "refresh-1", _, rfl, rfl, rfl, rfl, by decide⟩, rfl, rfl, _, rfl, rfl, rfl⟩

end Sample

/-- In the sample run the code was redeemed and the refresh token rotated, and the
    replay that is pending ends the authorization whatever happens later. -/
theorem sampleReplay_ends_authorization :
    (∃ t, samplePool.result 1 = some (.tokens (.ok t))) ∧ (∃ t, samplePool.result 2 = some (.tokens (.ok t))) ∧
      ∀ (tick : Tick) (later : List (Nat × Tick)),
        let after := (samplePool.step (handle sampleDigests) 3 tick).run (handle sampleDigests) later
        Revoked "grant-1" after.store ∧ ∃ err, after.result 3 = some (.tokens (.error err)) := by
  obtain ⟨next, hreplay⟩ := samplePool_replayPending
  obtain ⟨-, -, -, hends⟩ := agent_oauth_token_family sampleDigests sampleAuthorization "grant-1"
    sampleAuthorization_unissued sampleCalls sampleSchedule
  refine ⟨samplePool_issued.1, samplePool_issued.2, fun tick later => ?_⟩
  obtain ⟨hrevoked, hfails, -⟩ := hends 3 sampleReplay next hreplay tick later
  exact ⟨hrevoked, hfails⟩

end identity.service
