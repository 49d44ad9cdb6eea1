import Identity.Memory.Mutation

open identity.service
namespace identity.memory
open Repo AList

/-- What every step of the calls preserves: no grant is undone, and a refresh record
    stays the record of its grant and stays consumed. -/
@[grind]
structure Onward (r r' : Repo) : Prop where
  grants : r.agentAuthorizations.Pointwise AgentAuthorization.Follows r'.agentAuthorizations
  refresh : ∀ hash token, r.agentOAuthRefresh.lookup hash = some token →
    ∃ token', r'.agentOAuthRefresh.lookup hash = some token' ∧ token'.hash = token.hash ∧
      token'.authorizationID = token.authorizationID ∧ (token.consumedAtMs ≠ 0 → token'.consumedAtMs ≠ 0)

@[refl] lemma Onward.refl (r : Repo) : Onward r r :=
  ⟨.refl AgentAuthorization.Follows.refl _, fun _ token h => ⟨token, h, rfl, rfl, fun h => h⟩⟩

variable {id : String}

lemma commitAuthorization_onward
    (hcurrent : r.agentAuthorizations.lookup id = some current) (hfollows : current.Follows next) :
    Onward r (r.commitAuthorization id next) :=
  ⟨GoMap.pointwise_insert AgentAuthorization.Follows.refl hcurrent hfollows,
    fun _ token h => ⟨token, h, rfl, rfl, fun h => h⟩⟩

section
variable (r : Repo) (id : String) (m : AgentOAuthMutation)

lemma commitRefresh_grants :
    (r.commitRefresh id m).agentAuthorizations = r.agentAuthorizations := by
  unfold commitRefresh
  split <;> split <;> rfl

lemma commitRefresh_codes :
    (r.commitRefresh id m).agentOAuthCodes = r.agentOAuthCodes := by
  unfold commitRefresh
  split <;> split <;> rfl

end

lemma MutationResult.onward (hresult : MutationResult p r id m out) : Onward r out.2 := by
  cases hresult with
  | refused err => rfl
  | applied hcurrent hpos hmutated hfree hcode =>
    have honward := commitAuthorization_onward hcurrent (hmutated.follows hpos)
    refine ⟨?_, by grind [lookup_commitRefresh]⟩
    rw [commitRefresh_grants]
    exact honward.grants
  | replayed err hcurrent hpos hreplayed hcode =>
    exact commitAuthorization_onward hcurrent (hreplayed.follows hpos)

/-- The tables of one authorization. `single` is the point: at most one refresh
    record of it is unconsumed. -/
@[grind]
structure Family (id : String) (r : Repo) : Prop where
  named : ∀ key g, r.agentAuthorizations.lookup key = some g → g.id = key
  coded : ∀ g, r.agentAuthorizations.lookup id = some g → g.codeHash ≠ "" →
    r.agentOAuthCodes.lookup g.codeHash = some id
  issued : ∀ hash token, r.agentOAuthRefresh.lookup hash = some token → token.authorizationID = id →
    token.hash = hash ∧ strings.len hash = 64 ∧ ∃ g, r.agentAuthorizations.lookup id = some g ∧
      g.decision = .approved ∧ g.codeUsedAtMs ≠ 0 ∧ g.machineID = ""
  single : ∀ hash₁ hash₂ token₁ token₂, r.agentOAuthRefresh.lookup hash₁ = some token₁ →
    r.agentOAuthRefresh.lookup hash₂ = some token₂ → token₁.authorizationID = id → token₂.authorizationID = id →
    token₁.consumedAtMs = 0 → token₂.consumedAtMs = 0 → hash₁ = hash₂

section
variable {id : String} {r : Repo}

lemma Onward.named (h : Onward r r') (hfamily : Family id r) :
    ∀ key g, r'.agentAuthorizations.lookup key = some g → g.id = key := by
  intro key g' hg'
  obtain ⟨g, hg, hfollows⟩ := h.grants.lookup_some_inv hg'
  exact hfollows.id.trans (hfamily.named key g hg)

/-- An approved grant whose code is used stays that. -/
lemma Onward.approved (h : Onward r r')
    (hbefore : ∃ g, r.agentAuthorizations.lookup id = some g ∧ g.decision = .approved ∧ g.codeUsedAtMs ≠ 0 ∧
      g.machineID = "") :
    ∃ g, r'.agentAuthorizations.lookup id = some g ∧ g.decision = .approved ∧ g.codeUsedAtMs ≠ 0 ∧
      g.machineID = "" := by
  obtain ⟨g, hg, happroved, hused, hconsented⟩ := hbefore
  obtain ⟨g', hg', hfollows⟩ := h.grants.lookup_some hg
  exact ⟨g', hg', (hfollows.approved happroved).1, hfollows.used hused, hfollows.machineID.trans hconsented⟩

variable {token : AgentOAuthRefresh}

/-- A refresh record after an accepted mutation is the new one, or the same record as
    before with the presented one consumed. -/
lemma lookup_commitRefresh_cases {hash : String}
    (hlookup : (r.commitRefresh key m).agentOAuthRefresh.lookup hash = some token) :
    (m.nextRefreshHash ≠ "" ∧ hash = m.nextRefreshHash ∧ token.hash = hash ∧ token.authorizationID = key) ∨
      ∃ before, r.agentOAuthRefresh.lookup hash = some before ∧ token.hash = before.hash ∧
        token.authorizationID = before.authorizationID ∧
        (token.consumedAtMs = m.atMs ∨ token = before ∧ ¬ (m.operation = .rotate ∧ hash = m.refreshHash)) := by
  rw [lookup_commitRefresh] at hlookup
  split at hlookup
  · grind
  · grind [Option.map_eq_some_iff]

/-- An unconsumed record of the grant after an accepted mutation: the new one, or
    one that was unconsumed before and is not the one presented. -/
lemma unconsumed_cases (hpos : 0 < m.atMs) {hash : String}
    (hlookup : (r.commitRefresh key m).agentOAuthRefresh.lookup hash = some token)
    (hgrant : token.authorizationID = id) (hunconsumed : token.consumedAtMs = 0) :
    (m.nextRefreshHash ≠ "" ∧ hash = m.nextRefreshHash ∧ key = id) ∨
      r.agentOAuthRefresh.lookup hash = some token ∧ ¬ (m.operation = .rotate ∧ hash = m.refreshHash) := by
  rcases lookup_commitRefresh_cases hlookup with ⟨hnext, hhash, -, hkey⟩ | ⟨before, hbefore, -, -, hsame⟩
  · exact .inl ⟨hnext, hhash, hkey.symm.trans hgrant⟩
  · grind

section
variable (hfamily : Family id r)
include hfamily

/-- Committing a grant keeps every code on its own grant: a code already taken by
    another grant would have been refused. -/
lemma Family.coded_commit (hid : id ≠ "") (hfree : r.codeTaken key next.codeHash = false) (g : AgentAuthorization)
    (hg : (r.commitAuthorization key next).agentAuthorizations.lookup id = some g) (hcoded : g.codeHash ≠ "") :
    (r.commitAuthorization key next).agentOAuthCodes.lookup g.codeHash = some id := by
  simp only [commitAuthorization, GoMap.lookup_insert_eq] at hg ⊢
  by_cases hkey : id = key
  · rw [if_pos hkey] at hg
    cases hg
    simp [hcoded, hkey]
  · grind [codeTaken]

/-- The two operations that record a refresh credential, and what they find: a code
    not yet used, or the one unconsumed credential. -/
lemma Family.issue (hcurrent : r.agentAuthorizations.lookup id = some current) (hpos : 0 < m.atMs)
    (hmutated : current.Mutated p (r.mutationAuthority current m) (r.agentOAuthRefresh.lookup m.refreshHash) m next)
    (hissues : m.operation = .redeem ∨ m.operation = .rotate) (hnext : m.nextRefreshHash ≠ "") :
    strings.len m.nextRefreshHash = 64 ∧ next.decision = .approved ∧ next.codeUsedAtMs ≠ 0 ∧ next.machineID = "" ∧
      ∀ hash token, r.agentOAuthRefresh.lookup hash = some token → token.authorizationID = id →
        token.consumedAtMs = 0 → m.operation = .rotate ∧ hash = m.refreshHash := by
  cases hmutated with
  | redeem | rotate => grind
  | revoke hop | revokedBefore hop | deny hop | approve hop | validate hop =>
    rcases hissues with h | h <;> cases hop.symm.trans h

lemma Family.applied (hid : id ≠ "")
    (hnext : m.nextRefreshHash ≠ "" → m.operation = .redeem ∨ m.operation = .rotate) (hcurrent :
      r.agentAuthorizations.lookup key = some current)
    (hpos : 0 < m.atMs)
    (hmutated : current.Mutated p (r.mutationAuthority current m) (r.agentOAuthRefresh.lookup m.refreshHash) m next)
    (hfree : m.nextRefreshHash = "" ∨ r.agentOAuthRefresh.lookup m.nextRefreshHash = none)
    (hcode : r.codeTaken key next.codeHash = false) :
    Family id ((r.commitAuthorization key next).commitRefresh key m) := by
  have honward := (MutationResult.applied hcurrent hpos hmutated hfree hcode).onward
  refine ⟨honward.named hfamily, ?_, ?_, ?_⟩
  · rw [commitRefresh_grants, commitRefresh_codes]
    exact hfamily.coded_commit hid hcode
  · intro hash token hlookup hgrant
    rcases lookup_commitRefresh_cases hlookup with ⟨hnew, hhash, hown, hkey⟩ | ⟨before, hbefore, hown, hkept, -⟩
    · obtain rfl : key = id := hkey.symm.trans hgrant
      obtain ⟨hlen, happroved, hused, hconsented, -⟩ := hfamily.issue hcurrent hpos hmutated (hnext hnew) hnew
      refine ⟨hown, hhash ▸ hlen, next, ?_, happroved, hused, hconsented⟩
      rw [commitRefresh_grants]
      exact lookup_insert _
    · obtain ⟨hhash, hlen, happroved⟩ := hfamily.issued hash before hbefore (hkept.symm.trans hgrant)
      exact ⟨hown.trans hhash, hlen, honward.approved happroved⟩
  -- a credential left unconsumed beside the new one would be the one presented
  have hmixed : ∀ hash token, key = id → m.nextRefreshHash ≠ "" → token.authorizationID = id →
      token.consumedAtMs = 0 → ¬ (r.agentOAuthRefresh.lookup hash = some token ∧
        ¬ (m.operation = .rotate ∧ hash = m.refreshHash)) := by
    rintro hash token rfl hnew hgrant hunconsumed ⟨hlookup, hother⟩
    exact hother ((hfamily.issue hcurrent hpos hmutated (hnext hnew) hnew).2.2.2.2 hash token hlookup hgrant
      hunconsumed)
  intro hash₁ hash₂ token₁ token₂ h1 h2 hgrant1 hgrant2 hfree1 hfree2
  rcases unconsumed_cases hpos h1 hgrant1 hfree1 with ⟨hnew1, hhash1, hkey1⟩ | hold1
  · rcases unconsumed_cases hpos h2 hgrant2 hfree2 with ⟨-, hhash2, -⟩ | hold2
    · rw [hhash1, hhash2]
    · exact absurd hold2 (hmixed hash₂ token₂ hkey1 hnew1 hgrant2 hfree2)
  rcases unconsumed_cases hpos h2 hgrant2 hfree2 with ⟨hnew2, hhash2, hkey2⟩ | hold2
  · exact absurd hold1 (hmixed hash₁ token₁ hkey2 hnew2 hgrant1 hfree1)
  · exact hfamily.single hash₁ hash₂ token₁ token₂ hold1.1 hold2.1 hgrant1 hgrant2 hfree1 hfree2

/-- A mutation of any grant keeps the family of each. -/
lemma MutationResult.family (hid : id ≠ "") (hresult : MutationResult p r key m out)
    (hnext : m.nextRefreshHash ≠ "" → m.operation = .redeem ∨ m.operation = .rotate) : Family id out.2 := by
  have honward := hresult.onward
  cases hresult with
  | refused err => exact hfamily
  | applied hcurrent hpos hmutated hfree hcode => exact hfamily.applied hid hnext hcurrent hpos hmutated hfree hcode
  | replayed err hcurrent hpos hreplayed hcode =>
    refine ⟨honward.named hfamily, hfamily.coded_commit hid hcode, fun hash token hlookup hgrant => ?_, hfamily.single⟩
    obtain ⟨hhash, hlen, happroved⟩ := hfamily.issued hash token hlookup hgrant
    exact ⟨hhash, hlen, honward.approved happroved⟩

/-- A step that only ends grants keeps the family of each. -/
lemma Family.of_revoked (hgrants : r.agentAuthorizations.Pointwise AgentAuthorization.RevokedTo r'.agentAuthorizations)
    (honward : Onward r r') (hcodes : r'.agentOAuthCodes = r.agentOAuthCodes)
    (hrefresh : r'.agentOAuthRefresh = r.agentOAuthRefresh) : Family id r' := by
  refine ⟨honward.named hfamily, fun g' hg' hcoded => ?_, fun hash token hlookup hgrant => ?_, ?_⟩
  · obtain ⟨g, hg, hrevoked⟩ := hgrants.lookup_some_inv hg'
    grind [hrevoked.eq_with]
  · rw [hrefresh] at hlookup
    obtain ⟨hhash, hlen, hbefore⟩ := hfamily.issued hash token hlookup hgrant
    exact ⟨hhash, hlen, honward.approved hbefore⟩
  · rw [hrefresh]
    exact hfamily.single

end

/-- A mutation of a machine ends children of it and touches no code and no refresh
    record. -/
lemma mutateAgentMachine_revokes (r : Repo) (p : Platform) (key : String) (m : AgentMachineMutation) :
    r.agentAuthorizations.Pointwise AgentAuthorization.RevokedTo (r.mutateAgentMachine p key m).2.agentAuthorizations ∧
      (r.mutateAgentMachine p key m).2.agentOAuthCodes = r.agentOAuthCodes ∧
      (r.mutateAgentMachine p key m).2.agentOAuthRefresh = r.agentOAuthRefresh := by
  have hrefl := GoMap.Pointwise.refl AgentAuthorization.RevokedTo.refl r.agentAuthorizations
  unfold Repo.mutateAgentMachine
  split
  · exact ⟨hrefl, rfl, rfl⟩
  · grind [applyAgentMachineMutation_ok, revokeGrants_revokeOnly]

end

/-- The code of the authorization has been redeemed. -/
@[grind =]
def CodeUsed (id : String) (r : Repo) : Prop :=
  ∃ g, r.agentAuthorizations.lookup id = some g ∧ g.codeUsedAtMs ≠ 0

/-- The refresh credential of this hash has been rotated. -/
@[grind =]
def Consumed (hash : String) (r : Repo) : Prop :=
  ∃ token, r.agentOAuthRefresh.lookup hash = some token ∧ token.consumedAtMs ≠ 0

/-- The authorization has been ended. -/
@[grind =]
def Revoked (id : String) (r : Repo) : Prop :=
  ∃ g, r.agentAuthorizations.lookup id = some g ∧ g.revokedAtMs ≠ 0

section
variable {id hash : String}

lemma Onward.codeUsed (h : Onward r r') (hused : CodeUsed id r) : CodeUsed id r' := by grind [h.grants.lookup_some]

lemma Onward.revoked (h : Onward r r') (hrevoked : Revoked id r) : Revoked id r' := by grind [h.grants.lookup_some]

lemma Onward.consumed (h : Onward r r') (hconsumed : Consumed hash r) : Consumed hash r' := by grind

/-- Operations that use a grant, as opposed to deciding on it or ending it. -/
def usesGrant : AgentOAuthOperation → Bool
  | .redeem | .rotate | .validate => true
  | _ => false

section
variable (hresult : MutationResult p r id m (.ok next, r'))
include hresult

/-- A redemption the store accepts finds the code unused and leaves it used. -/
lemma MutationResult.redeem_once (hop : m.operation = .redeem) : ¬ CodeUsed id r ∧ CodeUsed id r' := by
  cases hresult with
  | applied hcurrent hpos hmutated hfree hcode =>
    cases hmutated with
    | redeem _ hadmits hconsented hunused hcodeHash hnext =>
      constructor
      · grind
      refine ⟨_, (congrArg _ (commitRefresh_grants _ id m)).trans (lookup_insert _), ?_⟩
      dsimp only
      omega
    | revoke hother | revokedBefore hother | deny hother | approve hother | validate hother | rotate _ hother =>
      cases hop.symm.trans hother

/-- A rotation the store accepts finds the presented credential unconsumed and leaves
    it consumed. -/
lemma MutationResult.rotate_once (hop : m.operation = .rotate) :
    ¬ Consumed m.refreshHash r ∧ Consumed m.refreshHash r' := by
  cases hresult with
  | applied hcurrent hpos hmutated hfree hcode =>
    cases hmutated with
    | rotate token _ hadmits hconsented hrefresh hhash hgrant hunconsumed hnext =>
      constructor
      · grind
      refine ⟨{ token with consumedAtMs := m.atMs }, ?_, by dsimp only; omega⟩
      rw [lookup_commitRefresh]
      have hother : ¬ (m.nextRefreshHash ≠ "" ∧ m.refreshHash = m.nextRefreshHash) := by grind
      rw [if_neg hother, if_pos ⟨hop, rfl⟩]
      exact congrArg _ hrefresh
    | revoke hother | revokedBefore hother | deny hother | approve hother | validate hother | redeem hother =>
      cases hop.symm.trans hother

/-- No use of a revoked grant is accepted. -/
lemma MutationResult.not_revoked (huses : usesGrant m.operation = true) : ¬ Revoked id r := by
  cases hresult with
  | @applied current _ hcurrent hpos hmutated hfree hcode =>
    have hlive : current.revokedAtMs = 0 := by
      cases hmutated with
      | redeem _ hadmits | rotate _ _ hadmits | validate _ hadmits => exact hadmits.live
      | revoke hop | revokedBefore hop | deny hop | approve hop => rw [hop] at huses; cases huses
    grind

end

/-- Presenting a consumed credential ends the grant, although the answer is an error. -/
lemma mutateAgentAuthorization_replay (hfamily : Family id r) (hpos : 0 < m.atMs) (hop : m.operation = .rotate)
    (htoken : r.agentOAuthRefresh.lookup m.refreshHash = some token)
    (hgrant : token.authorizationID = id) (hconsumed : token.consumedAtMs ≠ 0)
    (hg : r.agentAuthorizations.lookup id = some g) (hunexpired : m.atMs < g.grantExpiresAtMs)
    (hvalid : (r.mutationAuthority g m).valid p g = true)
    (hfingerprint : (r.mutationAuthority g m).fingerprint p = m.authorityFingerprint) :
    (∃ err, (r.mutateAgentAuthorization p id m).1 = .error err) ∧
      Revoked id (r.mutateAgentAuthorization p id m).2 := by
  obtain ⟨hhash, hlen, g', hg', happroved, hused, hconsented⟩ := hfamily.issued _ token htoken hgrant
  rw [hg] at hg'
  cases hg'
  have hnamed : g.id = id := hfamily.named id g hg
  unfold Repo.mutateAgentAuthorization
  simp only [hg]
  by_cases hlive : g.revokedAtMs = 0
  · have happly : applyAgentOAuthMutation p g (r.mutationAuthority g m) (r.agentOAuthRefresh.lookup m.refreshHash) m =
        .replayed { g with revokedAtMs := m.atMs, revision := g.revision + 1 } (.sentinel .agentOAuthGrant) := by
      simp [applyAgentOAuthMutation, applyAgentOAuthRotate, hop, hlive, happroved, hvalid, hfingerprint, hconsented,
        htoken, hashEqual, hhash, hlen, hgrant, hnamed, hconsumed, Int.not_le.mpr hpos, Int.not_le.mpr hunexpired]
    have hcode : r.codeTaken id g.codeHash = false := by
      by_cases hcoded : g.codeHash = ""
      · simp [codeTaken, hcoded]
      · simp [codeTaken, hfamily.coded g hg hcoded]
    simp only [happly, hcode]
    exact ⟨⟨_, rfl⟩, _, lookup_insert _, by dsimp only; omega⟩
  have happly : applyAgentOAuthMutation p g (r.mutationAuthority g m) (r.agentOAuthRefresh.lookup m.refreshHash) m =
      .refused (.sentinel .agentOAuthGrant) := by
    simp [applyAgentOAuthMutation, hop, hlive]
  simp only [happly]
  exact ⟨⟨_, rfl⟩, g, hg, hlive⟩

end

/-- An authorization for which no refresh credential has been issued yet, in a store
    that files every grant under its own id and indexes its code. -/
@[grind]
structure Unissued (id : String) (r : Repo) : Prop where
  id_ne : id ≠ ""
  named : ∀ key g, r.agentAuthorizations.lookup key = some g → g.id = key
  coded : ∀ g, r.agentAuthorizations.lookup id = some g → g.codeHash ≠ "" →
    r.agentOAuthCodes.lookup g.codeHash = some id
  unissued : ∀ hash token, r.agentOAuthRefresh.lookup hash = some token → token.authorizationID ≠ id

lemma Unissued.family (hunissued : Unissued id r) : Family id r where
  named := hunissued.named
  coded := hunissued.coded
  issued hash token hlookup hgrant := absurd hgrant (hunissued.unissued hash token hlookup)
  single hash1 _ token1 _ hlookup _ hgrant := absurd hgrant (hunissued.unissued hash1 token1 hlookup)

lemma validateAgentAuthorization_uncoded
    (hvalid : validateAgentAuthorization request = .ok ()) : request.id ≠ "" ∧ request.codeHash = "" := by
  constructor
  · intro hid
    simp [validateAgentAuthorization, validOAuthClientID, hid] at hvalid
  · by_contra hcode
    simp [validateAgentAuthorization, hcode] at hvalid

/-- A newly created authorization is unissued. -/
lemma createAgentAuthorization_unissued {r : Repo} (request : AgentAuthorization)
    (hnamed : ∀ key g, r.agentAuthorizations.lookup key = some g → g.id = key)
    (hunissued : ∀ hash token, r.agentOAuthRefresh.lookup hash = some token → token.authorizationID ≠ request.id)
    (hcreated : (r.createAgentAuthorization p request).1 = .ok ()) :
    Unissued request.id (r.createAgentAuthorization p request).2 := by
  unfold createAgentAuthorization at hcreated ⊢
  split at hcreated
  · cases hcreated
  · grind [validateAgentAuthorization_uncoded]

end identity.memory
