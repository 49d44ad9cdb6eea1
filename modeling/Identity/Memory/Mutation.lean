import Identity.Memory.AgentOAuth

open identity.service
namespace identity.service

/-- A live, approved grant whose authority is the one the mutation was admitted on. -/
@[grind]
structure AgentAuthorization.Admits (p : Platform) (current : AgentAuthorization)
    (authority : AgentOAuthAuthority) (m : AgentOAuthMutation) : Prop where
  live : current.revokedAtMs = 0
  approved : current.decision = .approved
  unexpired : current.machineID = "" → m.atMs < current.grantExpiresAtMs
  valid : authority.valid p current = true
  fingerprint : authority.fingerprint p = m.authorityFingerprint

/-- What each operation writes when it is not refused. -/
inductive AgentAuthorization.Mutated (p : Platform) (current : AgentAuthorization)
    (authority : AgentOAuthAuthority) (refresh : Option AgentOAuthRefresh) (m : AgentOAuthMutation) :
    AgentAuthorization → Prop
  | revoke (hop : m.operation = .revoke) (howner : m.ownerID = current.ownerID)
      (hlive : current.revokedAtMs = 0) :
      Mutated p current authority refresh m
        { current with revokedAtMs := m.atMs, revision := current.revision + 1 }
  | revokedBefore (hop : m.operation = .revoke) (howner : m.ownerID = current.ownerID)
      (hrevoked : current.revokedAtMs ≠ 0) : Mutated p current authority refresh m current
  | deny (hop : m.operation = .deny) (hlive : current.revokedAtMs = 0) (hpending : current.decision = .pending) :
      Mutated p current authority refresh m
        { current with
          ownerID := m.ownerID
          humanSID := m.humanSID
          decision := .denied
          revision := current.revision + 1 }
  | approve (hop : m.operation = .approve) (hlive : current.revokedAtMs = 0)
      (hpending : current.decision = .pending)
      (hvalid : authority.valid p
        { current with ownerID := m.ownerID, agentID := m.agentID, humanSID := m.humanSID } = true)
      (hcode : strings.len m.codeHash = 64) :
      Mutated p current authority refresh m
        { current with
          ownerID := m.ownerID
          agentID := m.agentID
          humanSID := m.humanSID
          decision := .approved
          consentAtMs := m.atMs
          grantExpiresAtMs := m.grantExpiresAtMs
          codeHash := m.codeHash
          codeExpiresAtMs := m.codeExpiresAtMs
          revision := current.revision + 1 }
  | validate (hop : m.operation = .validate) (hadmits : current.Admits p authority m) :
      Mutated p current authority refresh m current
  | redeem (hop : m.operation = .redeem) (hadmits : current.Admits p authority m)
      (hconsented : current.machineID = "") (hunused : current.codeUsedAtMs = 0)
      (hcode : current.codeHash = m.codeHash)
      (hnext : m.nextRefreshHash = "" ∨ strings.len m.nextRefreshHash = 64) :
      Mutated p current authority refresh m
        { current with
          codeUsedAtMs := m.atMs
          sessionID := m.sessionID
          revision := current.revision + 1 }
  | rotate (token : AgentOAuthRefresh) (hop : m.operation = .rotate) (hadmits : current.Admits p authority m)
      (hconsented : current.machineID = "") (hrefresh : refresh = some token)
      (hhash : token.hash = m.refreshHash) (hgrant : token.authorizationID = current.id)
      (hunconsumed : token.consumedAtMs = 0) (hnext : strings.len m.nextRefreshHash = 64) :
      Mutated p current authority refresh m { current with revision := current.revision + 1 }

/-- A refresh credential was presented a second time. -/
@[grind]
structure AgentAuthorization.Replayed (p : Platform) (current : AgentAuthorization)
    (authority : AgentOAuthAuthority) (refresh : Option AgentOAuthRefresh) (m : AgentOAuthMutation)
    (next : AgentAuthorization) : Prop where
  operation : m.operation = .rotate
  admits : current.Admits p authority m
  consented : current.machineID = ""
  consumed : ∃ token, refresh = some token ∧ token.hash = m.refreshHash ∧
    token.authorizationID = current.id ∧ token.consumedAtMs ≠ 0
  next_eq : next = { current with revokedAtMs := m.atMs, revision := current.revision + 1 }

/-- An outcome that writes only what the operation allows. -/
def AgentOAuthOutcome.Sound (p : Platform) (current : AgentAuthorization) (authority : AgentOAuthAuthority)
    (refresh : Option AgentOAuthRefresh) (m : AgentOAuthMutation) : AgentOAuthOutcome → Prop
  | .refused _ => True
  | .applied next => 0 < m.atMs ∧ current.Mutated p authority refresh m next
  | .replayed next _ => 0 < m.atMs ∧ current.Replayed p authority refresh m next

section

lemma applyAgentOAuthConsent_sound (hpos : 0 < m.atMs) (hop : m.operation = .approve ∨ m.operation = .deny)
    (hlive : current.revokedAtMs = 0) :
    (applyAgentOAuthConsent p current authority m).Sound p current authority refresh m := by
  unfold applyAgentOAuthConsent
  split
  · trivial
  rename_i hguard
  simp only [Bool.or_eq_true, decide_eq_true_eq, not_or, not_not] at hguard
  have hpending := hguard.1.1
  split
  · rename_i hdeny
    split
    · trivial
    · exact ⟨hpos, .deny hdeny hlive hpending⟩
  rename_i hnotDeny
  dsimp only
  split
  · trivial
  rename_i hchecks
  simp only [Bool.or_eq_true, Bool.not_eq_true', not_or, bne_iff_ne, ne_eq, not_not, Bool.not_eq_false] at hchecks
  exact ⟨hpos, .approve (hop.resolve_right hnotDeny) hlive hpending hchecks.1.1.1.1.1 hchecks.2⟩

lemma hashEqual_eq (hequal : hashEqual left right = true) :
    left = right ∧ strings.len right = 64 := by
  simp only [hashEqual, Bool.and_eq_true, beq_iff_eq] at hequal
  exact ⟨hequal.2, hequal.2 ▸ hequal.1⟩

lemma validAgentOAuthRefresh_len (hvalid : validAgentOAuthRefresh m current = true) :
    strings.len m.nextRefreshHash = 64 := by
  simp only [validAgentOAuthRefresh, Bool.and_eq_true, beq_iff_eq] at hvalid
  exact hvalid.1.1

lemma applyAgentOAuthRedeem_sound (hpos : 0 < m.atMs) (hop : m.operation = .redeem)
    (hadmits : current.Admits p authority m) (hconsented : current.machineID = "") :
    (applyAgentOAuthRedeem current authority m).Sound p current authority refresh m := by
  unfold applyAgentOAuthRedeem
  split
  · trivial
  rename_i hguard
  simp only [Bool.or_eq_true, decide_eq_true_eq, not_or, ne_eq, not_not, Bool.not_eq_true',
    Bool.not_eq_false] at hguard
  split
  · trivial
  refine ⟨hpos, .redeem hop hadmits hconsented hguard.1.1.1 (hashEqual_eq hguard.1.2).1 ?_⟩
  grind [validAgentOAuthRefresh_len]

lemma applyAgentOAuthRotate_sound (hpos : 0 < m.atMs) (hop : m.operation = .rotate)
    (hadmits : current.Admits p authority m) (hconsented : current.machineID = "") :
    (applyAgentOAuthRotate current refresh m).Sound p current authority refresh m := by
  unfold applyAgentOAuthRotate
  split
  · trivial
  rename_i token
  split
  · trivial
  rename_i hpresented
  simp only [Bool.or_eq_true, decide_eq_true_eq, not_or, ne_eq, not_not, Bool.not_eq_true',
    Bool.not_eq_false] at hpresented
  have hhash := (hashEqual_eq hpresented.1).1
  split
  · rename_i hconsumed
    exact ⟨hpos, hop, hadmits, hconsented, ⟨token, rfl, hhash, hpresented.2, hconsumed⟩, rfl⟩
  rename_i hunconsumed
  split
  · trivial
  rename_i hguard
  simp only [Bool.or_eq_true, not_or, Bool.not_eq_true', Bool.not_eq_false] at hguard
  exact ⟨hpos, .rotate token hop hadmits hconsented rfl hhash hpresented.2 (not_not.mp hunconsumed)
    (validAgentOAuthRefresh_len hguard.2)⟩

variable (p current authority refresh m) in
/-- The transition function does nothing but what the operation allows. -/
lemma applyAgentOAuthMutation_sound :
    (applyAgentOAuthMutation p current authority refresh m).Sound p current authority refresh m := by
  unfold applyAgentOAuthMutation
  split
  · trivial
  have hpos : 0 < m.atMs := by omega
  split
  · rename_i hop
    split
    · trivial
    rename_i howner
    simp only [Bool.or_eq_true, decide_eq_true_eq, not_or, not_not] at howner
    split
    · rename_i hlive
      exact ⟨hpos, .revoke hop howner.2 hlive⟩
    · rename_i hrevoked
      exact ⟨hpos, .revokedBefore hop howner.2 hrevoked⟩
  split
  · trivial
  rename_i hlive
  rw [not_not] at hlive
  split
  · rename_i hop
    simp only [Bool.or_eq_true, decide_eq_true_eq] at hop
    exact applyAgentOAuthConsent_sound hpos hop hlive
  split
  · trivial
  rename_i hchecks
  simp only [Bool.or_eq_true, Bool.not_eq_true', not_or, bne_iff_ne, ne_eq, not_not,
    Bool.not_eq_false, decide_eq_true_eq, Bool.and_eq_true, beq_iff_eq, not_and,
    Int.not_le] at hchecks
  have hadmits : current.Admits p authority m := ⟨hlive, hchecks.1.1.1, hchecks.1.1.2, hchecks.1.2, hchecks.2⟩
  split
  · trivial
  split
  · rename_i hop
    exact ⟨hpos, .validate hop hadmits⟩
  · grind [applyAgentOAuthRedeem_sound]
  · grind [applyAgentOAuthRotate_sound]
  · trivial

end

/-- What no write to a grant undoes: its names, the use of its code, the terms it
    was approved under, and its revocation. -/
@[grind]
structure AgentAuthorization.Follows (g g' : AgentAuthorization) : Prop where
  id : g'.id = g.id
  machineID : g'.machineID = g.machineID
  used : g.codeUsedAtMs ≠ 0 → g'.codeUsedAtMs ≠ 0
  approved : g.decision = .approved → g'.decision = .approved ∧ g'.grantExpiresAtMs = g.grantExpiresAtMs ∧
    g'.codeHash = g.codeHash
  revoked : g.revokedAtMs ≠ 0 → g'.revokedAtMs ≠ 0

variable (g : AgentAuthorization)

lemma AgentAuthorization.Follows.refl : g.Follows g := ⟨rfl, rfl, fun h => h, fun h => ⟨h, rfl, rfl⟩, fun h => h⟩

lemma AgentAuthorization.follows_of_revoked (hpos : 0 < atMs) (revision : Int) :
    g.Follows { g with revokedAtMs := atMs, revision := revision } :=
  ⟨rfl, rfl, fun h => h, fun h => ⟨h, rfl, rfl⟩, fun _ => by dsimp only; omega⟩

lemma AgentAuthorization.RevokedTo.follows {g g' : AgentAuthorization} (h : g.RevokedTo g') : g.Follows g' := by
  obtain rfl | ⟨-, atMs, hpos, rfl⟩ := h
  · exact .refl g'
  · exact g.follows_of_revoked hpos _

variable {refresh : Option AgentOAuthRefresh}

lemma AgentAuthorization.Mutated.follows {current next : AgentAuthorization}
    (hmutated : current.Mutated p authority refresh m next) (hpos : 0 < m.atMs) : current.Follows next := by
  cases hmutated with
  | revoke hop howner hlive => exact current.follows_of_revoked hpos _
  | revokedBefore | validate => exact .refl current
  | deny hop hlive hpending | approve hop hlive hpending =>
    exact ⟨rfl, rfl, fun h => h, fun h => (nomatch hpending.symm.trans h), fun h => h⟩
  | redeem hop hadmits hconsented hunused hcode hnext =>
    exact ⟨rfl, rfl, fun h => absurd hunused h, fun h => ⟨h, rfl, rfl⟩, fun h => h⟩
  | rotate token hop hadmits hconsented hrefresh hhash hgrant hunconsumed hnext =>
    exact ⟨rfl, rfl, fun h => h, fun h => ⟨h, rfl, rfl⟩, fun h => h⟩

lemma AgentAuthorization.Replayed.follows {current next : AgentAuthorization}
    (hreplayed : current.Replayed p authority refresh m next) (hpos : 0 < m.atMs) : current.Follows next := by
  rw [hreplayed.next_eq]
  exact current.follows_of_revoked hpos _

/-- A mutation keeps what the machine's children copy from it. -/
lemma applyAgentMachineMutation_ok (happly : applyAgentMachineMutation current mutation = .ok next) :
    0 < mutation.atMs ∧ ∃ m, current = some m ∧ next.id = m.id ∧ next.ownerID = m.ownerID ∧
      next.clientID = m.clientID ∧ next.clientRevision = m.clientRevision ∧ next.resource = m.resource ∧
      next.product = m.product ∧ next.scopes = m.scopes ∧ next.publicKey = m.publicKey ∧
      (next.revokedAtMs = 0 → m.revokedAtMs = 0) := by
  unfold applyAgentMachineMutation at happly
  split at happly
  · cases happly
  split_ifs at happly with howner hclock hrevoke hlive hselect hrevoked hrevision
  all_goals cases happly
  all_goals exact ⟨by omega, _, rfl, rfl, rfl, rfl, rfl, rfl, rfl, rfl, rfl, by first | exact id | (dsimp only; omega)⟩

end identity.service

namespace identity.memory

/-- The three ways a mutation of a stored grant can end. -/
inductive MutationResult (p : Platform) (r : Repo) (id : String) (m : AgentOAuthMutation) :
    Except Err AgentAuthorization × Repo → Prop
  | refused (err : Err) : MutationResult p r id m (.error err, r)
  | applied {current next : AgentAuthorization} (hcurrent : r.agentAuthorizations.lookup id = some current)
      (hpos : 0 < m.atMs)
      (hmutated : current.Mutated p (r.mutationAuthority current m) (r.agentOAuthRefresh.lookup m.refreshHash) m next)
      (hfree : m.nextRefreshHash = "" ∨ r.agentOAuthRefresh.lookup m.nextRefreshHash = none)
      (hcode : r.codeTaken id next.codeHash = false) :
      MutationResult p r id m (.ok next, (r.commitAuthorization id next).commitRefresh id m)
  | replayed {current next : AgentAuthorization} (err : Err)
      (hcurrent : r.agentAuthorizations.lookup id = some current) (hpos : 0 < m.atMs)
      (hreplayed : current.Replayed p (r.mutationAuthority current m)
        (r.agentOAuthRefresh.lookup m.refreshHash) m next)
      (hcode : r.codeTaken id next.codeHash = false) :
      MutationResult p r id m (.error err, r.commitAuthorization id next)

lemma mutateAgentAuthorization_result (p : Platform) (r : Repo) (id : String) (m : AgentOAuthMutation) :
    MutationResult p r id m (r.mutateAgentAuthorization p id m) := by
  unfold Repo.mutateAgentAuthorization
  split
  · exact .refused _
  rename_i current hcurrent
  have hsound := applyAgentOAuthMutation_sound p current (r.mutationAuthority current m)
    (r.agentOAuthRefresh.lookup m.refreshHash) m
  split
  · exact .refused _
  · rename_i next happly
    rw [happly] at hsound
    split
    · exact .refused _
    rename_i hfree
    split
    · exact .refused _
    rename_i hcode
    refine .applied hcurrent hsound.1 hsound.2 ?_ (by simpa using hcode)
    by_cases hnone : m.nextRefreshHash = ""
    · exact .inl hnone
    · exact .inr (by simpa [hnone] using hfree)
  rename_i next err happly
  rw [happly] at hsound
  split
  · exact .refused _
  · rename_i hcode
    exact .replayed err hcurrent hsound.1 hsound.2 (by simpa using hcode)

/-- The refresh table after a commit: the new record, the presented one consumed,
    everything else as before. -/
lemma lookup_commitRefresh (r : Repo) (id : String) (m : AgentOAuthMutation) (hash : String) :
    (r.commitRefresh id m).agentOAuthRefresh.lookup hash =
      if m.nextRefreshHash ≠ "" ∧ hash = m.nextRefreshHash then
        some { hash := m.nextRefreshHash, authorizationID := id, expiresAtMs := m.refreshExpiresAtMs }
      else if m.operation = .rotate ∧ hash = m.refreshHash then
        (r.agentOAuthRefresh.lookup hash).map fun token => { token with consumedAtMs := m.atMs }
      else r.agentOAuthRefresh.lookup hash := by
  unfold Repo.commitRefresh
  by_cases hnext : m.nextRefreshHash = ""
  · grind
  · grind

end identity.memory
