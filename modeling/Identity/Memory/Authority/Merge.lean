import Identity.Memory.Authority.Sustains
import Identity.Memory.Frame

open identity.service
namespace identity.memory
open GoMap
open Nat (le_succ lt_succ_self)
open Sustains (refl)

/-- Overwriting a row and revoking what was lost sustains authority, whatever the
    new row says. -/
lemma writeUser_sustains (hkeyed : Keyed r)
    (hu : r.users.lookup userID = some u) (hid : after.id = u.id) (hpos : 0 < atMs) :
    Sustains r (r.writeUser userID u after atMs) := by
  have hrevoke := revokeAgentOAuthUserLocked_revokeOnly
    { r with users := r.users.insert userID after } (some u) (some after) hpos
  have husers : (r.writeUser userID u after atMs).users = r.users.insert userID after := by
    rw [Repo.writeUser, hrevoke.frame]
  refine
    { grants := hrevoke.grants
      machines := hrevoke.machines
      orphans := hrevoke.orphans
      registrations := by rw [Repo.writeUser, hrevoke.frame]
      users := ?_
      sessions := fun key s hs _ => .inl (by rw [Repo.writeUser, hrevoke.frame]; exact hs)
      clients := fun id c hc => .inl ⟨c, by rw [Repo.writeUser, hrevoke.frame]; exact hc, rfl⟩
      seq_le := by rw [Repo.writeUser, hrevoke.frame]
      new_users := ?_
      new_sessions := fun key s' hs' => .inl ⟨s', by rw [Repo.writeUser, hrevoke.frame] at hs'; exact hs'⟩ }
  · intro id user huser
    rw [husers, lookup_insert_eq]
    obtain rfl | hne := eq_or_ne id userID
    · rw [hu] at huser
      cases huser
      cases hlost : agentOAuthAuthorityLost (some u) (some after) with
      | false => exact .inl ⟨after, by rw [if_pos rfl], hlost⟩
      | true =>
        have hrevoked := revokeAgentOAuthUserLocked_revokes
          { r with users := r.users.insert id after } hpos hlost
        rw [hkeyed.users id u hu] at hrevoked
        exact .inr hrevoked
    · exact .inl ⟨user, by rw [if_neg hne]; exact huser, authority_kept_self user⟩
  · grind

/-- A new row under a name no row has takes nothing away. -/
lemma insertNewUser_sustains (hnone : r.users.lookup key = none) (hid : u.id = key) (hseq : r.seq ≤ seq)
    (hname : (∃ n, r.seq < n ∧ n ≤ seq ∧ key = memID n) ∨ ∀ n, key ≠ memID n) :
    Sustains r { r with seq := seq, users := r.users.insert key u } := by
  refine { refl r with users := ?_, new_users := ?_, seq_le := hseq, new_sessions := ?_ }
  · grind [authority_kept_self]
  · grind
  · exact fun query s' hs' => .inl ⟨s', hs'⟩

lemma fenceAgentCreations_sustains (r : Repo) (userID : String) (before after : User) :
    Sustains r (r.fenceAgentCreations userID before after) := by
  unfold Repo.fenceAgentCreations
  split
  · exact sustains_of_eq rfl rfl rfl rfl rfl rfl le_rfl
  · rfl

lemma UserWrite.sustains (h : UserWrite r userID atMs r') (hkeyed : Keyed r) (hpos : 0 < atMs) :
    Sustains r r' := by
  cases h with
  | same => rfl
  | touch hu hid hkept =>
    -- no authority rests on these columns
    refine { refl r with users := ?_, new_users := ?_ }
    · grind [authority_kept_self]
    · grind
  | write hu hid => exact writeUser_sustains hkeyed hu hid hpos
  | @fenced u after hu hid =>
    have hfence := fenceAgentCreations_sustains r userID u after
    refine hfence.trans (writeUser_sustains (hfence.keyed hkeyed) ?_ hid hpos)
    rwa [fenceAgentCreations_users]

lemma recordCreation_sustains (r : Repo) (request : AgentCreation) (agentID : String) :
    Sustains r (r.recordCreation request agentID) := by
  unfold Repo.recordCreation
  split
  · rfl
  · exact sustains_of_eq rfl rfl rfl rfl rfl rfl le_rfl

/-- A loop of steps that sustain authority sustains it. Each step may rely on a fact
    that sustaining steps keep. -/
lemma foldl_sustains {step : Repo → α → Repo} (fact : Repo → Prop)
    (hkeeps : ∀ r r', Sustains r r' → fact r → fact r') (hstep : ∀ r x, fact r → Sustains r (step r x))
    (visited : List α) (hfact : fact r) : Sustains r (visited.foldl step r) := by
  induction visited generalizing r with
  | nil => rfl
  | cons x rest ih => exact (hstep r x hfact).trans (ih (hkeeps _ _ (hstep r x hfact) hfact))

/-- The user's consented grants have been revoked. -/
@[grind =]
def OwnerRevoked (userID : String) (r : Repo) : Prop :=
  GrantsRevoked (fun g => g.decision == .approved && g.machineID == "" && g.ownerID == userID) r

/-- A missing user owns no live consented grant. -/
lemma Supported.ownerRevoked_of_missing (h : Supported r)
    (hnone : r.users.lookup userID = none) : OwnerRevoked userID r := by
  intro key g hg hp hlive
  simp only [Bool.and_eq_true, beq_iff_eq] at hp
  obtain ⟨owner, howner, -⟩ := (h.grants key g hg hp.1.1 hlive hp.1.2).owner
  rw [hp.2, hnone] at howner
  cases howner

lemma drainUserTables_sustains (hrevoked : OwnerRevoked userID r) : Sustains r (r.drainUserTables userID) := by
  refine { refl r with sessions := ?_, new_sessions := ?_ }
  · intro key s hs hlive
    by_cases heq : s.userID = userID
    · right
      intro gkey g hg hp
      simp only [Bool.and_eq_true, beq_iff_eq] at hp
      exact hrevoked gkey g hg (by simp [hp.1.1.1, hp.1.1.2, hp.2, heq])
    · exact .inl (lookup_keep_eq_some.mpr ⟨hs, by simpa using heq⟩)
  · intro key s' hs'
    exact .inl ⟨s', (lookup_keep_eq_some.mp hs').1⟩

lemma drainGuardianEdges_sustains (r : Repo) (hpos : 0 < now) (userID : String) :
    Sustains r (r.drainGuardianEdges now userID) := by
  refine foldl_sustains (fun _ => True) (fun _ _ _ _ => trivial) (fun r' entry _ => ?_) _ trivial
  refine (revokeAgentOAuthOwnerLocked_revokeOnly r' entry.2.childUserID hpos).sustains.trans ?_
  exact sustains_of_eq rfl rfl rfl rfl rfl rfl le_rfl

lemma drainGuardianEdges_users (r : Repo) (hpos : 0 < now) (userID : String) :
    (r.drainGuardianEdges now userID).users = r.users := by
  unfold Repo.drainGuardianEdges
  induction r.guardianEdges.entries.filter _ generalizing r with
  | nil => rfl
  | cons entry rest ih => grind [revokeAgentOAuthOwnerLocked_revokeOnly]

lemma eraseUser_sustains (h : UserRevoked userID r ∨ r.users.lookup userID = none) :
    Sustains r { r with users := r.users.erase userID } := by
  refine { refl r with users := ?_, new_users := ?_ }
  · grind [authority_kept_self]
  · grind

/-- The first half of a deletion leaves the user nothing that is live. -/
lemma revokeDeletedUser (hinv : Inv r) (hpos : 0 < now) (userID : String) :
    OwnerRevoked userID (r.revokeAgentOAuthUserLocked (r.users.lookup userID) none now) ∧
      (UserRevoked userID (r.revokeAgentOAuthUserLocked (r.users.lookup userID) none now) ∨
        r.users.lookup userID = none) := by
  cases hu : r.users.lookup userID with
  | none => exact ⟨hinv.supported.ownerRevoked_of_missing hu, .inr rfl⟩
  | some u =>
    have hlost : UserRevoked u.id (r.revokeAgentOAuthUserLocked (some u) none now) :=
      revokeAgentOAuthUserLocked_revokes r hpos rfl
    grind

lemma deleteUserLocked_sustains (hinv : Inv r) (hpos : 0 < now) (userID : String) :
    Sustains r (r.deleteUserLocked now userID) := by
  have hfence : Sustains r (r.invalidateAgentCreations userID) := sustains_of_eq rfl rfl rfl rfl rfl rfl le_rfl
  have hrevoke := revokeAgentOAuthUserLocked_revokeOnly (r.invalidateAgentCreations userID)
    ((r.invalidateAgentCreations userID).users.lookup userID) none hpos
  obtain ⟨howner, huser⟩ := revokeDeletedUser (hfence.advances hinv).inv hpos userID
  have hdrain := (drainUserTables_sustains howner).trans (drainGuardianEdges_sustains _ hpos userID)
  refine (hfence.trans (hrevoke.sustains.trans hdrain)).trans (eraseUser_sustains ?_)
  obtain hlost | hnone := huser
  · exact .inl (hlost.of_sustains hdrain)
  · grind [drainGuardianEdges_users, Repo.drainUserTables]

section
variable (r : Repo)

/-- Ending a session row ends the grants consented in it. -/
lemma revokeSessionRow_sustains (key : String) (hpos : 0 < atMs) :
    Sustains r (r.revokeSessionRow key atMs) := by
  unfold Repo.revokeSessionRow
  split
  · rfl
  rename_i s hs
  split
  · have hrevoke := revokeAgentOAuthSIDLocked_revokeOnly
      { r with sessions := r.sessions.insert key { s with revokedAtMs := atMs } } s.sid hpos
    refine { hrevoke.sustains with sessions := ?_, new_sessions := ?_ }
    · intro query row hrow hlive
      obtain rfl | hne := eq_or_ne query key
      · rw [hs] at hrow
        cases hrow
        right
        intro gkey g hg hp
        simp only [Bool.and_eq_true] at hp
        exact revokeGrants_grantsRevoked _ _ hpos gkey g hg (by simp [hp.1.1.2, hp.1.2])
      · grind
    · grind
  · rfl

lemma deleteRefreshTokensForUser_sustains (hpos : 0 < now) (userID : String) :
    Sustains r (r.deleteRefreshTokensForUser now userID) := by
  refine foldl_sustains (fun _ => True) (fun _ _ _ _ => trivial) (fun r' entry _ => ?_) _ trivial
  exact (revokeAgentOAuthSIDLocked_revokeOnly r' entry.2.sid hpos).sustains.trans
    (sustains_of_eq rfl rfl rfl rfl rfl rfl le_rfl)

lemma createOAuthClient_sustains (p : Platform) (client : OAuthClient) :
    Sustains r (r.createOAuthClient p client).2 := by
  unfold Repo.createOAuthClient
  split
  · rfl
  split
  · rfl
  refine { refl r with clients := ?_, new_users := ?_, new_sessions := ?_ }
  · grind
  · exact fun key u' hu' => .inl ⟨u', hu', rfl⟩
  · exact fun key s' hs' => .inl ⟨s', hs'⟩

/-- A new registration of a client ends everything issued under the old one. -/
lemma updateOAuthClient_sustains (p : Platform) (id : String) (expected : Int)
    (registration : OAuthClientRegistration) (hpos : 0 < atMs) :
    Sustains r (r.updateOAuthClient p id expected registration atMs).2 := by
  unfold Repo.updateOAuthClient
  split
  · rfl
  split
  · rfl
  rename_i client hclient
  split
  · rfl
  generalize hnext : ({ client with
    registration := registration
    revision := client.revision + 1
    updatedAt := atMs } : OAuthClient) = next
  have hmachines := revokeMachines_revokeOnly { r with oauthClients := r.oauthClients.insert id next }
    (fun machine => machine.clientID == id) hpos
  have hgrants := revokeGrants_revokeOnly ({ r with oauthClients := r.oauthClients.insert id next }.revokeMachines
      (fun machine => machine.clientID == id) atMs) (fun grant => grant.clientID == id) hpos
  have hrevoke := hmachines.trans hgrants
  refine { hrevoke.sustains with clients := ?_ }
  intro key c hc
  obtain rfl | hne := eq_or_ne key id
  · exact .inr ⟨revokeGrants_grantsRevoked _ _ hpos,
      (revokeMachines_machinesRevoked _ _ hpos).of_pointwise hgrants.machines⟩
  · grind

lemma deleteGuardianEdge_sustains (hpos : 0 < now) (guardianUserID childUserID : String) :
    Sustains r (r.deleteGuardianEdge now guardianUserID childUserID) := by
  unfold Repo.deleteGuardianEdge
  dsimp only
  split
  · exact (revokeAgentOAuthOwnerLocked_revokeOnly r childUserID hpos).sustains.trans
      (sustains_of_eq rfl rfl rfl rfl rfl rfl le_rfl)
  · rfl

lemma createAgentMachineChallenge_sustains (input : AgentMachineChallenge) :
    Sustains r (r.createAgentMachineChallenge input).2 := by
  unfold Repo.createAgentMachineChallenge
  split
  · rfl
  split
  · rfl
  dsimp only
  split
  · exact sustains_of_eq rfl rfl rfl rfl rfl rfl le_rfl
  · split <;> exact sustains_of_eq rfl rfl rfl rfl rfl rfl le_rfl

lemma consumeAgentMachineChallenge_sustains (id : String) (now : Int) :
    Sustains r (r.consumeAgentMachineChallenge id now).2 := by
  unfold Repo.consumeAgentMachineChallenge
  split
  · rfl
  split
  · rfl
  · exact sustains_of_eq rfl rfl rfl rfl rfl rfl le_rfl

lemma deleteExpiredAgentMachineChallenges_sustains (before limit : Int) :
    Sustains r (r.deleteExpiredAgentMachineChallenges before limit).2 := by
  unfold Repo.deleteExpiredAgentMachineChallenges
  split
  · rfl
  · exact sustains_of_eq rfl rfl rfl rfl rfl rfl le_rfl

end

variable {r : Repo} {m : AccountMerge}

lemma revokeChangedUsers_grantsOnly (r : Repo) (before : GoMap String User) (atMs : Int) :
    GrantsOnly r (r.revokeChangedUsers before atMs) := by
  unfold Repo.revokeChangedUsers
  induction before.entries generalizing r with
  | nil => rfl
  | cons entry rest ih => grind [revokeAgentOAuthUserLocked_grantsOnly]

/-- A loop of receipt fences changes nothing but receipts. -/
lemma fences_frame (m : AccountMerge) (visited : List User) (r : Repo) :
    ∃ creations, visited.foldl (fun r' u => r'.fenceAgentCreations u.id u (m.applyToAgent u)) r =
      { r with agentCreations := creations } := by
  induction visited generalizing r with
  | nil => exact ⟨r.agentCreations, rfl⟩
  | cons u rest ih =>
    obtain ⟨creations, hrest⟩ := ih (r.fenceAgentCreations u.id u (m.applyToAgent u))
    refine ⟨creations, ?_⟩
    rw [List.foldl_cons, hrest]
    unfold Repo.fenceAgentCreations
    split <;> rfl

lemma mergeAgents_frame (r : Repo) (m : AccountMerge) : ∃ creations, r.mergeAgents m =
      { r with users := r.users.mapRows m.applyToAgent, agentCreations := creations } := by
  obtain ⟨creations, hfences⟩ := fences_frame m r.users.rows r
  exact ⟨creations, by rw [Repo.mergeAgents, hfences]⟩

lemma revokeChanged_loop (visited : List (Sigma fun _ : String => User)) (r : Repo)
    (hpos : 0 < atMs) : RevokeOnly r (visited.foldl
      (fun r' entry => r'.revokeAgentOAuthUserLocked (some entry.2) (r'.users.lookup entry.1) atMs) r) := by
  induction visited generalizing r with
  | nil => rfl
  | cons entry rest ih =>
    exact (revokeAgentOAuthUserLocked_revokeOnly r (some entry.2) (r.users.lookup entry.1) hpos).trans (ih _)

lemma revokeChangedUsers_revokeOnly (r : Repo) (before : GoMap String User) (hpos : 0 < atMs) :
    RevokeOnly r (r.revokeChangedUsers before atMs) :=
  revokeChanged_loop before.entries r hpos

/-- The deferred loop reaches every row that lost its authority. -/
lemma revokeChangedUsers_revokes (hpos : 0 < atMs)
    {id : String} (hu : before.lookup id = some u)
    (hlost : agentOAuthAuthorityLost (some u) (r.users.lookup id) = true) :
    UserRevoked u.id (r.revokeChangedUsers before atMs) := by
  have hmem := AList.mem_lookup_iff.mp hu
  unfold Repo.revokeChangedUsers
  generalize before.entries = visited at hmem
  induction visited generalizing r with
  | nil => cases hmem
  | cons entry rest ih =>
    obtain rfl | hrest := List.mem_cons.mp hmem
    · have hrevoked : UserRevoked u.id (r.revokeAgentOAuthUserLocked (some u) (r.users.lookup id) atMs) :=
        revokeAgentOAuthUserLocked_revokes r hpos hlost
      exact hrevoked.of_sustains (revokeChanged_loop rest _ hpos).sustains
    · refine ih ?_ hrest
      grind [revokeAgentOAuthUserLocked_revokeOnly]

lemma applyToAgent_id (m : AccountMerge) (u : User) : (m.applyToAgent u).id = u.id := by
  unfold AccountMerge.applyToAgent
  simp only
  split <;> split <;> rfl

lemma applyToAgent_status (m : AccountMerge) (u : User) : (m.applyToAgent u).status = u.status := by
  unfold AccountMerge.applyToAgent
  simp only
  split <;> split <;> rfl

lemma moves_id (m : AccountMerge) (survivor other : User) :
    (m.moves survivor other).1.id = survivor.id ∧ (m.moves survivor other).2.id = other.id := by
  unfold AccountMerge.moves
  cases m.moveUsername <;> cases m.movePassword <;> cases m.moveEmail <;> cases m.swapAddress <;> exact ⟨rfl, rfl⟩

/-- A retired account was active, so what rested on it is lost. -/
lemma retired_authorityLost (hmergeable : AccountMerge.mergeable o = true)
    (hstatus : other.status = statusDeactivated) : agentOAuthAuthorityLost (some o) (some (m.applyToAgent other)) =
      true := by
  simp only [AccountMerge.mergeable, Bool.and_eq_true, beq_iff_eq] at hmergeable
  simp [agentOAuthAuthorityLost, applyToAgent_status, hstatus, hmergeable.1.1, statusActive, statusDeactivated]

/-- The two rows an accepted merge writes. -/
lemma applyToUsers_eq {m : AccountMerge} (hok : m.applyToUsers (some s) (some o) = .ok (survivor, other)) :
    survivor = { (m.moves s o).1 with updatedAt := m.atMs } ∧ other = { (m.moves s o).2 with
      status := statusDeactivated, mergedIntoUserID := m.survivorID, updatedAt := m.atMs } := by
  unfold AccountMerge.applyToUsers at hok
  dsimp only at hok
  split at hok
  · cases hok
  split at hok
  · cases hok
  · cases hok
    exact ⟨rfl, rfl⟩

/-- What an accepted merge found and what it writes. -/
lemma applyToUsers_ok (hok : m.applyToUsers s o = .ok (survivor, other)) :
    ∃ s0 o0, s = some s0 ∧ o = some o0 ∧ AccountMerge.mergeable s0 = true ∧ AccountMerge.mergeable o0 = true ∧
      m.otherID ≠ m.survivorID ∧ survivor.id = s0.id ∧ other.id = o0.id ∧
      other.status = statusDeactivated ∧ other.mergedIntoUserID = m.survivorID := by
  unfold AccountMerge.applyToUsers at hok
  split at hok
  · rename_i s0 o0
    split at hok
    · cases hok
    rename_i hmergeable
    split at hok
    · cases hok
    obtain ⟨rfl, rfl⟩ := hok
    simp only [Bool.or_eq_true, beq_iff_eq, Bool.not_eq_true', not_or, Bool.not_eq_false] at hmergeable
    exact ⟨s0, o0, rfl, rfl, hmergeable.2, hmergeable.1.2, hmergeable.1.1, (moves_id m s0 o0).1,
      (moves_id m s0 o0).2, rfl, rfl⟩
  · cases hok

section
variable (r : Repo) (m : AccountMerge) (survivor other : User)

/-- The tables a merge writes, and the rows it leaves in the two that matter. -/
lemma mergeRows_frame :
    ∃ creations, r.mergeRows m survivor other =
      { r with
        users := mapRows ((r.users.insert m.survivorID survivor).insert m.otherID other) m.applyToAgent
        agentCreations := creations }.mergeSideTables m := by
  obtain ⟨creations, hagents⟩ := mergeAgents_frame
    ({ r with users := (r.users.insert m.survivorID survivor).insert m.otherID other }.invalidateAgentCreations
      m.otherID) m
  exact ⟨creations, by rw [Repo.mergeRows, hagents]; rfl⟩

lemma mergeRows_lookup_users (id : String) :
    (r.mergeRows m survivor other).users.lookup id =
      (if id = m.otherID then some other else if id = m.survivorID then some survivor
        else r.users.lookup id).map m.applyToAgent := by
  obtain ⟨creations, hframe⟩ := mergeRows_frame r m survivor other
  rw [hframe]
  simp only [Repo.mergeSideTables, lookup_mapRows, lookup_insert_eq]

end

/-- What no row loses to the moves between two accounts and to the change of its owners, no
    row loses to a merge. -/
lemma applyAccountMerge_pointwise (hrefl : ∀ u, rel u u) (r : Repo) (m : AccountMerge)
    (hagent : ∀ u v, rel u v → rel u (m.applyToAgent v))
    (hmoved : ∀ s o s' o', m.applyToUsers (some s) (some o) = .ok (s', o') → rel s s' ∧ rel o o') :
    r.users.Pointwise rel (r.applyAccountMerge m).2.users := by
  unfold Repo.applyAccountMerge
  split
  · dsimp only
    rw [(revokeChangedUsers_grantsOnly r r.users m.atMs).frame]
    exact GoMap.Pointwise.refl hrefl r.users
  rename_i survivor other hok
  obtain ⟨s0, o0, hs0, ho0, -⟩ := applyToUsers_ok hok
  rw [hs0, ho0] at hok
  obtain ⟨hsurvivor, hother⟩ := hmoved s0 o0 survivor other hok
  rw [(revokeChangedUsers_grantsOnly (r.mergeRows m survivor other) r.users m.atMs).frame]
  intro key
  rw [mergeRows_lookup_users]
  split
  · rename_i hkey
    rw [hkey, ho0]
    exact .some (hagent o0 other hother)
  split
  · rename_i hkey
    rw [hkey, hs0]
    exact .some (hagent s0 survivor hsurvivor)
  cases r.users.lookup key with
  | none => exact .none
  | some u => exact .some (hagent u u (hrefl u))

lemma mergeRows_lookup_sessions (r : Repo) (m : AccountMerge) (survivor other : User) (key : String) :
    (r.mergeRows m survivor other).sessions.lookup key = (r.sessions.lookup key).map fun se =>
      if se.userID == m.otherID && se.revokedAtMs == 0 then { se with revokedAtMs := m.atMs } else se := by
  obtain ⟨creations, hframe⟩ := mergeRows_frame r m survivor other
  rw [hframe]
  simp only [Repo.mergeSideTables, lookup_mapRows]

/-- Every row a merge leaves has the id of the row it replaces. -/
lemma mergeRows_keeps_ids (hs0 : r.users.lookup m.survivorID = some s0) (ho0 : r.users.lookup m.otherID = some o0)
    (hsid : survivor.id = s0.id) (hoid : other.id = o0.id)
    (hu' : (r.mergeRows m survivor other).users.lookup key = some u') :
    ∃ u, r.users.lookup key = some u ∧ u'.id = u.id := by
  rw [mergeRows_lookup_users, Option.map_eq_some_iff] at hu'
  obtain ⟨v, hv, rfl⟩ := hu'
  rw [applyToAgent_id]
  split at hv
  · grind
  · grind

section
variable (hkeyed : Keyed r)
include hkeyed

lemma insertUser_sustains (hnot : ∀ n, u.id ≠ memID n) : Sustains r (r.insertUser u).2 := by
  unfold Repo.insertUser
  split
  · exact insertNewUser_sustains (hkeyed.fresh_users _ (lt_succ_self _)) rfl (le_succ _)
      (.inl ⟨r.seq + 1, lt_succ_self _, le_rfl, rfl⟩)
  split
  · rfl
  · rename_i hfree
    exact insertNewUser_sustains (Option.not_isSome_iff_eq_none.mp hfree) rfl le_rfl (.inr hnot)

/-- A generated name is fresh, so a new agent takes nobody's place. -/
lemma allocateAgent_sustains (request : AgentCreation) : Sustains r (r.allocateAgent request).2 := by
  have hfresh := hkeyed.fresh_users (r.seq + 1) (lt_succ_self _)
  simp only [Repo.allocateAgent, hfresh, Option.isSome_none, Bool.false_eq_true, if_false]
  refine (insertNewUser_sustains hfresh ?_ (le_succ _) ?_).trans (recordCreation_sustains _ _ _)
  · rfl
  · exact .inl ⟨r.seq + 1, lt_succ_self _, le_rfl, rfl⟩

lemma createSession_sustains (s : SessionRecord) : Sustains r (r.createSession s).2 := by
  unfold Repo.createSession
  split
  · rfl
  split
  · rfl
  split
  · rfl
  simp only [Repo.nextID]
  refine { refl r with sessions := ?_, new_sessions := ?_, seq_le := le_succ _, new_users := ?_ }
  · grind
  · exact fun key u' hu' => .inl ⟨u', hu', rfl⟩
  · grind

lemma createManagedChildAccount_sustains (hnot : ∀ n, u.id ≠ memID n)
    (edge : GuardianEdge) (consent : ParentalConsentRecord) :
    Sustains r (r.createManagedChildAccount u edge consent).2 := by
  have hinsert := insertUser_sustains hkeyed hnot
  unfold Repo.createManagedChildAccount
  split
  · rfl
  split
  · rfl
  split
  · rfl
  · grind

/-- A merge ends what rested on every row it changed, the retired account's first of
    all, so its sessions may end without a look at the grants. -/
lemma applyAccountMerge_sustains (hpos : 0 < m.atMs) : Sustains r (r.applyAccountMerge m).2 := by
  unfold Repo.applyAccountMerge
  split
  · exact (revokeChangedUsers_revokeOnly r r.users hpos).sustains
  rename_i survivor other hok
  obtain ⟨s0, o0, hs0, ho0, -, hmergeable, -, hsid, hoid, hstatus, -⟩ := applyToUsers_ok hok
  obtain ⟨creations, hframe⟩ := mergeRows_frame r m survivor other
  have hrevoke := revokeChangedUsers_revokeOnly (r.mergeRows m survivor other) r.users hpos
  have hrevokes : ∀ id u, r.users.lookup id = some u →
      agentOAuthAuthorityLost (some u) ((r.mergeRows m survivor other).users.lookup id) = true →
      UserRevoked id ((r.mergeRows m survivor other).revokeChangedUsers r.users m.atMs) := by
    intro id u hu hlost
    have hrevoked := revokeChangedUsers_revokes hpos hu hlost
    rwa [hkeyed.users id u hu] at hrevoked
  have hretired : UserRevoked m.otherID ((r.mergeRows m survivor other).revokeChangedUsers r.users m.atMs) := by
    refine hrevokes m.otherID o0 ho0 ?_
    rw [mergeRows_lookup_users, if_pos rfl]
    exact retired_authorityLost hmergeable hstatus
  refine
    { grants := ?_
      machines := ?_
      orphans := ?_
      registrations := by rw [hrevoke.frame, hframe]; rfl
      users := ?_
      sessions := ?_
      clients := fun id c hc => .inl ⟨c, by rw [hrevoke.frame, hframe]; exact hc, rfl⟩
      seq_le := by rw [hrevoke.frame, hframe]; exact le_rfl
      new_users := fun key u' hu' => .inl (mergeRows_keeps_ids hs0 ho0 hsid hoid (by
        rw [hrevoke.frame] at hu'; exact hu'))
      new_sessions := ?_ }
  · have hgrants := hrevoke.grants
    rw [hframe] at hgrants ⊢
    exact hgrants
  · have hmachines := hrevoke.machines
    rw [hframe] at hmachines ⊢
    exact hmachines
  · have horphans := hrevoke.orphans
    rw [hframe] at horphans ⊢
    exact horphans
  · intro id u hu
    cases hlost : agentOAuthAuthorityLost (some u) ((r.mergeRows m survivor other).users.lookup id) with
    | true => exact .inr (hrevokes id u hu hlost)
    | false =>
      cases hafter : (r.mergeRows m survivor other).users.lookup id with
      | none =>
        rw [hafter] at hlost
        cases hlost
      | some u' => exact .inl ⟨u', by rw [hrevoke.frame]; exact hafter, by rw [← hafter]; exact hlost⟩
  · intro key s hs hlive
    by_cases heq : s.userID = m.otherID
    · grind
    · grind [mergeRows_lookup_sessions]
  · grind [mergeRows_lookup_sessions, Option.map_eq_some_iff]

end
end identity.memory
