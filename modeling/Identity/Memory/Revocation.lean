import Identity.Memory.Store

open identity.service
namespace identity.service

/-- The write that ends a grant. -/
def AgentAuthorization.revoke (g : AgentAuthorization) (atMs : Int) : AgentAuthorization :=
  { g with revokedAtMs := atMs, revision := g.revision + 1 }

/-- The write that ends a machine. -/
def AgentMachine.revoke (m : AgentMachine) (atMs : Int) : AgentMachine :=
  { m with revokedAtMs := atMs, revision := m.revision + 1 }

/-- A grant is kept as it is, or is revoked if it was still live. -/
@[grind =]
def AgentAuthorization.RevokedTo (g g' : AgentAuthorization) : Prop :=
  g' = g ∨ g.revokedAtMs = 0 ∧ ∃ atMs, 0 < atMs ∧ g' = g.revoke atMs

/-- A machine is kept as it is, or is revoked if it was still live. -/
@[grind =]
def AgentMachine.RevokedTo (m m' : AgentMachine) : Prop :=
  m' = m ∨ m.revokedAtMs = 0 ∧ ∃ atMs, 0 < atMs ∧ m' = m.revoke atMs

lemma AgentAuthorization.RevokedTo.refl (g : AgentAuthorization) : g.RevokedTo g := .inl rfl

lemma AgentMachine.RevokedTo.refl (m : AgentMachine) : m.RevokedTo m := .inl rfl

variable {g g' : AgentAuthorization}

lemma AgentAuthorization.RevokedTo.eq_of_live (h : g.RevokedTo g') (hlive : g'.revokedAtMs = 0) : g' = g := by
  obtain heq | ⟨-, atMs, hpos, rfl⟩ := h
  · exact heq
  · simp only [revoke] at hlive
    omega

variable {m m' : AgentMachine}

lemma AgentMachine.RevokedTo.eq_of_live (h : m.RevokedTo m') (hlive : m'.revokedAtMs = 0) : m' = m := by
  obtain heq | ⟨-, atMs, hpos, rfl⟩ := h
  · exact heq
  · simp only [revoke] at hlive
    omega

lemma AgentAuthorization.RevokedTo.trans {g1 g2 g3 : AgentAuthorization} (h12 : g1.RevokedTo g2)
    (h23 : g2.RevokedTo g3) : g1.RevokedTo g3 := by
  obtain rfl | ⟨hlive, atMs, hpos, rfl⟩ := h12
  · exact h23
  · grind [revoke]

lemma AgentMachine.RevokedTo.trans {m1 m2 m3 : AgentMachine} (h12 : m1.RevokedTo m2)
    (h23 : m2.RevokedTo m3) : m1.RevokedTo m3 := by
  obtain rfl | ⟨hlive, atMs, hpos, rfl⟩ := h12
  · exact h23
  · grind [revoke]

/-- Revocation writes the two audit fields and nothing else. -/
lemma AgentAuthorization.RevokedTo.eq_with (h : g.RevokedTo g') :
    g' = { g with revokedAtMs := g'.revokedAtMs, revision := g'.revision } := by
  obtain rfl | ⟨-, atMs, -, rfl⟩ := h <;> rfl

lemma AgentMachine.RevokedTo.eq_with (h : m.RevokedTo m') :
    m' = { m with revokedAtMs := m'.revokedAtMs, revision := m'.revision } := by
  obtain rfl | ⟨-, atMs, -, rfl⟩ := h <;> rfl

end identity.service

namespace identity.memory

/-- The loop that ends every live grant satisfying `p`. -/
def Repo.revokeGrants (r : Repo) (p : AgentAuthorization → Bool) (atMs : Int) : Repo :=
  { r with
    agentAuthorizations := r.agentAuthorizations.mapRows fun g =>
      if p g && g.revokedAtMs == 0 then g.revoke atMs else g }

/-- Ends the machine of a key, if it is live, and its children. -/
def Repo.revokeAgentMachineLocked (r : Repo) (key : String) (atMs : Int) : Repo :=
  match r.agentMachines.lookup key with
  | none => r
  | some m =>
    let r := if m.revokedAtMs = 0 then
        { r with agentMachines := r.agentMachines.insert key (m.revoke atMs) }
      else r
    r.revokeGrants (fun child => child.machineID == m.id) atMs

/-- The loop that ends every machine satisfying `p`. -/
def Repo.revokeMachines (r : Repo) (p : AgentMachine → Bool) (atMs : Int) : Repo :=
  (r.agentMachines.entries.filter fun entry => p entry.2).foldl
    (fun r' entry => r'.revokeAgentMachineLocked entry.1 atMs) r

def Repo.revokeAgentOAuthUserLocked (r : Repo) (before after : Option User) (atMs : Int) : Repo :=
  match before with
  | none => r
  | some user =>
    if agentOAuthAuthorityLost before after then
      (r.revokeMachines (fun machine => machine.ownerID == user.id) atMs).revokeGrants
        (fun g => g.ownerID == user.id || g.agentID == user.id) atMs
    else r

def Repo.revokeAgentOAuthSIDLocked (r : Repo) (sid : String) (atMs : Int) : Repo :=
  r.revokeGrants (fun g => g.machineID == "" && g.humanSID == sid) atMs

def Repo.revokeAgentOAuthOwnerLocked (r : Repo) (owner : String) (atMs : Int) : Repo :=
  (r.revokeMachines (fun machine => machine.ownerID == owner) atMs).revokeGrants
    (fun grant => grant.ownerID == owner) atMs

/-- Every grant satisfying `p` has been revoked. -/
@[grind =]
def GrantsRevoked (p : AgentAuthorization → Bool) (r : Repo) : Prop :=
  ∀ key g, r.agentAuthorizations.lookup key = some g → p g = true → g.revokedAtMs ≠ 0

/-- Every machine satisfying `p` has been revoked. -/
@[grind =]
def MachinesRevoked (p : AgentMachine → Bool) (r : Repo) : Prop :=
  ∀ key m, r.agentMachines.lookup key = some m → p m = true → m.revokedAtMs ≠ 0

/-- Each grant and each machine is kept or revoked, and a machine takes its children with
    it. -/
@[grind]
structure Ends (r r' : Repo) : Prop where
  grants : r.agentAuthorizations.Pointwise AgentAuthorization.RevokedTo r'.agentAuthorizations
  machines : r.agentMachines.Pointwise AgentMachine.RevokedTo r'.agentMachines
  orphans : ∀ key m m', r.agentMachines.lookup key = some m → r'.agentMachines.lookup key = some m' →
    m.revokedAtMs = 0 → m'.revokedAtMs ≠ 0 → GrantsRevoked (fun g => g.machineID == m.id) r'

/-- A step that only ends grants and machines: no other table changes. -/
@[grind]
structure RevokeOnly (r r' : Repo) : Prop extends Ends r r' where
  frame : r' = { r with
    agentAuthorizations := r'.agentAuthorizations
    agentMachines := r'.agentMachines }

/-- What has been revoked stays revoked as long as rows are only kept or revoked. -/
lemma GrantsRevoked.of_pointwise (hrevoked : GrantsRevoked p r)
    (hgrants : r.agentAuthorizations.Pointwise AgentAuthorization.RevokedTo r'.agentAuthorizations) :
    GrantsRevoked p r' := by
  intro key g' hlookup hp hlive
  obtain ⟨g, hg, hto⟩ := hgrants.lookup_some_inv hlookup
  obtain rfl := hto.eq_of_live hlive
  exact hrevoked key g' hg hp hlive

lemma MachinesRevoked.of_pointwise (hrevoked : MachinesRevoked p r)
    (hmachines : r.agentMachines.Pointwise AgentMachine.RevokedTo r'.agentMachines) :
    MachinesRevoked p r' := by
  intro key m' hlookup hp hlive
  obtain ⟨m, hm, hto⟩ := hmachines.lookup_some_inv hlookup
  obtain rfl := hto.eq_of_live hlive
  exact hrevoked key m' hm hp hlive

@[refl] lemma RevokeOnly.refl (r : Repo) : RevokeOnly r r where
  frame := rfl
  grants := .refl AgentAuthorization.RevokedTo.refl _
  machines := .refl AgentMachine.RevokedTo.refl _
  orphans := by grind

lemma Ends.trans (h12 : Ends r1 r2) (h23 : Ends r2 r3) : Ends r1 r3 where
  grants := h12.grants.trans h23.grants fun _ _ _ => .trans
  machines := h12.machines.trans h23.machines fun _ _ _ => .trans
  orphans := by
    intro key m1 m3 hm1 hm3 hlive hrevoked
    obtain ⟨m2, hm2, hto⟩ := h12.machines.lookup_some hm1
    by_cases hlive2 : m2.revokedAtMs = 0
    · grind [hto.eq_of_live]
    · exact (h12.orphans key m1 m2 hm1 hm2 hlive hlive2).of_pointwise h23.grants

lemma RevokeOnly.trans (h12 : RevokeOnly r1 r2) (h23 : RevokeOnly r2 r3) : RevokeOnly r1 r3 :=
  ⟨h12.toEnds.trans h23.toEnds, by rw [h23.frame, h12.frame]⟩

section
variable (r : Repo)
include r
variable (p : AgentAuthorization → Bool)

lemma revokeGrants_revokeOnly (hpos : 0 < atMs) : RevokeOnly r (r.revokeGrants p atMs) := by
  refine ⟨⟨GoMap.pointwise_mapRows (fun g => ?_) _, (RevokeOnly.refl r).machines, ?_⟩, rfl⟩
  swap
  · intro key m m' hm hm' hlive hrevoked
    exact absurd hlive (by rw [Option.some.inj (hm.symm.trans hm')]; exact hrevoked)
  split
  · grind
  · exact .inl rfl

lemma revokeGrants_grantsRevoked (hpos : 0 < atMs) : GrantsRevoked p (r.revokeGrants p atMs) := by
  intro key g' hlookup hp hlive
  obtain ⟨g, -, hg'⟩ := Option.map_eq_some_iff.mp ((GoMap.lookup_mapRows ..).symm.trans hlookup)
  split at hg'
  · subst hg'
    simp only [AgentAuthorization.revoke] at hlive
    omega
  rename_i hcond
  subst hg'
  simp [hp, hlive] at hcond

lemma revokeAgentMachineLocked_revokeOnly (key : String) (hpos : 0 < atMs) :
    RevokeOnly r (r.revokeAgentMachineLocked key atMs) := by
  unfold Repo.revokeAgentMachineLocked
  cases hm : r.agentMachines.lookup key with
  | none => rfl
  | some m => grind [revokeGrants_revokeOnly, GoMap.pointwise_insert, revokeGrants_grantsRevoked, Repo.revokeGrants]

lemma revokeAgentMachineLocked_revokes (key : String) (hpos : 0 < atMs) (hm :
    (r.revokeAgentMachineLocked key atMs).agentMachines.lookup key = some m) :
    m.revokedAtMs ≠ 0 := by
  unfold Repo.revokeAgentMachineLocked at hm
  cases hbefore : r.agentMachines.lookup key with
  | none =>
    simp only [hbefore] at hm
    cases hm
  | some before => grind [Repo.revokeGrants, AgentMachine.revoke]

variable (p : AgentMachine → Bool)

/-- The loop over machines only revokes, by induction over the rows it visits. -/
lemma revokeMachines_revokeOnly (hpos : 0 < atMs) : RevokeOnly r (r.revokeMachines p atMs) := by
  have hloop : ∀ (visited : List (Sigma fun _ : String => AgentMachine)) (r' : Repo),
      RevokeOnly r' (visited.foldl (fun r'' entry => r''.revokeAgentMachineLocked entry.1 atMs) r') := by
    intro visited
    induction visited with
    | nil => exact fun r' => .refl r'
    | cons entry rest ih => exact fun r' => (revokeAgentMachineLocked_revokeOnly r' entry.1 hpos).trans (ih _)
  exact hloop _ r

/-- A machine the loop visits is revoked when its turn comes and stays so. -/
lemma revokeMachines_machinesRevoked (hpos : 0 < atMs) : MachinesRevoked p (r.revokeMachines p atMs) := by
  have hloop : ∀ (visited : List (Sigma fun _ : String => AgentMachine)) (r' : Repo) (entry m),
      entry ∈ visited ∨ (∀ m', r'.agentMachines.lookup entry.1 = some m' → m'.revokedAtMs ≠ 0) →
      (visited.foldl (fun r'' entry' => r''.revokeAgentMachineLocked entry'.1 atMs) r').agentMachines.lookup
        entry.1 = some m → m.revokedAtMs ≠ 0 := by
    intro visited
    induction visited with
    | nil => grind
    | cons first rest ih =>
      intro r' entry m hdone hm
      refine ih _ entry m ?_ hm
      obtain hmem | hrevoked := hdone
      · grind [revokeAgentMachineLocked_revokes]
      right
      intro m' hm' hlive
      obtain ⟨before, hbefore, hto⟩ :=
        (revokeAgentMachineLocked_revokeOnly r' first.1 hpos).machines.lookup_some_inv hm'
      grind
  intro key m' hm' hp hlive
  obtain ⟨m, hm, hto⟩ := (revokeMachines_revokeOnly r p hpos).machines.lookup_some_inv hm'
  obtain rfl := hto.eq_of_live hlive
  have hvisited : (⟨key, m'⟩ : Sigma fun _ : String => AgentMachine) ∈
      r.agentMachines.entries.filter fun entry => p entry.2 :=
    List.mem_filter.mpr ⟨AList.mem_lookup_iff.mp hm, hp⟩
  exact hloop _ r ⟨key, m'⟩ m' (.inl hvisited) hm' hlive

lemma revokeAgentOAuthUserLocked_revokeOnly (before after : Option User)
    (hpos : 0 < atMs) : RevokeOnly r (r.revokeAgentOAuthUserLocked before after atMs) := by
  unfold Repo.revokeAgentOAuthUserLocked
  cases before with
  | none => rfl
  | some user =>
    simp only
    split
    · exact (revokeMachines_revokeOnly r _ hpos).trans (revokeGrants_revokeOnly _ _ hpos)
    · rfl

/-- A user row that lost its authority takes every grant and machine of that user
    with it. -/
lemma revokeAgentOAuthUserLocked_revokes (hpos : 0 < atMs) (hlost : agentOAuthAuthorityLost (some user) after = true) :
    GrantsRevoked (fun g => g.ownerID == user.id || g.agentID == user.id)
        (r.revokeAgentOAuthUserLocked (some user) after atMs) ∧
      MachinesRevoked (fun m => m.ownerID == user.id) (r.revokeAgentOAuthUserLocked (some user) after atMs) := by
  simp only [Repo.revokeAgentOAuthUserLocked, if_pos hlost]
  exact ⟨revokeGrants_grantsRevoked _ _ hpos,
    (revokeMachines_machinesRevoked r _ hpos).of_pointwise (revokeGrants_revokeOnly _ _ hpos).machines⟩

lemma revokeAgentOAuthSIDLocked_revokeOnly (sid : String) (hpos : 0 < atMs) :
    RevokeOnly r (r.revokeAgentOAuthSIDLocked sid atMs) :=
  revokeGrants_revokeOnly r _ hpos

lemma revokeAgentOAuthOwnerLocked_revokeOnly (owner : String) (hpos : 0 < atMs) :
    RevokeOnly r (r.revokeAgentOAuthOwnerLocked owner atMs) :=
  (revokeMachines_revokeOnly r _ hpos).trans (revokeGrants_revokeOnly _ _ hpos)

end

/-- The row is inserted under a generated name that it also carries. -/
def Repo.createSession (r : Repo) (s : SessionRecord) : Except Err String × Repo :=
  if s.sid = "" then (.error (.wrapped .invalidArgument "missing sid"), r)
  else if s.userID = "" then (.error (.wrapped .invalidArgument "missing user_id"), r)
  else if r.sessions.anyRow fun existing => existing.sid == s.sid then
    (.error (.wrapped .alreadyExists ("sid \"" ++ s.sid ++ "\"")), r)
  else
    let (id, r) := r.nextID
    (.ok id, { r with sessions := r.sessions.insert id { s with nodeID := id } })

def Repo.getSessionBySid (r : Repo) (sid : String) : Option SessionRecord :=
  if sid = "" then none else r.sessions.findRow fun s => s.sid == sid

/-- End one session row, if it is active, and the grants consented in it. -/
def Repo.revokeSessionRow (r : Repo) (key : String) (atMs : Int) : Repo :=
  match r.sessions.lookup key with
  | none => r
  | some s =>
    if s.revokedAtMs = 0 then
      { r with sessions := r.sessions.insert key { s with revokedAtMs := atMs } }.revokeAgentOAuthSIDLocked
        s.sid atMs
    else r

/-- Idempotent: a missing or already revoked session is left alone. -/
def Repo.revokeSession (r : Repo) (sid : String) (atMs : Int) : Repo :=
  if sid = "" then r
  else
    match r.sessions.entries.find? fun entry => entry.2.sid == sid with
    | none => r
    | some entry => r.revokeSessionRow entry.1 atMs

/-- The loop that ends every active session of a user. -/
def Repo.revokeSessionsForUser (r : Repo) (userID : String) (atMs : Int) : Repo :=
  if userID = "" then r
  else
    (r.sessions.entries.filter fun entry => entry.2.userID == userID && entry.2.revokedAtMs == 0).foldl
      (fun r' entry => r'.revokeSessionRow entry.1 atMs) r

def Repo.findRefreshTokenByHash (r : Repo) (hash : String) : Option RefreshTokenRecord :=
  r.refreshTokens.findRow fun t => t.tokenHash == hash && t.consumedAtMs == 0

def Repo.findRefreshTokenByHashIncludingConsumed (r : Repo) (hash : String) : Option RefreshTokenRecord :=
  r.refreshTokens.findRow fun t => t.tokenHash == hash

def Repo.createRefreshToken (r : Repo) (t : RefreshTokenRecord) : String × Repo :=
  let (id, r) := r.nextID
  (id, { r with refreshTokens := r.refreshTokens.insert id { t with nodeID := id } })

/-- Deleting a token ends the grants consented in the session it was minted with. -/
def Repo.deleteRefreshToken (r : Repo) (now : Int) (nodeID : String) : Repo :=
  match r.refreshTokens.lookup nodeID with
  | none => r
  | some token =>
    let r := r.revokeAgentOAuthSIDLocked token.sid now
    { r with refreshTokens := r.refreshTokens.erase nodeID }

def Repo.deleteRefreshTokensForUser (r : Repo) (now : Int) (userID : String) : Repo :=
  (r.refreshTokens.entries.filter fun entry => entry.2.userID == userID).foldl
    (fun r' entry =>
      let r' := r'.revokeAgentOAuthSIDLocked entry.2.sid now
      { r' with refreshTokens := r'.refreshTokens.erase entry.1 })
    r

/-- Conditional on the token being unconsumed, so one rotation wins. -/
def Repo.consumeRefreshTokenByHash (r : Repo) (hash : String) (atMs : Int) : Except Err Unit × Repo :=
  match r.refreshTokens.entries.find? fun entry => entry.2.tokenHash == hash with
  | none => (.error (.sentinel .unauthenticated), r)
  | some entry =>
    if entry.2.consumedAtMs ≠ 0 then (.error (.sentinel .unauthenticated), r)
    else
      (.ok (), { r with refreshTokens := r.refreshTokens.insert entry.1 { entry.2 with consumedAtMs := atMs } })

open Repo AList

/-- The row once its session is ended; one that was ended before keeps its time. -/
def endedRow (atMs : Int) (s : SessionRecord) : SessionRecord :=
  if s.revokedAtMs = 0 then { s with revokedAtMs := atMs } else s

lemma endedRow_endedRow (atMs : Int) (s : SessionRecord) : endedRow atMs (endedRow atMs s) = endedRow atMs s := by
  unfold endedRow
  split
  · split
    · rfl
    · rfl
  · rfl

lemma endedRow_revoked (hpos : 0 < atMs) (s : SessionRecord) : (endedRow atMs s).revokedAtMs ≠ 0 := by
  unfold endedRow
  split
  · exact fun heq => absurd heq (by dsimp only; omega)
  · assumption

variable (r : Repo)

lemma lookup_revokeSessionRow (key : String) (atMs : Int) (query : String) :
    (r.revokeSessionRow key atMs).sessions.lookup query =
      if query = key then (r.sessions.lookup query).map (endedRow atMs) else r.sessions.lookup query := by
  unfold revokeSessionRow
  split
  · grind
  rename_i s hs
  by_cases heq : query = key
  · rw [if_pos heq, heq, hs, Option.map_some, endedRow]
    split
    · exact lookup_insert _
    · exact hs
  split
  · exact lookup_insert_ne heq
  · rfl

lemma revokeSessionRow_refreshTokens (key : String) (atMs : Int) :
    (r.revokeSessionRow key atMs).refreshTokens = r.refreshTokens := by
  unfold revokeSessionRow
  split
  · rfl
  split
  · rfl
  · rfl

variable (keys : List (Sigma fun _ : String => SessionRecord))

/-- The loop over some of a user's rows ends each of them. -/
lemma lookup_foldl_revokeSessionRow (atMs : Int) (r : Repo)
    (query : String) : (keys.foldl (fun r' entry => r'.revokeSessionRow entry.1 atMs) r).sessions.lookup query =
      if query ∈ keys.map Sigma.fst then (r.sessions.lookup query).map (endedRow atMs)
      else r.sessions.lookup query := by
  induction keys generalizing r with
  | nil => rfl
  | cons entry rest ih =>
    rw [List.foldl_cons, ih, lookup_revokeSessionRow]
    simp only [List.map_cons, List.mem_cons]
    by_cases heq : query = entry.1
    · simp only [heq, true_or, if_true, Option.map_map]
      split
      · congr 1
        funext s
        exact endedRow_endedRow atMs s
      · rfl
    · simp only [heq, false_or, if_false]

lemma foldl_revokeSessionRow_refreshTokens (atMs : Int)
    (r : Repo) : (keys.foldl (fun r' entry => r'.revokeSessionRow entry.1 atMs) r).refreshTokens =
      r.refreshTokens := by
  induction keys generalizing r with
  | nil => rfl
  | cons entry rest ih => rw [List.foldl_cons, ih, revokeSessionRow_refreshTokens]

/-- Every session of the user is ended and no other row changes. -/
lemma lookup_revokeSessionsForUser (huser : userID ≠ "") (r : Repo) (atMs : Int) (query : String) :
    (r.revokeSessionsForUser userID atMs).sessions.lookup query =
      (r.sessions.lookup query).map fun s => if s.userID = userID then endedRow atMs s else s := by
  rw [revokeSessionsForUser, if_neg huser, lookup_foldl_revokeSessionRow]
  cases hs : r.sessions.lookup query with
  | none => simp
  | some s =>
    simp only [Option.map_some]
    split
    · rename_i hmem
      obtain ⟨entry, hentry, rfl⟩ := List.mem_map.mp hmem
      obtain ⟨hentry, hmatch⟩ := List.mem_filter.mp hentry
      have hlookup : r.sessions.lookup entry.1 = some entry.2 := mem_lookup_iff.mpr hentry
      grind
    rename_i hnot
    split
    · rename_i howner
      -- a row of the user that the loop passes over had ended before
      have hended : s.revokedAtMs ≠ 0 := by
        intro hlive
        refine hnot (List.mem_map.mpr ⟨⟨query, s⟩, List.mem_filter.mpr ⟨mem_lookup_iff.mp hs, ?_⟩, rfl⟩)
        simp [howner, hlive]
      rw [endedRow, if_neg hended]
    · rfl

lemma revokeSessionsForUser_refreshTokens (userID : String) (atMs : Int) :
    (r.revokeSessionsForUser userID atMs).refreshTokens = r.refreshTokens := by
  unfold revokeSessionsForUser
  split
  · rfl
  · exact foldl_revokeSessionRow_refreshTokens _ atMs r

lemma createSession_refreshTokens (s : SessionRecord) : (r.createSession s).2.refreshTokens = r.refreshTokens := by
  unfold createSession
  split
  · rfl
  split
  · rfl
  split
  · rfl
  · rfl

lemma revokeSession_refreshTokens (sid : String) (atMs : Int) :
    (r.revokeSession sid atMs).refreshTokens = r.refreshTokens := by
  unfold revokeSession
  split
  · rfl
  split
  · rfl
  · exact revokeSessionRow_refreshTokens r _ atMs

variable (now : Int)

lemma lookup_deleteRefreshToken (nodeID query : String) :
    (r.deleteRefreshToken now nodeID).refreshTokens.lookup query =
      if query = nodeID then none else r.refreshTokens.lookup query := by
  unfold deleteRefreshToken
  split
  · grind
  · exact GoMap.lookup_erase_eq _ _ _

lemma deleteRefreshToken_sessions (nodeID : String) : (r.deleteRefreshToken now nodeID).sessions = r.sessions := by
  unfold deleteRefreshToken
  split
  · rfl
  · rfl

/-- The loop over some tokens deletes each of them. -/
lemma lookup_foldl_erase (tokens : List (Sigma fun _ : String => RefreshTokenRecord)) (now : Int) (r : Repo)
    (query : String) : (tokens.foldl (fun r' entry =>
      { r'.revokeAgentOAuthSIDLocked entry.2.sid now with
        refreshTokens := (r'.revokeAgentOAuthSIDLocked entry.2.sid now).refreshTokens.erase entry.1 })
      r).refreshTokens.lookup query =
      if query ∈ tokens.map Sigma.fst then none else r.refreshTokens.lookup query := by
  induction tokens generalizing r with
  | nil => rfl
  | cons entry rest ih =>
    rw [List.foldl_cons, ih]
    simp only [List.map_cons, List.mem_cons]
    by_cases heq : query = entry.1
    · grind
    simp only [heq, false_or]
    split
    · rfl
    · exact lookup_erase_ne heq

/-- Every refresh token of the user goes and no other row changes. -/
lemma lookup_deleteRefreshTokensForUser (userID query : String) :
    (r.deleteRefreshTokensForUser now userID).refreshTokens.lookup query =
      (r.refreshTokens.lookup query).filter fun t => t.userID != userID := by
  refine (lookup_foldl_erase _ now r query).trans ?_
  cases ht : r.refreshTokens.lookup query with
  | none => simp
  | some t =>
    have hmem : query ∈ (r.refreshTokens.entries.filter fun entry => entry.2.userID == userID).map Sigma.fst ↔
        t.userID = userID := by
      constructor
      · intro hmem
        obtain ⟨entry, hentry, rfl⟩ := List.mem_map.mp hmem
        obtain ⟨hentry, hmatch⟩ := List.mem_filter.mp hentry
        have hlookup : r.refreshTokens.lookup entry.1 = some entry.2 := mem_lookup_iff.mpr hentry
        grind
      · intro howner
        exact List.mem_map.mpr ⟨⟨query, t⟩, List.mem_filter.mpr ⟨mem_lookup_iff.mp ht, by simp [howner]⟩, rfl⟩
    grind

lemma deleteRefreshTokensForUser_sessions (userID : String) :
    (r.deleteRefreshTokensForUser now userID).sessions = r.sessions := by
  unfold deleteRefreshTokensForUser
  induction r.refreshTokens.entries.filter fun entry => entry.2.userID == userID generalizing r with
  | nil => rfl
  | cons entry rest ih =>
    exact (ih _).trans rfl

variable {r : Repo}

/-- A session that opens has an id nobody had, and takes the next name. -/
lemma createSession_ok {id : String} (hok : (r.createSession s).1 = .ok id) :
    s.sid ≠ "" ∧ s.userID ≠ "" ∧ (∀ key row, r.sessions.lookup key = some row → row.sid ≠ s.sid) ∧
      (r.createSession s).2 =
        { r with
          seq := r.seq + 1
          sessions := r.sessions.insert (memID (r.seq + 1)) { s with nodeID := memID (r.seq + 1) } } := by
  unfold createSession at hok ⊢
  split at hok
  · cases hok
  rename_i hsid
  split at hok
  · cases hok
  rename_i huser
  split at hok
  · cases hok
  rename_i hnone
  have hnew : ∀ key row, r.sessions.lookup key = some row → row.sid ≠ s.sid := by grind
  rw [if_neg hsid, if_neg huser, if_neg hnone]
  exact ⟨hsid, huser, hnew, rfl⟩

/-- A token that is consumed was there unconsumed. -/
lemma consumeRefreshTokenByHash_ok {hash : String}
    (hok : (r.consumeRefreshTokenByHash hash atMs).1 = .ok ()) :
    ∃ key t, r.refreshTokens.lookup key = some t ∧ t.tokenHash = hash ∧ t.consumedAtMs = 0 ∧
      (r.consumeRefreshTokenByHash hash atMs).2 =
        { r with refreshTokens := r.refreshTokens.insert key { t with consumedAtMs := atMs } } := by
  unfold consumeRefreshTokenByHash at hok ⊢
  split at hok
  · cases hok
  rename_i entry hfind
  split at hok
  · cases hok
  rename_i hlive
  rw [Decidable.not_not] at hlive
  have hmatch := List.find?_some hfind
  refine ⟨entry.1, entry.2, mem_lookup_iff.mpr (List.mem_of_find?_eq_some hfind), beq_iff_eq.mp hmatch, hlive, ?_⟩
  simp [hlive]

/-- Ending a session by its id ends the first row that has it. -/
lemma revokeSession_some (hsid : sid ≠ "")
    (hrow : r.sessions.lookup key = some row) (hname : row.sid = sid)
    (honly : ∀ query other, r.sessions.lookup query = some other → other.sid = sid → query = key) (atMs : Int) :
    r.revokeSession sid atMs = r.revokeSessionRow key atMs := by
  rw [revokeSession]
  cases hfind : r.sessions.entries.find? fun entry => entry.2.sid == sid with
  | none =>
    have hnone := List.find?_eq_none.mp hfind ⟨key, row⟩ (mem_lookup_iff.mp hrow)
    simp [hname] at hnone
  | some entry =>
    have hentry : r.sessions.lookup entry.1 = some entry.2 := mem_lookup_iff.mpr (List.mem_of_find?_eq_some hfind)
    grind

end identity.memory
