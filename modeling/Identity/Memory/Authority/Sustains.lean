import Identity.Memory.Revocation

open identity.service
namespace identity.memory

/-- The account exists and is an active person's. -/
@[grind =]
def Repo.HasActiveOwner (r : Repo) (ownerID : String) : Prop :=
  ∃ owner, r.users.lookup ownerID = some owner ∧ isActivePerson owner = true

/-- The account exists and is an active agent of the given owner. -/
@[grind =]
def Repo.HasActiveAgent (r : Repo) (agentID ownerID : String) : Prop :=
  ∃ agent, r.users.lookup agentID = some agent ∧ agent.isAgent = true ∧
    isActiveStatus agent.status = true ∧ agent.ownerUserID = ownerID

/-- Some unrevoked session row of the user has this SID. -/
@[grind =]
def Repo.HasActiveSession (r : Repo) (sid userID : String) : Prop :=
  ∃ key s, r.sessions.lookup key = some s ∧ s.sid = sid ∧ s.userID = userID ∧ s.revokedAtMs = 0

/-- The client exists at this revision. -/
@[grind =]
def Repo.HasClientAt (r : Repo) (clientID : String) (revision : Int) : Prop :=
  ∃ client, r.oauthClients.lookup clientID = some client ∧ client.revision = revision

/-- The four rows a consented grant rests on. -/
@[grind]
structure GrantSupported (r : Repo) (g : AgentAuthorization) : Prop where
  owner : r.HasActiveOwner g.ownerID
  agent : r.HasActiveAgent g.agentID g.ownerID
  session : r.HasActiveSession g.humanSID g.ownerID
  client : r.HasClientAt g.clientID g.clientRevision

/-- The two rows a machine rests on. -/
@[grind]
structure MachineSupported (r : Repo) (m : AgentMachine) : Prop where
  owner : r.HasActiveOwner m.ownerID
  client : r.HasClientAt m.clientID m.clientRevision

/-- A machine's child copies the machine's bounds and acts for an agent the machine
    allows. -/
@[grind]
structure ChildSupported (r : Repo) (g : AgentAuthorization) (m : AgentMachine) : Prop where
  live : m.revokedAtMs = 0
  allows : m.allows g.agentID = true
  agent : r.HasActiveAgent g.agentID m.ownerID
  owner : g.ownerID = m.ownerID
  resource : g.resource = m.resource
  product : g.product = m.product
  scopes : g.scopes = m.scopes
  client : g.clientID = m.clientID
  clientRevision : g.clientRevision = m.clientRevision

/-- Live grants and machines have live authority. -/
@[grind]
structure Supported (r : Repo) : Prop where
  grants : ∀ key g, r.agentAuthorizations.lookup key = some g → g.decision = .approved →
    g.revokedAtMs = 0 → g.machineID = "" → GrantSupported r g
  machines : ∀ key m, r.agentMachines.lookup key = some m → m.revokedAtMs = 0 → MachineSupported r m
  children : ∀ key g, r.agentAuthorizations.lookup key = some g → g.revokedAtMs = 0 →
    g.machineID ≠ "" → ∃ m, r.agentMachines.lookup g.machineID = some m ∧ ChildSupported r g m

/-- Children are approved from the start; one child per machine and agent, one key
    per child, and no child has its machine's own key. Revoked children count. -/
@[grind]
structure ChildrenDistinct (r : Repo) : Prop where
  agents : ∀ key₁ key₂ g₁ g₂, r.agentAuthorizations.lookup key₁ = some g₁ →
    r.agentAuthorizations.lookup key₂ = some g₂ → g₁.machineID ≠ "" → g₁.machineID = g₂.machineID →
    g₁.agentID = g₂.agentID → key₁ = key₂
  keys : ∀ key₁ key₂ g₁ g₂, r.agentAuthorizations.lookup key₁ = some g₁ →
    r.agentAuthorizations.lookup key₂ = some g₂ → g₁.machineID ≠ "" → g₁.machineID = g₂.machineID →
    g₁.machinePublicKey = g₂.machinePublicKey → key₁ = key₂
  machine : ∀ key g, r.agentAuthorizations.lookup key = some g → g.machineID ≠ "" →
    ∃ m, r.agentMachines.lookup g.machineID = some m ∧ g.machinePublicKey ≠ m.publicKey
  approved : ∀ key g, r.agentAuthorizations.lookup key = some g → g.machineID ≠ "" → g.decision = .approved

/-- Rows stand under their own names, and no row stands under a name that is still
    to be generated. -/
@[grind]
structure Keyed (r : Repo) : Prop where
  users : ∀ key u, r.users.lookup key = some u → u.id = key
  machines : ∀ key m, r.agentMachines.lookup key = some m → m.id = key
  registered : ∀ key m, r.agentMachines.lookup key = some m →
    (r.agentMachineRegistrations.lookup key).isSome = true
  fresh_users : ∀ n, r.seq < n → r.users.lookup (memID n) = none
  fresh_sessions : ∀ n, r.seq < n → r.sessions.lookup (memID n) = none

/-- The store's invariant: well named rows, live authority, distinct children. -/
@[grind]
structure Inv (r : Repo) : Prop where
  keyed : Keyed r
  supported : Supported r
  distinct : ChildrenDistinct r

lemma inv_new : Inv new where
  keyed := ⟨by simp [new], by simp [new], by simp [new], by simp [new], by simp [new]⟩
  supported := ⟨by simp [new], by simp [new], by simp [new]⟩
  distinct := ⟨by simp [new], by simp [new], by simp [new], by simp [new]⟩

/-- Machines and their children stay in the store for good, keep what names them,
    and a revoked child stays revoked. -/
@[grind]
structure Persists (r r' : Repo) : Prop where
  children : ∀ key g, r.agentAuthorizations.lookup key = some g → g.machineID ≠ "" →
    ∃ g', r'.agentAuthorizations.lookup key = some g' ∧ g'.machineID = g.machineID ∧
      g'.agentID = g.agentID ∧ g'.machinePublicKey = g.machinePublicKey ∧
      (g.revokedAtMs ≠ 0 → g'.revokedAtMs ≠ 0)
  machines : ∀ key m, r.agentMachines.lookup key = some m →
    ∃ m', r'.agentMachines.lookup key = some m' ∧ m'.publicKey = m.publicKey

lemma Persists.trans (h12 : Persists r1 r2) (h23 : Persists r2 r3) : Persists r1 r3 where
  children key g hg hmachine := by grind
  machines key m hm := by grind

/-- What every operation does to a store that has the invariant. -/
@[grind]
structure Advances (r r' : Repo) : Prop where
  inv : Inv r'
  persists : Persists r r'

end identity.memory

namespace identity.service

/-- A row whose authority is not lost has the standing it had. -/
lemma eq_of_authority_kept (hkept : agentOAuthAuthorityLost (some u) (some u') = false) :
    u'.ownerUserID = u.ownerUserID ∧ u'.kind = u.kind ∧ u'.status = u.status ∧
      u'.isAnonymous = u.isAnonymous ∧ u'.mergedIntoUserID = u.mergedIntoUserID := by
  simp only [agentOAuthAuthorityLost, Bool.or_eq_false_iff, bne_eq_false_iff_eq] at hkept
  obtain ⟨⟨⟨⟨⟨⟨⟨⟨⟨⟨⟨⟨howner, hkind⟩, hstatus⟩, hanonymous⟩, hmerged⟩, -⟩, -⟩, -⟩, -⟩, -⟩, -⟩, -⟩, -⟩ := hkept
  exact ⟨howner.symm, hkind.symm, hstatus.symm, hanonymous.symm, hmerged.symm⟩

lemma authority_kept_trans (h12 : agentOAuthAuthorityLost (some u1) (some u2) = false)
    (h23 : agentOAuthAuthorityLost (some u2) (some u3) = false) :
    agentOAuthAuthorityLost (some u1) (some u3) = false := by
  simp only [agentOAuthAuthorityLost, Bool.or_eq_false_iff, bne_eq_false_iff_eq] at h12 h23 ⊢
  simp only [h12, h23, and_self]

end identity.service

namespace identity.memory
variable {id : String}

/-- Everything that rested on the user has been revoked. -/
@[grind =]
def UserRevoked (id : String) (r : Repo) : Prop :=
  GrantsRevoked (fun g => g.ownerID == id || g.agentID == id) r ∧ MachinesRevoked (fun m => m.ownerID == id) r

/-- Everything that rested on the client has been revoked. -/
@[grind =]
def ClientRevoked (id : String) (r : Repo) : Prop :=
  GrantsRevoked (fun g => g.clientID == id) r ∧ MachinesRevoked (fun m => m.clientID == id) r

/-- The grants consented in the session have been revoked. -/
@[grind =]
def SessionRevoked (s : SessionRecord) (r : Repo) : Prop :=
  GrantsRevoked (fun g => g.decision == .approved && g.machineID == "" && g.humanSID == s.sid &&
    g.ownerID == s.userID) r

/-- A step that creates no grant and no machine. Each row that authority can rest on
    keeps what it conferred, or what rested on it is revoked; new rows take names
    that no row had. -/
@[grind]
structure Sustains (r r' : Repo) : Prop extends Ends r r' where
  registrations : r'.agentMachineRegistrations = r.agentMachineRegistrations
  users : ∀ id u, r.users.lookup id = some u →
    (∃ u', r'.users.lookup id = some u' ∧ agentOAuthAuthorityLost (some u) (some u') = false) ∨
      UserRevoked id r'
  sessions : ∀ key s, r.sessions.lookup key = some s → s.revokedAtMs = 0 →
    r'.sessions.lookup key = some s ∨ SessionRevoked s r'
  clients : ∀ id c, r.oauthClients.lookup id = some c →
    (∃ c', r'.oauthClients.lookup id = some c' ∧ c'.revision = c.revision) ∨ ClientRevoked id r'
  seq_le : r.seq ≤ r'.seq
  new_users : ∀ key u', r'.users.lookup key = some u' →
    (∃ u, r.users.lookup key = some u ∧ u'.id = u.id) ∨
      u'.id = key ∧ ((∃ n, r.seq < n ∧ n ≤ r'.seq ∧ key = memID n) ∨ ∀ n, key ≠ memID n)
  new_sessions : ∀ key s', r'.sessions.lookup key = some s' →
    (∃ s, r.sessions.lookup key = some s) ∨ ∃ n, r.seq < n ∧ n ≤ r'.seq ∧ key = memID n

lemma UserRevoked.of_sustains (hrevoked : UserRevoked id r) (h : Sustains r r') :
    UserRevoked id r' :=
  ⟨hrevoked.1.of_pointwise h.grants, hrevoked.2.of_pointwise h.machines⟩

lemma ClientRevoked.of_sustains (hrevoked : ClientRevoked id r) (h : Sustains r r') : ClientRevoked id r' :=
  ⟨hrevoked.1.of_pointwise h.grants, hrevoked.2.of_pointwise h.machines⟩

/-- A step that changes none of the tables authority can rest on sustains it. -/
lemma RevokeOnly.sustains (h : RevokeOnly r r') : Sustains r r' where
  toEnds := h.toEnds
  registrations := by rw [h.frame]
  users id u hu := .inl ⟨u, by rw [h.frame]; exact hu, authority_kept_self u⟩
  sessions key s hs _ := .inl (by rw [h.frame]; exact hs)
  clients id c hc := .inl ⟨c, by rw [h.frame]; exact hc, rfl⟩
  seq_le := by rw [h.frame]
  new_users key u' hu' := .inl ⟨u', by rw [h.frame] at hu'; exact hu', rfl⟩
  new_sessions key s' hs' := .inl ⟨s', by rw [h.frame] at hs'; exact hs'⟩

/-- Tables that authority does not rest on may change freely. -/
lemma sustains_of_eq (hgrants : r'.agentAuthorizations = r.agentAuthorizations)
    (hmachines : r'.agentMachines = r.agentMachines)
    (hregistrations : r'.agentMachineRegistrations = r.agentMachineRegistrations)
    (husers : r'.users = r.users) (hsessions : r'.sessions = r.sessions)
    (hclients : r'.oauthClients = r.oauthClients) (hseq : r.seq ≤ r'.seq) : Sustains r r' where
  grants := by rw [hgrants]; exact (RevokeOnly.refl r).grants
  machines := by rw [hmachines]; exact (RevokeOnly.refl r).machines
  orphans := by grind
  registrations := hregistrations
  users id u hu := .inl ⟨u, by rw [husers]; exact hu, authority_kept_self u⟩
  sessions key s hs _ := .inl (by rw [hsessions]; exact hs)
  clients id c hc := .inl ⟨c, by rw [hclients]; exact hc, rfl⟩
  seq_le := hseq
  new_users key u' hu' := .inl ⟨u', by rw [husers] at hu'; exact hu', rfl⟩
  new_sessions key s' hs' := .inl ⟨s', by rw [hsessions] at hs'; exact hs'⟩

@[refl] lemma Sustains.refl (r : Repo) : Sustains r r := (RevokeOnly.refl r).sustains

lemma Sustains.trans (h12 : Sustains r1 r2) (h23 : Sustains r2 r3) : Sustains r1 r3 where
  toEnds := h12.toEnds.trans h23.toEnds
  registrations := h23.registrations.trans h12.registrations
  users := by
    intro id u hu
    obtain ⟨u2, hu2, hkept2⟩ | hrevoked := h12.users id u hu
    · grind [authority_kept_trans]
    · exact .inr (hrevoked.of_sustains h23)
  sessions := by
    intro key s hs hlive
    obtain hs2 | hrevoked := h12.sessions key s hs hlive
    · exact h23.sessions key s hs2 hlive
    · exact .inr (hrevoked.of_pointwise h23.grants)
  clients := by
    intro id c hc
    obtain ⟨c2, hc2, hrevision2⟩ | hrevoked := h12.clients id c hc
    · grind
    · exact .inr (hrevoked.of_sustains h23)
  seq_le := Nat.le_trans h12.seq_le h23.seq_le
  new_users := by grind
  new_sessions := by grind

section
variable (h : Sustains r r')
include h

lemma Sustains.keyed (hkeyed : Keyed r) : Keyed r' where
  users := by grind
  machines := by
    intro key m' hm'
    obtain ⟨m, hm, hto⟩ := h.machines.lookup_some_inv hm'
    rw [hto.eq_with]
    exact hkeyed.machines key m hm
  registered := by grind [h.machines.lookup_some_inv]
  fresh_users := by
    intro n hn
    rw [Option.eq_none_iff_forall_ne_some]
    grind [memID_injective]
  fresh_sessions := by
    intro n hn
    rw [Option.eq_none_iff_forall_ne_some]
    grind [memID_injective]

lemma Sustains.hasActiveOwner (hnot : ¬ UserRevoked id r') (howner : r.HasActiveOwner id) : r'.HasActiveOwner id := by
  obtain ⟨owner, hlookup, hactive⟩ := howner
  obtain ⟨owner', hlookup', hkept⟩ := (h.users id owner hlookup).resolve_right hnot
  obtain ⟨-, hkind, hstatus, hanonymous, hmerged⟩ := eq_of_authority_kept hkept
  refine ⟨owner', hlookup', ?_⟩
  simpa only [isActivePerson, isPermanentPerson, User.isAgent, hkind, hstatus, hanonymous, hmerged] using hactive

lemma Sustains.hasActiveAgent
    (hnot : ¬ UserRevoked id r') (hagent : r.HasActiveAgent id ownerID) : r'.HasActiveAgent id ownerID := by
  obtain ⟨agent, hlookup, hisAgent, hactive, howned⟩ := hagent
  obtain ⟨agent', hlookup', hkept⟩ := (h.users id agent hlookup).resolve_right hnot
  obtain ⟨howner, hkind, hstatus, -, -⟩ := eq_of_authority_kept hkept
  refine ⟨agent', hlookup', ?_, ?_, ?_⟩
  · simpa only [User.isAgent, hkind] using hisAgent
  · rwa [hstatus]
  · rwa [howner]

lemma Sustains.hasClientAt
    (hnot : ¬ ClientRevoked id r') (hclient : r.HasClientAt id revision) : r'.HasClientAt id revision := by
  obtain ⟨c, hlookup, hrevision⟩ := hclient
  obtain ⟨c', hlookup', hrevision'⟩ := (h.clients id c hlookup).resolve_right hnot
  exact ⟨c', hlookup', hrevision'.trans hrevision⟩

end

lemma not_userRevoked_of_live (hg : r.agentAuthorizations.lookup key = some g) (hlive : g.revokedAtMs = 0) :
    ¬ UserRevoked g.agentID r := fun h => h.1 key g hg (by simp) hlive

section
variable (h : Sustains r r')
include h

/-- Live authority stays live: whatever could take a row away from a live grant or
    machine would have revoked it. -/
lemma Sustains.supported (hkeyed : Keyed r) (hsupported : Supported r) : Supported r' where
  grants := by
    intro key g' hg' happroved hlive hconsented
    have hnotSession : ∀ s : SessionRecord, s.sid = g'.humanSID → s.userID = g'.ownerID → ¬ SessionRevoked s r' := by
      intro s hsid huser hrevoked
      exact hrevoked key g' hg' (by simp [happroved, hconsented, hsid, huser]) hlive
    obtain ⟨g, hg, hto⟩ := h.grants.lookup_some_inv hg'
    grind [hto.eq_of_live, h.hasActiveOwner, h.hasActiveAgent, h.hasClientAt]
  machines := by
    intro key m' hm' hlive
    obtain ⟨m, hm, hto⟩ := h.machines.lookup_some_inv hm'
    grind [hto.eq_of_live, h.hasActiveOwner, h.hasClientAt]
  children := by
    intro key g' hg' hlive hchild
    have hnotAgent := not_userRevoked_of_live hg' hlive
    obtain ⟨g, hg, hto⟩ := h.grants.lookup_some_inv hg'
    obtain rfl := hto.eq_of_live hlive
    obtain ⟨m, hm, hbefore⟩ := hsupported.children key g' hg hlive hchild
    obtain ⟨m', hm', hto'⟩ := h.machines.lookup_some hm
    by_cases hmlive : m'.revokedAtMs = 0
    · obtain rfl := hto'.eq_of_live hmlive
      exact ⟨m', hm', { hbefore with agent := h.hasActiveAgent hnotAgent hbefore.agent }⟩
    · grind

lemma Sustains.persists : Persists r r' where
  children := by
    intro key g hg hchild
    obtain ⟨g', hg', hto⟩ := h.grants.lookup_some hg
    grind [hto.eq_with]
  machines := by
    intro key m hm
    obtain ⟨m', hm', hto⟩ := h.machines.lookup_some hm
    exact ⟨m', hm', by rw [hto.eq_with]⟩

lemma Sustains.distinct (hdistinct : ChildrenDistinct r) : ChildrenDistinct r' where
  agents := by
    intro key1 key2 g1' g2' hg1' hg2' hchild hmachine hagent
    obtain ⟨g1, hg1, hto1⟩ := h.grants.lookup_some_inv hg1'
    obtain ⟨g2, hg2, hto2⟩ := h.grants.lookup_some_inv hg2'
    grind [hto1.eq_with, hto2.eq_with]
  keys := by
    intro key1 key2 g1' g2' hg1' hg2' hchild hmachine hkey
    obtain ⟨g1, hg1, hto1⟩ := h.grants.lookup_some_inv hg1'
    obtain ⟨g2, hg2, hto2⟩ := h.grants.lookup_some_inv hg2'
    grind [hto1.eq_with, hto2.eq_with]
  machine := by
    intro key g' hg' hchild
    obtain ⟨g, hg, hto⟩ := h.grants.lookup_some_inv hg'
    rw [hto.eq_with] at hchild ⊢
    obtain ⟨m, hm, hkey⟩ := hdistinct.machine key g hg hchild
    obtain ⟨m', hm', hto'⟩ := h.machines.lookup_some hm
    exact ⟨m', hm', by rw [hto'.eq_with]; exact hkey⟩
  approved := by
    intro key g' hg' hchild
    obtain ⟨g, hg, hto⟩ := h.grants.lookup_some_inv hg'
    grind [hto.eq_with]

lemma Sustains.advances (hinv : Inv r) : Advances r r' :=
  ⟨⟨h.keyed hinv.keyed, h.supported hinv.keyed hinv.supported, h.distinct hinv.distinct⟩, h.persists⟩

end
end identity.memory
