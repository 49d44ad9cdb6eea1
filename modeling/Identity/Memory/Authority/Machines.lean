import Identity.Memory.Authority.Sustains
import Identity.Memory.Mutation

open identity.service
namespace identity.memory
open GoMap Repo AgentMachine
open Sustains (refl)

/-- The tables whose rows confer authority are the same in both stores. -/
@[grind]
structure SameBasis (r r' : Repo) : Prop where
  users : r'.users = r.users
  sessions : r'.sessions = r.sessions
  clients : r'.oauthClients = r.oauthClients
  seq : r'.seq = r.seq

/-- Nor do the machines change. -/
@[grind]
structure SameRows (r r' : Repo) : Prop extends SameBasis r r' where
  machines : r'.agentMachines = r.agentMachines
  registrations : r'.agentMachineRegistrations = r.agentMachineRegistrations

lemma SameBasis.grantSupported (h : SameBasis r r') (hg : GrantSupported r g) : GrantSupported r' g where
  owner := by rw [Repo.HasActiveOwner, h.users]; exact hg.owner
  agent := by rw [Repo.HasActiveAgent, h.users]; exact hg.agent
  session := by rw [Repo.HasActiveSession, h.sessions]; exact hg.session
  client := by rw [Repo.HasClientAt, h.clients]; exact hg.client

lemma SameBasis.machineSupported (h : SameBasis r r') (hm : MachineSupported r m) : MachineSupported r' m where
  owner := by rw [Repo.HasActiveOwner, h.users]; exact hm.owner
  client := by rw [Repo.HasClientAt, h.clients]; exact hm.client

lemma SameBasis.childSupported (h : SameBasis r r') (hchild : ChildSupported r g m) : ChildSupported r' g m :=
  { hchild with agent := by rw [Repo.HasActiveAgent, h.users]; exact hchild.agent }

lemma SameRows.keyed (h : SameRows r r') (hkeyed : Keyed r) : Keyed r' where
  users := by rw [h.users]; exact hkeyed.users
  machines := by rw [h.machines]; exact hkeyed.machines
  registered := by rw [h.machines, h.registrations]; exact hkeyed.registered
  fresh_users := by rw [h.users, h.seq]; exact hkeyed.fresh_users
  fresh_sessions := by rw [h.sessions, h.seq]; exact hkeyed.fresh_sessions

/-- A step that leaves the children of machines alone, after which every consented
    grant is supported. -/
lemma advances_of_children_same (hsame : SameRows r r') (hinv : Inv r) (hchild : ∀ key g, g.machineID ≠ "" →
      (r'.agentAuthorizations.lookup key = some g ↔ r.agentAuthorizations.lookup key = some g))
    (hconsented : ∀ key g, r'.agentAuthorizations.lookup key = some g → g.decision = .approved →
      g.revokedAtMs = 0 → g.machineID = "" → GrantSupported r g) : Advances r r' where
  inv := by grind [hsame.keyed]
  persists := by grind

/-- Writing a consented grant that its rows support, over a consented grant or none. -/
lemma advances_of_insert_consented (hsame : SameRows r r') (hinv : Inv r) (hgrants :
    r'.agentAuthorizations = r.agentAuthorizations.insert key next)
    (hconsented : next.machineID = "") (hover : ∀ g, r.agentAuthorizations.lookup key = some g → g.machineID = "")
    (hsupported : next.decision = .approved → next.revokedAtMs = 0 → GrantSupported r next) :
    Advances r r' := by
  refine advances_of_children_same hsame hinv ?_ ?_
  · grind
  · grind

/-- Revoking one grant in place, or leaving it as it is. -/
lemma sustains_of_insert_revoked (hsame : SameRows r r')
    (hcurrent : r.agentAuthorizations.lookup key = some current)
    (hgrants : r'.agentAuthorizations = r.agentAuthorizations.insert key next)
    (hto : current.RevokedTo next) : Sustains r r' := by
  have hrevoke : RevokeOnly r { r with agentAuthorizations := r.agentAuthorizations.insert key next } :=
    { RevokeOnly.refl r with
      grants := pointwise_insert AgentAuthorization.RevokedTo.refl hcurrent hto
      frame := rfl
      orphans := by
        intro query m m' hm hm' hlive hrevoked
        exact absurd hlive (by rw [Option.some.inj (hm.symm.trans hm')]; exact hrevoked) }
  exact hrevoke.sustains.trans (sustains_of_eq hgrants hsame.machines hsame.registrations hsame.users
    hsame.sessions hsame.clients (Nat.le_of_eq hsame.seq.symm))

lemma createAgentAuthorization_advances (hinv : Inv r) (p : Platform) (request : AgentAuthorization) :
    Advances r (r.createAgentAuthorization p request).2 := by
  have hsame := (refl r).advances hinv
  unfold createAgentAuthorization
  split
  · exact hsame
  rename_i hvalid
  split
  · exact hsame
  split
  · exact hsame
  split
  · exact hsame
  unfold validateAgentAuthorization at hvalid
  split at hvalid
  · cases hvalid
  grind [advances_of_insert_consented]

/-- What supports a grant is read off five of its fields. -/
lemma GrantSupported.congr (hg : GrantSupported r g) (howner : g'.ownerID = g.ownerID)
    (hagent : g'.agentID = g.agentID) (hsession : g'.humanSID = g.humanSID) (hclient : g'.clientID = g.clientID)
    (hrevision : g'.clientRevision = g.clientRevision) : GrantSupported r g' where
  owner := howner ▸ hg.owner
  agent := hagent ▸ howner ▸ hg.agent
  session := hsession ▸ howner ▸ hg.session
  client := hclient ▸ hrevision ▸ hg.client

/-- Authority under which a consented grant is valid supports it. -/
lemma grantSupported_of_valid {a : AgentOAuthAuthority}
    (howner : a.owner = r.users.lookup g.ownerID) (hagent : a.agent = r.users.lookup g.agentID)
    (hsession : a.humanSession = r.sessions.findRow fun s => s.sid == g.humanSID)
    (hclient : a.client = r.oauthClients.lookup g.clientID) (hconsented : g.machineID = "")
    (hvalid : a.valid p g = true) : GrantSupported r g := by
  simp only [AgentOAuthAuthority.valid, hconsented, ne_eq, not_true_eq_false, if_false,
    AgentOAuthAuthority.validConsented, Option.any_eq_true, Bool.and_eq_true, beq_iff_eq] at hvalid
  obtain ⟨owner, hownerRow, ⟨⟨heligible, agent, hagentRow, ⟨⟨⟨hisAgent, hactive⟩, howned⟩, hownerID⟩, -⟩,
    session, hsessionRow, ⟨hsid, huser⟩, hlive⟩, client, hclientRow, ⟨-, hrevision⟩, -⟩ := hvalid
  rw [howner] at hownerRow
  rw [hagent] at hagentRow
  rw [hsession] at hsessionRow
  rw [hclient] at hclientRow
  obtain ⟨⟨key, hkey⟩, -⟩ := findRow_some hsessionRow
  exact ⟨⟨owner, hownerRow, heligible⟩, ⟨agent, hagentRow, hisAgent, hactive, howned.trans hownerID⟩,
    ⟨key, session, hkey, hsid, huser, hlive⟩, ⟨client, hclientRow, hrevision⟩⟩

lemma commitAuthorization_sameRows (r : Repo) (id : String) (next : AgentAuthorization) :
    SameRows r (r.commitAuthorization id next) := ⟨⟨rfl, rfl, rfl, rfl⟩, rfl, rfl⟩

/-- The refresh table is not one that authority rests on. -/
lemma commitRefresh_frame (r : Repo) (id : String) (m : AgentOAuthMutation) :
    r.commitRefresh id m = { r with agentOAuthRefresh := (r.commitRefresh id m).agentOAuthRefresh } := by
  unfold commitRefresh
  split <;> split <;> rfl

lemma commitRefresh_sameRows (hsame : SameRows r r') (id : String) (m : AgentOAuthMutation) :
    SameRows r (r'.commitRefresh id m) := by
  rw [commitRefresh_frame]
  exact ⟨⟨hsame.users, hsame.sessions, hsame.clients, hsame.seq⟩, hsame.machines, hsame.registrations⟩

/-- An applied mutation is a revocation in place or a supported write of a consented
    grant. -/
lemma mutated_advances (hinv : Inv r) {id : String}
    (hcurrent : r.agentAuthorizations.lookup id = some current) (hpos : 0 < m.atMs)
    (hmutated : current.Mutated p (r.mutationAuthority current m) (r.agentOAuthRefresh.lookup m.refreshHash) m next)
    (hsame : SameRows r r') (hgrants : r'.agentAuthorizations = r.agentAuthorizations.insert id next) :
    Advances r r' := by
  have hover : current.machineID = "" → ∀ g, r.agentAuthorizations.lookup id = some g → g.machineID = "" := by grind
  have hpendingConsented : current.decision = .pending → current.machineID = "" := by grind
  have hkeep : current.Admits p (r.mutationAuthority current m) m → current.machineID = "" →
      GrantSupported r current :=
    fun hadmits hconsented => hinv.supported.grants id current hcurrent hadmits.approved hadmits.live hconsented
  cases hmutated with
  | revoke hop howner hlive =>
    exact (sustains_of_insert_revoked hsame hcurrent hgrants (.inr ⟨hlive, m.atMs, hpos, rfl⟩)).advances hinv
  | revokedBefore | validate =>
    exact (sustains_of_insert_revoked hsame hcurrent hgrants (.refl current)).advances hinv
  | deny hop hlive hpending => grind [advances_of_insert_consented]
  | approve hop hlive hpending hvalid hcode =>
    have hconsented := hpendingConsented hpending
    refine advances_of_insert_consented hsame hinv hgrants hconsented (hover hconsented) fun _ _ => ?_
    have hauthority : r.mutationAuthority current m =
        { r.oauthAuthorityLocked m.ownerID m.agentID m.humanSID current.clientID with
          machine := r.agentMachines.lookup current.machineID } := by
      simp [mutationAuthority, hop]
    rw [hauthority] at hvalid
    have hnamed : GrantSupported r
        { current with ownerID := m.ownerID, agentID := m.agentID, humanSID := m.humanSID } :=
      grantSupported_of_valid rfl rfl rfl rfl hconsented hvalid
    exact hnamed.congr rfl rfl rfl rfl rfl
  | redeem hop hadmits hconsented | rotate token hop hadmits hconsented =>
    exact advances_of_insert_consented hsame hinv hgrants hconsented (hover hconsented)
      fun _ _ => (hkeep hadmits hconsented).congr rfl rfl rfl rfl rfl

lemma mutateAgentAuthorization_advances (hinv : Inv r) (p : Platform) (id : String) (m : AgentOAuthMutation) :
    Advances r (r.mutateAgentAuthorization p id m).2 := by
  have hresult := mutateAgentAuthorization_result p r id m
  generalize r.mutateAgentAuthorization p id m = out at hresult
  cases hresult with
  | refused err => exact (refl r).advances hinv
  | applied hcurrent hpos hmutated hfree hcode =>
    refine mutated_advances hinv hcurrent hpos hmutated ?_ ?_
    · exact commitRefresh_sameRows (commitAuthorization_sameRows r id _) id m
    · exact congrArg Repo.agentAuthorizations (commitRefresh_frame _ id m)
  | replayed err hcurrent hpos hreplayed hcode =>
    exact (sustains_of_insert_revoked (commitAuthorization_sameRows r id _) hcurrent rfl
      (.inr ⟨hreplayed.admits.live, m.atMs, hpos, hreplayed.next_eq⟩)).advances hinv

/-- The sweep's loop drops exactly the listed keys. -/
lemma sweep_loop (expired : List String) (r : Repo) :
    let swept := expired.foldl (fun r' id =>
        { r' with
          agentOAuthCodes := r'.agentOAuthCodes.erase (((r'.agentAuthorizations.lookup id).map (·.codeHash)).getD "")
          agentAuthorizations := r'.agentAuthorizations.erase id })
      r
    SameRows r swept ∧ ∀ key, swept.agentAuthorizations.lookup key =
      if key ∈ expired then none else r.agentAuthorizations.lookup key := by
  induction expired generalizing r with
  | nil => exact ⟨⟨⟨rfl, rfl, rfl, rfl⟩, rfl, rfl⟩, fun key => by simp⟩
  | cons id rest ih =>
    obtain ⟨⟨hbasis, hmachines, hregistrations⟩, hlookup⟩ := ih
      { r with
        agentOAuthCodes := r.agentOAuthCodes.erase (((r.agentAuthorizations.lookup id).map (·.codeHash)).getD "")
        agentAuthorizations := r.agentAuthorizations.erase id }
    refine ⟨⟨⟨hbasis.users, hbasis.sessions, hbasis.clients, hbasis.seq⟩, hmachines, hregistrations⟩, fun key => ?_⟩
    grind

lemma deleteExpiredAgentAuthorizations_advances (hinv : Inv r) (beforeMs limit : Int) :
    Advances r (r.deleteExpiredAgentAuthorizations beforeMs limit).2 := by
  unfold deleteExpiredAgentAuthorizations
  split
  · exact (refl r).advances hinv
  generalize hexpired : (((r.agentAuthorizations.entries.filter fun entry => sweepable beforeMs entry.2).map
    fun entry => entry.1).insertionSort (· ≤ ·)).take limit.toNat = expired
  have hswept : ∀ key ∈ expired, ∀ g, r.agentAuthorizations.lookup key = some g → g.machineID = "" := by
    intro key hkey g hg
    rw [← hexpired] at hkey
    have hmem := List.mem_of_mem_take hkey
    rw [List.mem_insertionSort] at hmem
    simp only [List.mem_map, List.mem_filter] at hmem
    obtain ⟨entry, ⟨hentry, hsweep⟩, rfl⟩ := hmem
    have hlookup : r.agentAuthorizations.lookup entry.1 = some entry.2 := AList.mem_lookup_iff.mpr hentry
    rw [hlookup] at hg
    cases hg
    simp only [sweepable, Bool.and_eq_true, beq_iff_eq] at hsweep
    exact hsweep.1.1
  obtain ⟨⟨hbasis, hmachines, hregistrations⟩, hlookup⟩ := sweep_loop expired r
  refine advances_of_children_same
    ⟨⟨hbasis.users, hbasis.sessions, hbasis.clients, hbasis.seq⟩, hmachines, hregistrations⟩ hinv ?_ ?_
  · grind
  · grind

variable {a : AgentOAuthAuthority}
section
variable {r : Repo}

/-- Authority under which a machine is valid supports it. -/
lemma machineSupported_of_valid
    (howner : a.owner = r.users.lookup m.ownerID) (hclient : a.client = r.oauthClients.lookup m.clientID)
    (hvalid : a.validMachine p m = true) : MachineSupported r m := by
  unfold AgentOAuthAuthority.validMachine at hvalid
  split at hvalid
  · cases hvalid
  rename_i client hclientRow
  simp only [Bool.and_eq_true, beq_iff_eq, Option.any_eq_true] at hvalid
  obtain ⟨⟨⟨⟨⟨-, owner, hownerRow, heligible⟩, -⟩, -⟩, hrevision⟩, -⟩ := hvalid
  exact ⟨⟨owner, howner ▸ hownerRow, heligible⟩, ⟨client, hclient ▸ hclientRow, hrevision⟩⟩

/-- Writing a machine under its own name, with the children it does not support
    revoked. -/
lemma advances_of_insert_machine (hbasis : SameBasis r r') (hinv : Inv r)
    (hmachines : r'.agentMachines = r.agentMachines.insert next.id next)
    (hregistered : ∀ key, (r.agentMachineRegistrations.lookup key).isSome = true ∨ key = next.id →
      (r'.agentMachineRegistrations.lookup key).isSome = true)
    (hgrants : r.agentAuthorizations.Pointwise AgentAuthorization.RevokedTo r'.agentAuthorizations)
    (hnext : next.revokedAtMs = 0 → MachineSupported r next)
    (hover : ∀ m, r.agentMachines.lookup next.id = some m → next.publicKey = m.publicKey)
    (hchildren : ∀ key g m, r'.agentAuthorizations.lookup key = some g → g.revokedAtMs = 0 →
      g.machineID = next.id → r.agentMachines.lookup next.id = some m → ChildSupported r g m →
      ChildSupported r g next) : Advances r r' := by
  have hkept : ∀ key m, r.agentMachines.lookup key = some m →
      ∃ m', r'.agentMachines.lookup key = some m' ∧ m'.publicKey = m.publicKey := by
    intro key m hm
    rw [hmachines, lookup_insert_eq]
    split
    · rename_i heq
      subst heq
      exact ⟨next, rfl, hover m hm⟩
    · exact ⟨m, hm, rfl⟩
  have hrevoked : Sustains r { r with agentAuthorizations := r'.agentAuthorizations } :=
    RevokeOnly.sustains
      { RevokeOnly.refl r with
        frame := rfl
        grants := hgrants
        orphans := by
          intro key m m' hm hm' hlive hrevoked
          exact absurd hlive (by rw [Option.some.inj (hm.symm.trans hm')]; exact hrevoked) }
  have hmid := hrevoked.advances hinv
  refine ⟨⟨⟨?_, ?_, ?_, ?_, ?_⟩, ⟨?_, ?_, ?_⟩, ⟨?_, ?_, ?_, ?_⟩⟩, ⟨?_, hkept⟩⟩
  · rw [hbasis.users]
    exact hinv.keyed.users
  · intro key m hm
    rw [hmachines, lookup_insert_eq] at hm
    split at hm
    · rename_i heq
      cases hm
      exact heq.symm
    · exact hinv.keyed.machines key m hm
  · intro key m hm
    rw [hmachines, lookup_insert_eq] at hm
    split at hm
    · rename_i heq
      exact hregistered key (.inr heq)
    · exact hregistered key (.inl (hinv.keyed.registered key m hm))
  · rw [hbasis.users, hbasis.seq]
    exact hinv.keyed.fresh_users
  · rw [hbasis.sessions, hbasis.seq]
    exact hinv.keyed.fresh_sessions
  · intro key g hg happroved hlive hconsented
    obtain ⟨g0, hg0, hto⟩ := hgrants.lookup_some_inv hg
    obtain rfl := hto.eq_of_live hlive
    exact hbasis.grantSupported (hinv.supported.grants key g hg0 happroved hlive hconsented)
  · intro key m hm hlive
    rw [hmachines, lookup_insert_eq] at hm
    split at hm
    · cases hm
      exact hbasis.machineSupported (hnext hlive)
    · exact hbasis.machineSupported (hinv.supported.machines key m hm hlive)
  · intro key g hg hlive hchild
    obtain ⟨g0, hg0, hto⟩ := hgrants.lookup_some_inv hg
    obtain rfl := hto.eq_of_live hlive
    obtain ⟨m, hm, hbefore⟩ := hinv.supported.children key g hg0 hlive hchild
    rw [hmachines, lookup_insert_eq]
    split
    · rename_i heq
      exact ⟨next, rfl, hbasis.childSupported (hchildren key g m hg hlive heq (heq ▸ hm) hbefore)⟩
    · exact ⟨m, hm, hbasis.childSupported hbefore⟩
  · exact hmid.inv.distinct.agents
  · exact hmid.inv.distinct.keys
  · intro key g hg hchild
    obtain ⟨m, hm, hne⟩ := hmid.inv.distinct.machine key g hg hchild
    obtain ⟨m', hm', hkey⟩ := hkept _ m hm
    exact ⟨m', hm', hkey ▸ hne⟩
  · exact hmid.inv.distinct.approved
  · exact hmid.persists.children

/-- A machine is registered only under a name that no machine has had. -/
lemma createAgentMachine_advances (hinv : Inv r) (p : Platform) (input : AgentMachine) (fingerprint : String) :
    Advances r (r.createAgentMachine p input fingerprint).2 := by
  have hrefl := (refl r).advances hinv
  unfold createAgentMachine
  split
  · exact hrefl
  dsimp only
  split
  · exact hrefl
  rename_i hchecks
  simp only [Bool.or_eq_true, Bool.not_eq_true', not_or, Bool.not_eq_false,
    AgentOAuthAuthority.validMachineRegistration, Bool.and_eq_true] at hchecks
  split
  · split <;> exact hrefl
  have hfresh : ∀ m, r.agentMachines.lookup input.id ≠ some m := by grind
  refine advances_of_insert_machine ⟨rfl, rfl, rfl, rfl⟩ hinv rfl ?_ (.refl AgentAuthorization.RevokedTo.refl _)
    (fun _ => machineSupported_of_valid rfl rfl hchecks.1.1)
    (fun m hm => absurd hm (hfresh m)) (fun _ _ m _ _ _ hm => absurd hm (hfresh m))
  grind

lemma mutateAgentMachine_advances (hinv : Inv r) (p : Platform) (id : String) (m : AgentMachineMutation) :
    Advances r (r.mutateAgentMachine p id m).2 := by
  have hrefl := (refl r).advances hinv
  unfold Repo.mutateAgentMachine
  split
  · exact hrefl
  rename_i next happly
  obtain ⟨hpos, current, hcurrent, hid, howner, hclient, hrevision, hresource, hproduct, hscopes, hkey, hlive⟩ :=
    applyAgentMachineMutation_ok happly
  have hname : next.id = id := hid.trans (hinv.keyed.machines id current hcurrent)
  subst hname
  split
  · exact hrefl
  refine advances_of_insert_machine ⟨rfl, rfl, rfl, rfl⟩ hinv rfl ?_
    (revokeGrants_revokeOnly { r with agentMachines := r.agentMachines.insert next.id next } _ hpos).grants
    ?_ ?_ ?_
  · rintro key (hkey | rfl)
    · exact hkey
    · exact hinv.keyed.registered _ current hcurrent
  · grind
  · grind
  intro key g m' hg hgLive hchild hm' hbefore
  -- a child the new selection leaves out was revoked in this very step
  have hallows : next.allows g.agentID = true := by grind [revokeGrants_grantsRevoked]
  have hnextLive : next.revokedAtMs = 0 := by
    simp only [allows, Bool.and_eq_true, beq_iff_eq] at hallows
    exact hallows.1.1.1
  grind

/-- Writing a new child under a free name. -/
lemma advances_of_insert_child (hsame : SameRows r r') (hinv : Inv r) (hgrants :
    r'.agentAuthorizations = r.agentAuthorizations.insert child.id child)
    (hfree : r.agentAuthorizations.lookup child.id = none)
    (hm : r.agentMachines.lookup child.machineID = some m) (hsupported : ChildSupported r child m)
    (happroved : child.decision = .approved) (hown : child.machinePublicKey ≠ m.publicKey)
    (hchild : child.machineID ≠ "")
    (hagents : ∀ key g, r.agentAuthorizations.lookup key = some g → g.machineID = child.machineID →
      g.agentID ≠ child.agentID)
    (hkeys : ∀ key g, r.agentAuthorizations.lookup key = some g → g.machineID = child.machineID →
      g.machinePublicKey ≠ child.machinePublicKey) : Advances r r' := by
  refine ⟨⟨hsame.keyed hinv.keyed, ⟨?_, ?_, ?_⟩, ⟨?_, ?_, ?_, ?_⟩⟩, ⟨?_, ?_⟩⟩
  · grind
  · grind
  · grind
  · grind
  · grind
  · grind
  · grind
  · grind
  · grind

/-- The checks a new child has passed. -/
lemma validateMachineDelegation_ok
    (hvalidate : validateMachineDelegation p m a grant enginePublicKey fingerprint = .ok ()) :
    a.validMachine p m = true ∧ a.valid p grant = true ∧ grant.machineID = m.id ∧
      grant.machinePublicKey ≠ m.publicKey ∧ grant.ownerID = m.ownerID ∧ grant.clientID = m.clientID ∧
      grant.clientRevision = m.clientRevision ∧ grant.resource = m.resource ∧ grant.product = m.product ∧
      grant.scopes = m.scopes ∧ m.allows grant.agentID = true ∧ grant.decision = .approved ∧
      grant.humanSID = "" := by
  unfold validateMachineDelegation at hvalidate
  split at hvalidate
  · cases hvalidate
  · grind

lemma hasActiveAgent_of_validChild
    (hagent : a.agent = r.users.lookup g.agentID) (hchild : g.machineID ≠ "") (hvalid : a.valid p g = true) :
    r.HasActiveAgent g.agentID g.ownerID := by
  simp only [AgentOAuthAuthority.valid, hchild, ne_eq, not_false_eq_true, if_true,
    AgentOAuthAuthority.validChild, Option.any_eq_true, Bool.and_eq_true, beq_iff_eq] at hvalid
  obtain ⟨m, -, hrest⟩ := hvalid
  obtain ⟨agent, hrow, ⟨⟨hisAgent, hactive⟩, howned⟩, -⟩ := hrest.1.1.1.1.1.1.1.1.2
  exact ⟨agent, hagent ▸ hrow, hisAgent, hactive, howned⟩

lemma ensureAgentMachineDelegation_advances (hinv : Inv r) (p : Platform) (id : String)
    (candidate : AgentAuthorization) (enginePublicKey fingerprint : String) :
    Advances r (r.ensureAgentMachineDelegation p id candidate enginePublicKey fingerprint).2 := by
  have hrefl := (refl r).advances hinv
  unfold ensureAgentMachineDelegation
  split
  · exact hrefl
  rename_i m hm
  dsimp only
  split
  · exact hrefl
  rename_i hvalidate
  obtain ⟨hmachine, hvalid, hid, hkey, howner, hclient, hrevision, hresource, hproduct, hscopes, hallows,
    happroved, hsid⟩ := validateMachineDelegation_ok hvalidate
  have hname : candidate.machineID = id := hid.trans (hinv.keyed.machines id m hm)
  split
  · split <;> exact hrefl
  split
  · exact hrefl
  rename_i hfree
  rw [Bool.not_eq_true, Option.isSome_eq_false_iff, Option.isNone_iff_eq_none] at hfree
  split
  · exact hrefl
  by_cases hchild : candidate.machineID = ""
  · refine advances_of_insert_consented ⟨⟨rfl, rfl, rfl, rfl⟩, rfl, rfl⟩ hinv rfl hchild ?_
      fun _ _ => grantSupported_of_valid ?_ rfl ?_ ?_ hchild hvalid
    · intro g hg
      rw [hfree] at hg
      cases hg
    · rw [howner]
      rfl
    · rw [hsid]
      rfl
    · rw [hclient]
      rfl
  have hm' : r.agentMachines.lookup candidate.machineID = some m := by rw [hname]; exact hm
  refine advances_of_insert_child ⟨⟨rfl, rfl, rfl, rfl⟩, rfl, rfl⟩ hinv rfl hfree hm' ?_ happroved hkey hchild ?_ ?_
  · have hlive : m.revokedAtMs = 0 := by
      simp only [allows, Bool.and_eq_true, beq_iff_eq] at hallows
      exact hallows.1.1.1
    have hactive : r.HasActiveAgent candidate.agentID candidate.ownerID :=
      hasActiveAgent_of_validChild rfl hchild hvalid
    exact ⟨hlive, hallows, howner ▸ hactive, howner, hresource, hproduct, hscopes, hclient, hrevision⟩
  · grind [findRow_eq_none_iff]
  · grind

end
end identity.memory
