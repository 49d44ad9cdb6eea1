import Identity.Flows.Agents.Accounts
import Identity.Memory.Users.Receipts
import Identity.Repository.Delegation

open identity.repository identity.memory
namespace identity.service

/-- A call of one deployment that may give an owner one more agent, or that offers an agent
    or withdraws an offer. -/
inductive CapacityCall where
  | create (callerID name avatarURL ownerUserID clientRequestID : String)
  | transfer (callerID agentID newOwnerID : String)
  | accept (callerID agentID : String)
  | decline (callerID agentID : String)
  | cancel (callerID agentID : String)

def CapacityCall.flow (rules : AgentRules) : CapacityCall → ServiceCall User
  | create callerID name avatarURL ownerUserID clientRequestID =>
    rules.createAgent callerID name avatarURL ownerUserID clientRequestID
  | transfer callerID agentID newOwnerID => rules.transferAgent callerID agentID newOwnerID
  | accept callerID agentID => rules.acceptAgentTransfer callerID agentID
  | decline callerID agentID => rules.declineAgentTransfer callerID agentID
  | cancel callerID agentID => rules.cancelAgentTransfer callerID agentID

def CapacityCall.program (rules : AgentRules) (call : CapacityCall) : Call Request.Response (Except Err User) :=
  (call.flow rules).call

/-- A row that keeps its kind and its owner. -/
@[grind]
structure SameOwned (u u' : User) : Prop where
  kind : u'.isAgent = u.isAgent
  owner : u'.ownerUserID = u.ownerUserID

lemma SameOwned.refl (u : User) : SameOwned u u := ⟨rfl, rfl⟩

/-- What these calls may ask: an agent is taken by a call that has counted, a creation
    carries the limit with it. -/
def CapacityGuard (rules : AgentRules) (caller : Nat) (own : Trace) : Request → Prop
  | .user (.settleAgentTransfer _ pendingOwnerID accept _) => accept = true → Counted caller own rules pendingOwnerID
  | .user (.setAgentOwnership _ expectedOwnerID ownerID _ _) =>
    ownerID = expectedOwnerID ∨ Counted caller own rules ownerID
  | .user (.createAgent request) => request.ownerLimit = rules.agentsPerOwnerLimit
  | q => LeavesRows SameOwned q

/-- Every call of this deployment that takes an agent has counted. -/
lemma admits_capacityGuard (haccept : ∀ other callerID agentID, call = .accept other callerID agentID → other = rules)
    (htransfer : ∀ other callerID agentID newOwnerID, call = .transfer other callerID agentID newOwnerID →
      other = rules) :
    AdmitsSteps call caller (CapacityGuard rules caller) where
  plain {own q} hplain := by
    unfold CapacityGuard
    split
    · cases hplain
    · cases hplain
    · cases hplain
    · exact leavesRows_of_isPlain SameOwned.refl hplain
  sessions {own q} hleaves := by
    unfold CapacityGuard
    split
    · cases hleaves
    · cases hleaves
    · cases hleaves
    · exact leavesRows_of_leavesUsers SameOwned.refl hleaves
  settle _ haccepts hyes := by
    obtain ⟨other, callerID, agentID, actor, hcall, -, -, hcounted⟩ := haccepts hyes
    rwa [haccept other callerID agentID hcall] at hcounted
  set _ hwrite := by
    rcases hwrite with hoffers | ⟨-, other, callerID, agentID, newOwnerID, actor, newOwner, hcall,
      -, -, -, -, -, -, hcounted, -⟩
    · exact .inl hoffers.1
    · rw [htransfer other callerID agentID newOwnerID hcall] at hcounted
      exact .inr hcounted

/-- The owner of a new agent is the caller or was read. -/
lemma creationOwner_keeps {guard : Trace → Request → Prop}
    (hadmits : AdmitsSteps call caller guard) (actor : User) (isAdmin : Bool) (ownerUserID : String) :
    (AgentRules.creationOwner actor isAdmin ownerUserID).Asks caller guard own := by
  unfold AgentRules.creationOwner
  refine .ite (fun _ => ?_) fun _ => trivial
  refine .past fun _ => ?_
  refine .getUser (hadmits.plain rfl) fun found => ?_
  cases found with
  | none => trivial
  | some owner => exact .past fun _ => trivial

lemma createAgent_keeps (hadmits : AdmitsSteps call caller (CapacityGuard rules caller))
    (callerID name avatarURL ownerUserID clientRequestID : String) :
    (rules.createAgent callerID name avatarURL ownerUserID clientRequestID).Asks caller
      (CapacityGuard rules caller) own := by
  refine (rules.agentCaller_keeps hadmits callerID).seq ?_
  rintro own1 ⟨actor, isAdmin⟩ -
  refine .check (fun profile _ => ?_) fun _ _ => trivial
  refine (creationOwner_keeps hadmits actor isAdmin ownerUserID).seq ?_
  rintro own2 owner -
  refine .check (fun _ _ => ?_) fun _ _ => trivial
  refine .nowMs (hadmits.plain rfl) fun now => ?_
  exact .attemptRequest rfl fun _ => ⟨fun _ _ => trivial, fun _ _ => trivial⟩

/-- For the calls that take no agent. -/
lemma admits_capacityGuard_cancel : AdmitsSteps (.cancel rules "" "") caller (CapacityGuard rules caller) :=
  admits_capacityGuard (fun _ _ _ heq => by cases heq) fun _ _ _ _ heq => by cases heq

lemma CapacityCall.keeps (call : CapacityCall) : (call.flow rules).Asks caller (CapacityGuard rules caller) [] := by
  cases call with
  | create callerID name avatarURL ownerUserID clientRequestID =>
    exact createAgent_keeps admits_capacityGuard_cancel callerID name avatarURL ownerUserID clientRequestID
  | transfer callerID agentID newOwnerID =>
    refine rules.transferAgent_keeps (admits_capacityGuard ?_ ?_)
    · exact fun _ _ _ heq => by cases heq
    · exact fun _ _ _ _ heq => by cases heq; rfl
  | accept callerID agentID =>
    refine rules.acceptAgentTransfer_keeps (admits_capacityGuard ?_ ?_)
    · exact fun _ _ _ heq => by cases heq; rfl
    · exact fun _ _ _ _ heq => by cases heq
  | decline callerID agentID =>
    exact rules.declineAgentTransfer_keeps admits_capacityGuard_cancel callerID agentID
  | cancel callerID agentID =>
    exact rules.cancelAgentTransfer_keeps admits_capacityGuard_cancel callerID agentID

abbrev CapacityPool : Type := Pool Request.Response Repo (Except Err User)

section Crossing
variable (rules : AgentRules) (ownerID : String)

/-- The event is the call's count of fewer agents than the owner may have. -/
def countsRoom (caller : Nat) : StoreEvent → Bool
  | ⟨counter, .user (.listOwnedAgents listed), agents⟩ =>
    counter == caller && listed == ownerID && decide (((agents : List User).length : Int) < rules.agentsPerOwnerLimit)
  | _ => false

/-- A call that has counted room for one more agent takes one for the owner, who has as many
    as are allowed by now. -/
def crossesCap (pool : CapacityPool) (caller : Nat) (q : Request) : Bool :=
  (match q with
    | .user (.settleAgentTransfer _ pendingOwnerID accept _) => accept && pendingOwnerID == ownerID
    | .user (.setAgentOwnership _ expectedOwnerID newOwnerID _ _) =>
      newOwnerID == ownerID && expectedOwnerID != ownerID
    | _ => false) &&
  decide (rules.agentsPerOwnerLimit ≤ pool.store.countAgents ownerID) &&
    pool.trace.any (countsRoom rules ownerID caller)

variable {rules ownerID}

lemma any_countsRoom
    (hcounted : Counted caller (Pool.own trace caller) rules ownerID) :
    trace.any (countsRoom rules ownerID caller) = true := by
  obtain ⟨agents, hagents, hroom⟩ := hcounted
  refine List.any_eq_true.mpr ⟨_, (Pool.mem_trace hagents), ?_⟩
  simp [ownedRead, countsRoom, hroom]

end Crossing

section Step
variable {r r' : Repo} (ownerID : String)

/-- Rows that keep their kinds and owners: the owner has no more agents. -/
lemma countAgents_le_of_pointwise (hrows : r.users.Pointwise SameOwned r'.users) :
    r'.countAgents ownerID ≤ r.countAgents ownerID := by
  refine GoMap.length_filter_rows_le [] fun key u' hu' hcounted => .inl ?_
  cases hu : r.users.lookup key with
  | none =>
    rw [hrows.lookup_none.mpr hu] at hu'
    cases hu'
  | some u => grind [hrows.lookup_some]

/-- One row written: at most one more, and none if the row was the owner's before or is not
    the owner's now. -/
lemma countAgents_le_of_insert (husers : r'.users = r.users.insert key u') :
    r'.countAgents ownerID ≤ r.countAgents ownerID + 1 ∧
      ((u'.ownerUserID = ownerID → ∃ u, r.users.lookup key = some u ∧ u.isAgent = u'.isAgent ∧
        u.ownerUserID = ownerID) →
        r'.countAgents ownerID ≤ r.countAgents ownerID) := by
  constructor
  · refine GoMap.length_filter_rows_le [key] fun k v hv hcounted => ?_
    grind
  intro hbefore
  refine GoMap.length_filter_rows_le [] fun k v hv hcounted => .inl ?_
  grind

variable (r : Repo)

lemma changeAgent_countAgents (agentID : String) (change : User → Option User) (atMs : Int) (takes : Bool)
    (hchange : ¬ takes → ∀ u after, change u = some after → after.ownerUserID = ownerID →
      u.isAgent = after.isAgent ∧ u.ownerUserID = ownerID) :
    (r.changeAgent agentID change atMs).2.countAgents ownerID ≤ r.countAgents ownerID + if takes then 1 else 0 := by
  rcases changeAgent_cases r agentID change atMs with hsame | ⟨u, after, hu, hafter, husers, -⟩
  · rw [hsame]
    exact Nat.le_add_right _ _
  obtain ⟨hmore, hkept⟩ := countAgents_le_of_insert ownerID husers
  split
  · exact hmore
  · rename_i htakes
    exact hkept fun howner => ⟨u, hu, hchange htakes u after hafter howner⟩

lemma settleAgentTransfer_countAgents (agentID pendingOwnerID : String) (accept : Bool) (atMs : Int) :
    (r.settleAgentTransfer agentID pendingOwnerID accept atMs).2.countAgents ownerID ≤
      r.countAgents ownerID + if accept && pendingOwnerID == ownerID then 1 else 0 := by
  unfold Repo.settleAgentTransfer
  split
  · exact Nat.le_add_right _ _
  · refine changeAgent_countAgents ownerID r agentID _ atMs _ fun htakes u after hafter howner => ?_
    unfold settledAgent at hafter
    split at hafter
    · cases hafter
    cases hafter
    exact ⟨rfl, by grind⟩

lemma setAgentOwnership_countAgents (agentID expectedOwnerID newOwnerID pendingOwnerID : String) (atMs : Int) :
    (r.setAgentOwnership agentID expectedOwnerID newOwnerID pendingOwnerID atMs).2.countAgents ownerID ≤
      r.countAgents ownerID + if newOwnerID == ownerID && expectedOwnerID != ownerID then 1 else 0 := by
  unfold Repo.setAgentOwnership
  split
  · exact Nat.le_add_right _ _
  · refine changeAgent_countAgents ownerID r agentID _ atMs _ fun htakes u after hafter howner => ?_
    unfold ownedAgent at hafter
    split at hafter
    · cases hafter
    cases hafter
    exact ⟨rfl, by grind⟩

/-- A creation counts and inserts in one step. -/
lemma createAgent_countAgents (request : AgentCreation) :
    (r.createAgent request).2.countAgents ownerID ≤ r.countAgents ownerID ∨
      ((r.createAgent request).2.countAgents ownerID : Int) ≤ request.ownerLimit := by
  have hresult := createAgent_result r request
  generalize r.createAgent request = out at hresult
  cases hresult with
  | refused err hchange =>
    obtain ⟨n, -, rfl⟩ := hchange
    exact .inl le_rfl
  | replayed => exact .inl le_rfl
  | created _ hroom hfree hstored =>
    obtain ⟨hmore, hkept⟩ := countAgents_le_of_insert ownerID hstored
    grind

end Step

/-- The owner has at most the cap and a few agents more. -/
def WithinCap (rules : AgentRules) (ownerID : String) (extra : Nat) (r : Repo) : Prop :=
  (r.countAgents ownerID : Int) ≤ rules.agentsPerOwnerLimit + extra

/-- One step: the owner has no more agents than the cap and the crossings allow. -/
lemma withinCap_step (hinv : WithinCap rules ownerID n pool.store)
    (hguard : CapacityGuard rules caller (Pool.own pool.trace caller) q) (tick : Tick) :
    WithinCap rules ownerID (n + if crossesCap rules ownerID pool caller q then 1 else 0)
      (handle p q tick pool.store).2 := by
  unfold WithinCap at hinv ⊢
  -- a call that takes an agent has counted, so either there is room or the step is a crossing
  have htaken : ∀ (takes : Bool) (after : Nat), crossesCap rules ownerID pool caller q =
        (takes && decide (rules.agentsPerOwnerLimit ≤ pool.store.countAgents ownerID) &&
          pool.trace.any (countsRoom rules ownerID caller)) →
      (takes = true → Counted caller (Pool.own pool.trace caller) rules ownerID) →
      after ≤ pool.store.countAgents ownerID + (if takes then 1 else 0) →
      (after : Int) ≤ rules.agentsPerOwnerLimit + ↑(n + if crossesCap rules ownerID pool caller q then 1 else 0) := by
    intro takes after hcrosses hcounted hle
    cases takes with
    | false =>
      simp only [Bool.false_eq_true, if_false] at hle
      omega
    | true => grind [any_countsRoom]
  unfold CapacityGuard at hguard
  split at hguard
  · rename_i agentID pendingOwnerID accept atMs
    refine htaken (accept && pendingOwnerID == ownerID) _ rfl (fun htakes => ?_)
      (settleAgentTransfer_countAgents ownerID ..)
    grind
  · rename_i agentID expectedOwnerID newOwnerID pendingOwnerID atMs
    refine htaken (newOwnerID == ownerID && expectedOwnerID != ownerID) _ rfl (fun htakes => ?_)
      (setAgentOwnership_countAgents ownerID ..)
    grind
  · rename_i request
    rcases createAgent_countAgents ownerID pool.store request with hle | hle
    · exact htaken false _ rfl (fun h => by cases h) hle
    have hle : ((handle p (.user (.createAgent request)) tick pool.store).2.countAgents ownerID : Int) ≤
        rules.agentsPerOwnerLimit := hguard ▸ hle
    omega
  · have hle := countAgents_le_of_pointwise ownerID (hguard p tick pool.store)
    omega

/-- In every run of these calls the owner has no more agents than the cap allows, but for
    those taken by calls that had counted room which others had used up since. -/
theorem owned_agents_within_cap (p : Platform) (rules : AgentRules) (ownerID : String) (r : Repo)
    (hstart : (r.countAgents ownerID : Int) ≤ rules.agentsPerOwnerLimit) (calls : List CapacityCall)
    (schedule : List (Nat × Tick)) :
    let start : CapacityPool := Pool.start r (calls.map (CapacityCall.program rules))
    ((start.run (handle p) schedule).store.countAgents ownerID : Int) ≤
      rules.agentsPerOwnerLimit + Pool.tally (handle p) (crossesCap rules ownerID) start schedule := by
  intro start
  have hkeep : start.Keep (fun caller own q => ∃ call, calls[caller]? = some call ∧ CapacityGuard rules caller own q)
      (fun caller _ _ => ∃ call, calls[caller]? = some call ∧ True) :=
    Pool.keep_start (fun call caller => Call.Keeps.mono call.keeps fun _ _ _ => trivial) r
  let inv (extra : Nat) (pool : CapacityPool) : Prop := WithinCap rules ownerID extra pool.store
  have hinv : inv 0 start := le_of_le_of_eq hstart (Int.add_zero _).symm
  have hrun : inv (0 + Pool.tally (handle p) (crossesCap rules ownerID) start schedule)
    (start.run (handle p) schedule) := by
    refine Pool.tally_invariant (fun n pool caller tick q next hinv hcall hguard => ?_) hkeep hinv schedule
    obtain ⟨-, -, hguard⟩ := hguard
    rw [Pool.step_request hcall]
    exact withinCap_step hinv hguard tick
  rwa [Nat.zero_add] at hrun

/-- One agent an owner. -/
def sampleCapRules : AgentRules where
  agentsEnabled := true
  agentsMaxPerOwner := 1
  parseURL _ := none
  agentCreationFingerprint _ := ""

/-- One of alice's agents, offered to bob. -/
def sampleOffered (id : String) : User where
  id := id
  status := statusActive
  kind := .agent
  ownerUserID := "alice"
  pendingOwnerUserID := "bob"

def sampleOffersStore : Repo :=
  { new with
    users := (((∅ : GoMap String User).insert "bob" { id := "bob", status := statusActive, kind := .person }).insert
      "robot-1" (sampleOffered "robot-1")).insert "robot-2" (sampleOffered "robot-2") }

def sampleAcceptances : CapacityPool :=
  Pool.start sampleOffersStore
    ([CapacityCall.accept "bob" "robot-1", .accept "bob" "robot-2"].map (CapacityCall.program sampleCapRules))

/-- Bob accepts one offer after the other: the second finds the cap reached. -/
theorem owned_agents_within_cap_in_turn :
    let turns := sampleTurns (List.replicate 7 0 ++ List.replicate 7 1)
    Pool.tally (handle tokenPlatform) (crossesCap sampleCapRules "bob") sampleAcceptances turns = 0 ∧
      ((sampleAcceptances.run (handle tokenPlatform) turns).store.countAgents "bob" : Int) ≤ 1 := by
  have hwithin := owned_agents_within_cap tokenPlatform sampleCapRules "bob" sampleOffersStore (by decide +kernel)
    [.accept "bob" "robot-1", .accept "bob" "robot-2"] (sampleTurns (List.replicate 7 0 ++ List.replicate 7 1))
  have hnone : Pool.tally (handle tokenPlatform) (crossesCap sampleCapRules "bob") sampleAcceptances
      (sampleTurns (List.replicate 7 0 ++ List.replicate 7 1)) = 0 := by decide +kernel
  exact ⟨hnone, hwithin.trans_eq (congrArg (fun n : Nat => sampleCapRules.agentsPerOwnerLimit + (n : Int)) hnone)⟩

/-- Both acceptances count before either takes its agent. -/
theorem owned_agents_exceed_cap :
    (sampleOffersStore.countAgents "bob" : Int) < sampleCapRules.agentsPerOwnerLimit ∧
      sampleCapRules.agentsPerOwnerLimit = 1 ∧
      (sampleAcceptances.run (handle tokenPlatform) (sampleTurns [0, 0, 0, 0, 1, 1, 1, 1, 0, 1])).store.countAgents
        "bob" = 2 :=
  by decide +kernel

end identity.service
