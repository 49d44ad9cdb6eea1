import Identity.Flows.Agents.Accounts
import Identity.Memory.Users.Receipts
import Identity.Repository.Delegation

open identity.repository identity.memory
namespace identity.service

def TransferCall.program (call : TransferCall) : Call Request.Response (Except Err User) := call.flow.call

/-- Nobody is offered an agent they own. -/
def OwnersApart (r : Repo) : Prop :=
  ∀ key u, r.users.lookup key = some u → u.pendingOwnerUserID = "" ∨ u.pendingOwnerUserID ≠ u.ownerUserID

/-- What lasts through any run: rows stand under their names, nobody is offered an agent
    they own, an account that was read has the name it was asked for, and the clock is past
    the epoch. -/
@[grind]
structure TransferInv (r : Repo) (trace : Trace) : Prop where
  keyed : KeyedUsers r
  apart : OwnersApart r
  reads : ∀ caller id u, accountRead caller id (some u) ∈ trace → u.id = id
  clocks : ∀ caller now, clockRead caller now ∈ trace → 0 < now

/-- What a step does to the owners of a row. -/
inductive OwnerStep (q : Request) (key : String) (u u' : User) (r' : Repo) : Prop
  | kept (hsame : SameOwners u u')
  | settled {pendingOwnerID : String} {accept : Bool} {atMs : Int}
      (hrequest : q = .user (.settleAgentTransfer key pendingOwnerID accept atMs)) (hid : u'.id = u.id)
      (hoffer : u.pendingOwnerUserID = pendingOwnerID)
      (howner : u'.ownerUserID = if accept then pendingOwnerID else u.ownerUserID) (hcleared :
        u'.pendingOwnerUserID = "")
      (hrevoked : u'.ownerUserID ≠ u.ownerUserID → UserRevoked key r')
  | owned {expectedOwnerID ownerID pendingOwnerID : String} {atMs : Int}
      (hrequest : q = .user (.setAgentOwnership key expectedOwnerID ownerID pendingOwnerID atMs)) (hid : u'.id = u.id)
      (hexpected : u.ownerUserID = expectedOwnerID) (hsome : expectedOwnerID ≠ "") (howner : u'.ownerUserID = ownerID)
      (hpending : u'.pendingOwnerUserID = pendingOwnerID)
      (hrevoked : u'.ownerUserID ≠ u.ownerUserID → UserRevoked key r')
  | merged {m : AccountMerge} (hrequest : q = .user (.applyAccountMerge m)) (hid : u'.id = u.id)
      (howner : u'.ownerUserID = (m.applyToAgent u).ownerUserID)
      (hpending : u'.pendingOwnerUserID = (m.applyToAgent u).pendingOwnerUserID)
      (hrevoked : u'.ownerUserID ≠ u.ownerUserID → UserRevoked key r')

/-- Rows keep their places, and each changes its owners in one of these ways. -/
structure OwnersStep (q : Request) (r r' : Repo) : Prop where
  places : ∀ key, r'.users.lookup key = none ↔ r.users.lookup key = none
  rows : ∀ key u u', r.users.lookup key = some u → r'.users.lookup key = some u' → OwnerStep q key u u' r'

lemma OwnersStep.of_pointwise (hrows : r.users.Pointwise SameOwners r'.users) : OwnersStep q r r' where
  places key := hrows.lookup_none
  rows key u u' hu hu' := by
    obtain ⟨v, hv, hsame⟩ := hrows.lookup_some hu
    rw [hu'] at hv
    cases hv
    exact .kept hsame

/-- One row was overwritten. -/
lemma OwnersStep.of_insert (hu : r.users.lookup key = some u)
    (husers : r'.users = r.users.insert key after) (hstep : OwnerStep q key u after r') : OwnersStep q r r' where
  places k := by grind
  rows k v v' hv hv' := by
    rw [husers, GoMap.lookup_insert_eq] at hv'
    split at hv'
    · grind
    rw [hv] at hv'
    cases hv'
    exact .kept (.refl v)

lemma OwnersStep.refl : OwnersStep q r r := .of_pointwise (GoMap.Pointwise.refl SameOwners.refl r.users)

/-- A conditional write to an agent, by what it may write. -/
lemma changeAgent_owners (hkeyed : KeyedUsers r) (hpos : 0 < atMs) {change : User → Option User}
    (hchange : ∀ u after r', change u = some after → (after.ownerUserID ≠ u.ownerUserID → UserRevoked agentID r') →
      OwnerStep q agentID u after r') : OwnersStep q r (r.changeAgent agentID change atMs).2 := by
  rcases changeAgent_cases r agentID change atMs with hnone | ⟨u, after, hu, hafter, husers, hrevoked⟩
  · rw [hnone]
    exact .refl
  exact .of_insert hu husers (hchange u after _ hafter (hrevoked hkeyed hpos))

lemma settleAgentTransfer_owners (hkeyed : KeyedUsers r) (agentID pendingOwnerID : String) (accept : Bool)
    (hpos : 0 < atMs) : OwnersStep (.user (.settleAgentTransfer agentID pendingOwnerID accept atMs)) r
      (r.settleAgentTransfer agentID pendingOwnerID accept atMs).2 := by
  unfold Repo.settleAgentTransfer
  split
  · exact .refl
  refine changeAgent_owners hkeyed hpos fun u after r' hafter hrevoked => ?_
  unfold settledAgent at hafter
  split at hafter
  · cases hafter
  rename_i hoffered
  cases hafter
  simp only [Bool.or_eq_true, bne_iff_ne, not_or, not_not] at hoffered
  exact .settled rfl rfl hoffered.2 rfl rfl hrevoked

lemma setAgentOwnership_owners (hkeyed : KeyedUsers r) (agentID expectedOwnerID ownerID pendingOwnerID : String)
    (hpos : 0 < atMs) : OwnersStep (.user (.setAgentOwnership agentID expectedOwnerID ownerID pendingOwnerID atMs)) r
      (r.setAgentOwnership agentID expectedOwnerID ownerID pendingOwnerID atMs).2 := by
  unfold Repo.setAgentOwnership
  split
  · exact .refl
  refine changeAgent_owners hkeyed hpos fun u after r' hafter hrevoked => ?_
  unfold ownedAgent at hafter
  split at hafter
  · cases hafter
  rename_i howned
  cases hafter
  simp only [Bool.or_eq_true, beq_iff_eq, bne_iff_ne, not_or, not_not] at howned
  exact .owned rfl rfl howned.2 howned.1.1.2 rfl rfl hrevoked

lemma applyAccountMerge_owners (hkeyed : KeyedUsers r) (hpos : 0 < m.atMs) :
    OwnersStep (.user (.applyAccountMerge m)) r (r.applyAccountMerge m).2 := by
  obtain ⟨hplaces, hrows⟩ := applyAccountMerge_rows hkeyed hpos
  refine ⟨hplaces, fun key u u' hu hu' => ?_⟩
  obtain ⟨hid, ⟨howner, hpending⟩ | ⟨howner, hpending⟩, hrevoked⟩ := hrows key u u' hu hu'
  · exact .kept ⟨hid, howner, hpending⟩
  · exact .merged rfl hid howner hpending hrevoked

lemma TransferGuard.owners (hguard : TransferGuard call caller own q) (hkeyed : KeyedUsers r)
    (hclocks : ∀ now, clockRead caller now ∈ own → 0 < now) (p : Platform) (tick : Tick) :
    OwnersStep q r (handle p q tick r).2 := by
  unfold TransferGuard at hguard
  split at hguard
  · exact settleAgentTransfer_owners hkeyed _ _ _ (hclocks _ hguard.1)
  · exact setAgentOwnership_owners hkeyed _ _ _ _ (hclocks _ hguard.1)
  · exact applyAccountMerge_owners hkeyed (hclocks _ hguard)
  · exact .of_pointwise (hguard p tick r)

/-- Nobody is offered an agent they own: an offer is written beside the owner it was read
    with, and to someone else. -/
lemma OwnerStep.apart (hstep : OwnerStep q key u u' r') (hguard : TransferGuard call caller own q)
    (hreads : ∀ id v, accountRead caller id (some v) ∈ own → v.id = id)
    (happart : u.pendingOwnerUserID = "" ∨ u.pendingOwnerUserID ≠ u.ownerUserID) :
    u'.pendingOwnerUserID = "" ∨ u'.pendingOwnerUserID ≠ u'.ownerUserID := by
  cases hstep with
  | kept hsame => rwa [hsame.owner, hsame.pending]
  | settled hrequest hid hoffer howner hcleared hrevoked => exact .inl hcleared
  | owned hrequest hid hexpected hsome howner hpending hrevoked =>
    subst hrequest
    rcases hguard.2 with ⟨hsame, newOwnerID, newOwner, hother, hread, hnew⟩ | ⟨hempty, -⟩
    · grind
    · exact .inl (hpending.trans hempty)
  | @merged m hrequest hid howner hpending hrevoked => grind [applyToAgent_owners]

lemma TransferInv.step (hinv : TransferInv r trace)
    (hguard : TransferGuard call caller (Pool.own trace caller) q) (p : Platform) (tick : Tick) :
    TransferInv (handle p q tick r).2 (⟨caller, q, (handle p q tick r).1⟩ :: trace) := by
  have hclocks : ∀ now, clockRead caller now ∈ Pool.own trace caller → 0 < now := fun now hmem =>
    hinv.clocks caller now (Pool.mem_trace hmem)
  have hreads : ∀ id v, accountRead caller id (some v) ∈ Pool.own trace caller → v.id = id := fun id v hmem =>
    hinv.reads caller id v (Pool.mem_trace hmem)
  have hstep := hguard.owners hinv.keyed hclocks p tick
  have hfrom : ∀ key u', (handle p q tick r).2.users.lookup key = some u' →
      ∃ u, r.users.lookup key = some u ∧ OwnerStep q key u u' (handle p q tick r).2 := by
    intro key u' hu'
    cases hu : r.users.lookup key with
    | none =>
      rw [(hstep.places key).mpr hu] at hu'
      cases hu'
    | some u => exact ⟨u, rfl, hstep.rows key u u' hu hu'⟩
  refine ⟨fun key u' hu' => ?_, fun key u' hu' => ?_, fun caller' id v hmem => ?_, fun caller' now hmem => ?_⟩
  · obtain ⟨u, hu, hrow⟩ := hfrom key u' hu'
    have hid : u'.id = u.id := by
      cases hrow with
      | kept hsame => exact hsame.id
      | settled _ hid | owned _ hid | merged _ hid => exact hid
    exact hid.trans (hinv.keyed key u hu)
  · obtain ⟨u, hu, hrow⟩ := hfrom key u' hu'
    exact hrow.apart hguard hreads (hinv.apart key u hu)
  · rcases List.mem_cons.mp hmem with heq | hmem
    · cases q with
      | user q =>
        cases q with
        | getUser id' =>
          injection heq with hcaller hrequest hanswer
          cases hrequest
          exact hinv.keyed id v hanswer.symm
        | _ => cases heq
      | _ => cases heq
    · exact hinv.reads caller' id v hmem
  rcases List.mem_cons.mp hmem with heq | hmem
  · cases q with
    | clock =>
      cases heq
      exact tick.pos
    | _ => cases heq
  · exact hinv.clocks caller' now hmem

abbrev TransferPool : Type := Pool Request.Response Repo (Except Err User)

section Consent
variable (calls : List TransferCall) (pool : TransferPool) (caller : Nat) (agentID : String) (before after : User)

/-- How the next step of a call may move an agent from the owner of the row it finds to the
    owner of the row it leaves. -/
inductive OwnerMoved : Prop
  /-- The new owner accepts the offer that stands. -/
  | accepted {rules : AgentRules} {agentID' : String} {atMs : Int}
      (hcall : calls[caller]? = some (.accept rules after.ownerUserID agentID'))
      (hrequest : pool.pending caller = some (.user (.settleAgentTransfer agentID after.ownerUserID true atMs)))
      (hoffer : before.pendingOwnerUserID = after.ownerUserID) (hcleared : after.pendingOwnerUserID = "")
  /-- The old owner was found not to be there as a person; the call is a person's, who
      administers the project or whom it had found to be that owner. -/
  | reassigned {rules : AgentRules} {callerID agentID' newOwnerID : String} {actor : User} {owner : Option User}
      {atMs : Int}
      (hcall : calls[caller]? = some (.transfer rules callerID agentID' newOwnerID))
      (hrequest : pool.pending caller =
        some (.user (.setAgentOwnership agentID before.ownerUserID after.ownerUserID "" atMs)))
      (hnew : after.ownerUserID = strings.trimSpace newOwnerID)
      (hactor : accountRead caller callerID (some actor) ∈ pool.trace) (hperson : isPermanentPerson actor = true)
      (hallowed : strings.equalFold actor.role roleAdmin = true ∨ callerID = before.ownerUserID)
      (howner : accountRead caller before.ownerUserID owner ∈ pool.trace) (hgone : owner.any isPermanentPerson = false)
      (hcleared : after.pendingOwnerUserID = "")
  /-- The old owner is merged into the new one; an offer to a third account stands. -/
  | merged {m : AccountMerge} (hrequest : pool.pending caller = some (.user (.applyAccountMerge m)))
      (hother : before.ownerUserID = m.otherID) (hsurvivor : after.ownerUserID = m.survivorID)
      (hpending : after.pendingOwnerUserID =
        if before.pendingOwnerUserID = before.ownerUserID ∨ before.pendingOwnerUserID = after.ownerUserID then ""
        else before.pendingOwnerUserID)

end Consent

/-- Every call of the pool keeps to its guard. -/
abbrev KeepsTransfers (calls : List TransferCall) (pool : TransferPool) : Prop :=
  pool.Keep (fun caller own q => ∃ call, calls[caller]? = some call ∧ TransferGuard call caller own q)
    fun caller _ _ => ∃ call, calls[caller]? = some call ∧ True

lemma keepsTransfers_start (r : Repo) (calls : List TransferCall) :
    KeepsTransfers calls (Pool.start r (calls.map TransferCall.program)) := by
  refine Pool.keep_start (fun call caller => ?_) r
  exact Call.Keeps.mono call.keeps fun _ _ _ => trivial

/-- A step that changes the owner is one of the three. -/
lemma OwnerStep.moved (hstep : OwnerStep q agentID u u' r')
    (hinv : TransferInv pool.store pool.trace) (hcall : calls[caller]? = some call)
    (hpending : pool.pending caller = some q) (hguard : TransferGuard call caller (Pool.own pool.trace caller) q)
    (hmoved : u'.ownerUserID ≠ u.ownerUserID) : OwnerMoved calls pool caller agentID u u' ∧
      UserRevoked agentID r' := by
  have hmem : ∀ {event}, event ∈ Pool.own pool.trace caller → event ∈ pool.trace := fun h => (Pool.mem_trace h)
  cases hstep with
  | kept hsame => exact absurd hsame.owner hmoved
  | @settled pendingOwnerID accept atMs hrequest _ hoffer howner hcleared hrevoked =>
    subst hrequest
    cases accept with
    | false => exact absurd howner hmoved
    | true =>
      obtain ⟨rules, callerID, agentID', actor, rfl, hactor, hid, -⟩ := hguard.2 rfl
      have howner : u'.ownerUserID = pendingOwnerID := howner
      have hcaller : callerID = u'.ownerUserID := by grind
      subst hcaller
      rw [← howner] at hpending
      exact ⟨.accepted hcall hpending (hoffer.trans howner.symm) hcleared, hrevoked hmoved⟩
  | @owned expectedOwnerID ownerID pendingOwnerID atMs hrequest _ hexpected hsome howner hoffered hrevoked =>
    subst hrequest hexpected howner hoffered
    rcases hguard.2 with ⟨hsame, -⟩ |
      ⟨hempty, rules, callerID, agentID', newOwnerID, actor, newOwner, rfl, hactor, hperson, hallowed,
        hnew, hid, -, -, hgone⟩
    · exact absurd hsame hmoved
    obtain ⟨owner, howner, hgone⟩ := hgone.resolve_left hsome
    have hnamed := hinv.reads caller _ newOwner (hmem hnew)
    have hcaller := hinv.reads caller callerID actor (hmem hactor)
    rw [hempty] at hpending
    refine ⟨.reassigned hcall hpending (hid.symm.trans hnamed) (hmem hactor) hperson ?_ (hmem howner) hgone hempty,
      hrevoked hmoved⟩
    grind
  | @merged m hrequest _ howner hoffered hrevoked =>
    subst hrequest
    obtain ⟨hafter, hpendingAfter⟩ := applyToAgent_owners m u
    have hother : u.ownerUserID = m.otherID := by grind
    rw [if_pos hother] at hafter
    refine ⟨.merged hpending hother (howner.trans hafter) ?_, hrevoked hmoved⟩
    rw [hoffered, hpendingAfter, if_pos hafter, howner.trans hafter, hother]

/-- In every run of these calls, each change of an agent's owner is agreed to by the new
    owner, takes the agent of an owner who was found gone, or follows a merge; it revokes
    what the agent was granted; and nobody is offered an agent they own. -/
theorem ownership_moves_by_consent (p : Platform) (r : Repo) (hkeyed : KeyedUsers r) (hapart : OwnersApart r)
    (calls : List TransferCall) (schedule : List (Nat × Tick)) (caller : Nat) (tick : Tick) :
    let pool := (Pool.start r (calls.map TransferCall.program)).run (handle p) schedule
    let next := (pool.step (handle p) caller tick).store
    OwnersApart next ∧ ∀ agentID before after, pool.store.users.lookup agentID = some before →
      next.users.lookup agentID = some after → after.ownerUserID ≠ before.ownerUserID →
      OwnerMoved calls pool caller agentID before after ∧ GrantsRevoked (fun g => g.agentID == agentID) next := by
  intro pool next
  have hkeep : KeepsTransfers calls pool := (keepsTransfers_start r calls).run schedule
  have hinv : TransferInv pool.store pool.trace := by
    refine Pool.run_invariant (fun s trace caller q tick hinv hguard => ?_) (keepsTransfers_start r calls) ?_ schedule
    · grind [TransferInv.step]
    · exact ⟨hkeyed, hapart, fun _ _ _ hmem => absurd hmem List.not_mem_nil, fun _ _ hmem => nomatch hmem⟩
  have hnext : TransferInv next (pool.step (handle p) caller tick).trace := by
    refine Pool.step_invariant hinv caller tick fun q rest hq => ?_
    obtain ⟨call, -, hguard⟩ := (hkeep caller _ hq).1
    exact hinv.step hguard p tick
  refine ⟨hnext.apart, fun agentID before after hbefore hafter hmoved => ?_⟩
  cases hq : pool.pending caller with
  | none => grind [Pool.step_of_pending_none]
  | some q =>
    obtain ⟨rest, hrest⟩ := Pool.request_of_pending hq
    obtain ⟨call, hcall, hguard⟩ := (hkeep caller _ hrest).1
    have hstore : next = (handle p q tick pool.store).2 := by
      show (pool.step (handle p) caller tick).store = _
      rw [Pool.step_request hrest]
    rw [hstore] at hafter ⊢
    have hclocks : ∀ now, clockRead caller now ∈ Pool.own pool.trace caller → 0 < now := fun now hmem =>
      hinv.clocks caller now (Pool.mem_trace hmem)
    have hstep := (hguard.owners hinv.keyed hclocks p tick).rows agentID before after hbefore hafter
    grind [hstep.moved]

def sampleAgentRules : AgentRules where
  agentsEnabled := true
  agentsMaxPerOwner := 25
  parseURL _ := none
  agentCreationFingerprint _ := ""

def samplePerson (id role : String) : User := { id := id, status := statusActive, kind := .person, role := role }

/-- Alice's robot, offered to someone or to nobody. -/
def sampleRobot (pendingOwnerID : String) : User where
  id := "robot"
  status := statusActive
  kind := .agent
  ownerUserID := "alice"
  pendingOwnerUserID := pendingOwnerID

def sampleRobotStore (pendingOwnerID : String) : Repo :=
  { new with
    users := ((((((∅ : GoMap String User).insert "alice" (samplePerson "alice" "member")).insert
      "bob" (samplePerson "bob" "member")).insert "carol" (samplePerson "carol" "member")).insert
      "erin" (samplePerson "erin" "member")).insert "dana" (samplePerson "dana" roleAdmin)).insert
      "robot" (sampleRobot pendingOwnerID) }

def sampleTransfers : List TransferCall :=
  [.transfer sampleAgentRules "alice" "robot" "carol", .transfer sampleAgentRules "alice" "robot" "erin",
    .accept sampleAgentRules "erin" "robot", .transfer sampleAgentRules "erin" "robot" "alice",
    .accept sampleAgentRules "alice" "robot", .mergeUsers "dana" "bob" "alice" false]

def sampleTransferRun (pendingOwnerID : String) (turns : List Nat) : TransferPool :=
  (Pool.start (sampleRobotStore pendingOwnerID) (sampleTransfers.map TransferCall.program)).run (handle tokenPlatform)
    (sampleTurns turns)

def sampleOwners (pool : TransferPool) : Option (String × String) :=
  (pool.store.users.lookup "robot").map fun u => (u.ownerUserID, u.pendingOwnerUserID)

/-- A merge that has read both accounts moves alice's robot to bob. -/
theorem ownership_moves_by_consent_merge :
    let pool := sampleTransferRun "carol" (List.replicate 7 5)
    let next := (pool.step (handle tokenPlatform) 5 sampleTick).store
    KeyedUsers (sampleRobotStore "carol") ∧ OwnersApart (sampleRobotStore "carol") ∧
      sampleOwners pool = some ("alice", "carol") ∧ OwnersApart next ∧
        GrantsRevoked (fun g => g.agentID == "robot") next := by
  have hkeyed : KeyedUsers (sampleRobotStore "carol") := GoMap.forall_lookup (by decide +kernel)
  have hapart : OwnersApart (sampleRobotStore "carol") := GoMap.forall_lookup (by decide +kernel)
  have hmoves := ownership_moves_by_consent tokenPlatform _ hkeyed hapart sampleTransfers
    (sampleTurns (List.replicate 7 5)) 5 sampleTick
  refine ⟨hkeyed, hapart, by decide +kernel, hmoves.1, ?_⟩
  refine (hmoves.2 "robot" (sampleRobot "carol") { sampleRobot "carol" with ownerUserID := "bob" } ?_ ?_ ?_).2
  · rfl
  · rfl
  · decide

/-- Bob takes in alice, whose robot stays offered to carol. And alice, once retired, is given
    the robot back by an offer and an acceptance that had begun before; a transfer of alice's
    that had begun earlier still then hands it to carol, who has agreed to nothing. -/
theorem ownership_moves_by_consent_stale :
    let offered := sampleTransferRun "carol"
    let begun := [0, 0, 0, 1, 1, 1, 1, 1, 1, 2, 2, 2, 2, 2, 2, 2, 3, 3, 3, 3, 3, 4]
    let retired := begun ++ [5, 5, 5, 5, 5, 5, 5, 5, 5, 5, 5]
    let returned := retired ++ [3, 4, 4, 4, 4]
    let stale := sampleTransferRun "" (returned ++ [0, 0, 0])
    (sampleOwners (offered (List.replicate 7 5)) = some ("alice", "carol") ∧
      sampleOwners (offered (List.replicate 8 5)) = some ("bob", "carol")) ∧
    sampleTransfers[0]? = some (.transfer sampleAgentRules "alice" "robot" "carol") ∧
      (sampleRobotStore "").users.lookup "alice" = some (samplePerson "alice" "member") ∧
      sampleOwners stale = some ("alice", "") ∧
      sampleOwners (stale.step (handle tokenPlatform) 0 sampleTick) = some ("carol", "") := by
  refine ⟨⟨by decide +kernel, by decide +kernel⟩, rfl, rfl, by decide +kernel, by decide +kernel⟩

end identity.service
