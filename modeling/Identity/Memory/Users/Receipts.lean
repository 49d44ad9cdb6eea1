import Identity.Memory.Authority.Merge

open identity.service
namespace identity.service

/-- The receipt names the user as its agent, its owner or its caller. -/
def AgentCreationReceipt.names (receipt : AgentCreationReceipt) (userID : String) : Bool :=
  receipt.agentID == userID || receipt.ownerID == userID || receipt.callerID == userID

/-- What no write to a receipt undoes. -/
@[grind]
structure AgentCreationReceipt.Follows (receipt receipt' : AgentCreationReceipt) : Prop where
  same : receipt' = { receipt with invalidated := receipt'.invalidated }
  invalidated : receipt.invalidated = true → receipt'.invalidated = true

lemma AgentCreationReceipt.Follows.refl (receipt : AgentCreationReceipt) : receipt.Follows receipt := ⟨rfl, id⟩

lemma AgentCreationReceipt.Follows.trans {a b c : AgentCreationReceipt} (hab : a.Follows b) (hbc : b.Follows c) :
    a.Follows c :=
  ⟨by rw [hbc.same, hab.same], fun h => hbc.invalidated (hab.invalidated h)⟩

lemma AgentCreationReceipt.Follows.names {a b : AgentCreationReceipt} (hab : a.Follows b) (userID : String) :
    b.names userID = a.names userID := by
  rw [hab.same]
  rfl

lemma creation_kept_trans (h12 : agentCreationAuthorityLost u1 u2 = false)
    (h23 : agentCreationAuthorityLost u2 u3 = false) : agentCreationAuthorityLost u1 u3 = false := by
  simp only [agentCreationAuthorityLost, Bool.or_eq_false_iff, bne_eq_false_iff_eq, Bool.and_eq_false_iff,
    Bool.not_eq_false'] at h12 h23 ⊢
  obtain ⟨⟨⟨⟨⟨howner, hkind⟩, hstatus⟩, hanonymous⟩, hmerged⟩, hrole⟩ := h12
  obtain ⟨⟨⟨⟨⟨howner', hkind'⟩, hstatus'⟩, hanonymous'⟩, hmerged'⟩, hrole'⟩ := h23
  refine ⟨⟨⟨⟨⟨howner.trans howner', hkind.trans hkind'⟩, ?_⟩, ?_⟩, ?_⟩, ?_⟩
  · grind
  · grind
  · grind
  · grind

end identity.service

namespace identity.memory

/-- The user's row is gone, or has lost what a creation rests on. -/
@[grind =]
def AuthorityLost (userID : String) (r r' : Repo) : Prop :=
  ∃ before, r.users.lookup userID = some before ∧
    ∀ after, r'.users.lookup userID = some after → agentCreationAuthorityLost before after = true

/-- Authority lost over two steps is lost in one of them. -/
lemma AuthorityLost.split (hlost : AuthorityLost userID r1 r3) (r2 : Repo) :
    AuthorityLost userID r1 r2 ∨ AuthorityLost userID r2 r3 := by
  by_cases hfirst : AuthorityLost userID r1 r2
  · exact .inl hfirst
  · grind [creation_kept_trans]

/-- Rows that are still there with what a creation rests on have lost nothing. -/
lemma not_authorityLost (hkept : ∀ u, r.users.lookup userID = some u →
      ∃ u', r'.users.lookup userID = some u' ∧ agentCreationAuthorityLost u u' = false) :
        ¬ AuthorityLost userID r r' := by
  rintro ⟨u, hu, hlost⟩
  obtain ⟨u', hu', hnot⟩ := hkept u hu
  rw [hlost u' hu'] at hnot
  cases hnot

/-- Rows stand under their own ids, and none under an id still to be generated. -/
@[grind]
structure UsersKeyed (r : Repo) : Prop where
  keyed : ∀ key u, r.users.lookup key = some u → u.id = key
  fresh : ∀ n, r.seq < n → r.users.lookup (memID n) = none

/-- A step that keeps every receipt, and ends the receipts that name a user who loses
    authority in it. New receipts take the keys in `new`, new rows names that no row had. -/
@[grind]
structure Fences (new : String × String → Prop) (r r' : Repo) : Prop where
  receipts : ∀ key receipt, r.agentCreations.lookup key = some receipt →
    ∃ receipt', r'.agentCreations.lookup key = some receipt' ∧ receipt.Follows receipt' ∧
      ∀ userID, receipt.names userID = true → AuthorityLost userID r r' → receipt'.invalidated = true
  added : ∀ key receipt', r'.agentCreations.lookup key = some receipt' →
    (∃ receipt, r.agentCreations.lookup key = some receipt) ∨ new key
  seq_le : r.seq ≤ r'.seq
  rows : ∀ key u', r'.users.lookup key = some u' → (∃ u, r.users.lookup key = some u ∧ u'.id = u.id) ∨
    u'.id = key ∧ ((∃ n, r.seq < n ∧ n ≤ r'.seq ∧ key = memID n) ∨ ∀ n, key ≠ memID n)

section Fences
variable {new : String × String → Prop}

lemma Fences.mono (h : Fences new r r') (hnew : ∀ key, new key → wider key) :
    Fences wider r r' :=
  { h with added := fun key receipt' hreceipt' => (h.added key receipt' hreceipt').imp_right (hnew key) }

lemma Fences.trans (hfirst : Fences new r r') (hsecond : Fences new r' r'') : Fences new r r'' where
  receipts := by
    intro key receipt hreceipt
    obtain ⟨receipt', hreceipt', hfollows, hlost⟩ := hfirst.receipts key receipt hreceipt
    obtain ⟨receipt'', hreceipt'', hfollows', hlost'⟩ := hsecond.receipts key receipt' hreceipt'
    refine ⟨receipt'', hreceipt'', hfollows.trans hfollows', fun userID hnames hboth => ?_⟩
    grind [hboth.split, hfollows.names]
  added := by grind
  seq_le := hfirst.seq_le.trans hsecond.seq_le
  rows := by grind

lemma Fences.keyed (h : Fences new r r') (hkeyed : UsersKeyed r) : UsersKeyed r' where
  keyed key u' hu' := by grind
  fresh n hn := by
    rw [Option.eq_none_iff_forall_ne_some]
    grind [memID_injective]

/-- No receipt changes and no user loses authority. -/
lemma fences_of_kept (hreceipts : r'.agentCreations = r.agentCreations) (hkept : ∀ userID, ¬ AuthorityLost userID r r')
    (hseq : r.seq ≤ r'.seq) (hrows : ∀ key u', r'.users.lookup key = some u' →
      (∃ u, r.users.lookup key = some u ∧ u'.id = u.id) ∨
        u'.id = key ∧ ((∃ n, r.seq < n ∧ n ≤ r'.seq ∧ key = memID n) ∨ ∀ n, key ≠ memID n)) : Fences new r r' where
  receipts key receipt hreceipt :=
    ⟨receipt, by rw [hreceipts, hreceipt], .refl receipt, fun userID _ hlost => absurd hlost (hkept userID)⟩
  added key receipt' hreceipt' := .inl ⟨receipt', by rwa [hreceipts] at hreceipt'⟩
  seq_le := hseq
  rows := hrows

lemma fences_of_eq (hreceipts : r'.agentCreations = r.agentCreations) (husers : r'.users = r.users)
    (hseq : r.seq ≤ r'.seq) : Fences new r r' := by
  refine fences_of_kept hreceipts (fun userID => not_authorityLost fun u hu => ?_) hseq fun key u' hu' => ?_
  · exact ⟨u, by rw [husers, hu], creation_kept_self u⟩
  · exact .inl ⟨u', by rwa [husers] at hu', rfl⟩

@[refl] lemma Fences.refl (r : Repo) : Fences new r r := fences_of_eq rfl rfl le_rfl

lemma GrantsOnly.fences (h : GrantsOnly r r') : Fences new r r' :=
  fences_of_eq (by rw [h.frame]) (by rw [h.frame]) (by rw [h.frame])

lemma foldl_fences {step : Repo → α → Repo} (hstep : ∀ r x, Fences new r (step r x)) (visited : List α) (r : Repo) :
    Fences new r (visited.foldl step r) := by
  induction visited generalizing r with
  | nil => rfl
  | cons x rest ih => exact (hstep r x).trans (ih _)

/-- A row is added where there was none. -/
lemma fences_insert (hreceipts : r'.agentCreations = r.agentCreations)
    (hnone : r.users.lookup key = none) (husers : r'.users = r.users.insert key row) (hid : row.id = key)
    (hkey : key = memID (r.seq + 1) ∧ r'.seq = r.seq + 1 ∨ (∀ n, key ≠ memID n) ∧ r'.seq = r.seq) :
    Fences new r r' := by
  refine fences_of_kept hreceipts (fun other => not_authorityLost fun u hu => ?_) (by omega) fun other u' hu' => ?_
  · grind [creation_kept_self]
  · grind

end Fences

section Receipts
variable (receipts : GoMap (String × String) AgentCreationReceipt)

/-- A fence reaches every receipt that names the user and leaves the others. -/
lemma lookup_invalidated (userID : String) (hreceipt : receipts.lookup key = some receipt) :
    ∃ receipt', (invalidateAgentCreationReceipts receipts userID).lookup key = some receipt' ∧
      receipt.Follows receipt' ∧
      (receipt.names userID = true → receipt'.invalidated = true) := by
  have hlookup : (invalidateAgentCreationReceipts receipts userID).lookup key =
      some (if receipt.names userID = true then { receipt with invalidated := true } else receipt) := by
    rw [invalidateAgentCreationReceipts, GoMap.lookup_mapRows, hreceipt]
    rfl
  refine ⟨_, hlookup, ?_, fun hnames => by rw [if_pos hnames]⟩
  split
  · exact ⟨rfl, fun _ => rfl⟩
  · exact .refl receipt

lemma lookup_invalidated_inv (userID : String)
    (hreceipt' : (invalidateAgentCreationReceipts receipts userID).lookup key = some receipt') :
    ∃ receipt, receipts.lookup key = some receipt := by
  rw [invalidateAgentCreationReceipts, GoMap.lookup_mapRows, Option.map_eq_some_iff] at hreceipt'
  obtain ⟨receipt, hreceipt, -⟩ := hreceipt'
  exact ⟨receipt, hreceipt⟩

end Receipts

section Writes
variable {new : String × String → Prop}
section
variable (r : Repo) (userID : String)

/-- The receipts after a fence, with what it ends. -/
lemma fenceAgentCreations_lookup (u after : User) (hreceipt : r.agentCreations.lookup key = some receipt) :
    ∃ receipt', (r.fenceAgentCreations userID u after).agentCreations.lookup key = some receipt' ∧
      receipt.Follows receipt' ∧ (receipt.names userID = true → agentCreationAuthorityLost u after = true →
        receipt'.invalidated = true) := by
  unfold Repo.fenceAgentCreations
  split
  · obtain ⟨receipt', hreceipt', hfollows, hended⟩ := lookup_invalidated r.agentCreations userID hreceipt
    exact ⟨receipt', hreceipt', hfollows, fun hnames _ => hended hnames⟩
  · grind

lemma fenceAgentCreations_lookup_inv (u after : User)
    (hreceipt' : (r.fenceAgentCreations userID u after).agentCreations.lookup key = some receipt') :
    ∃ receipt, r.agentCreations.lookup key = some receipt := by
  unfold Repo.fenceAgentCreations at hreceipt'
  split at hreceipt'
  · exact lookup_invalidated_inv r.agentCreations userID hreceipt'
  · exact ⟨receipt', hreceipt'⟩

lemma writeUser_agentCreations (before after : User) (atMs : Int) :
    (r.writeUser userID before after atMs).agentCreations = r.agentCreations := by
  unfold Repo.writeUser
  rw [(revokeAgentOAuthUserLocked_grantsOnly _ (some before) (some after) atMs).frame]

end

/-- A row is overwritten behind its fence. -/
lemma fencedWrite_fences (hu : r.users.lookup userID = some u) (hid : after.id = u.id) (atMs : Int) :
    Fences new r ((r.fenceAgentCreations userID u after).writeUser userID u after atMs) where
  receipts key receipt hreceipt := by
    obtain ⟨receipt', hreceipt', hfollows, hended⟩ := fenceAgentCreations_lookup r userID u after hreceipt
    grind [writeUser_agentCreations, writeUser_users, fenceAgentCreations_users, creation_kept_self]
  added key receipt' hreceipt' := by grind [writeUser_agentCreations, fenceAgentCreations_lookup_inv]
  seq_le := ((fenceAgentCreations_usersOnly r userID u after).trans (writeUser_usersOnly _ userID u after atMs)).seq_le
  rows key u' hu' := by grind [writeUser_users, fenceAgentCreations_users]

lemma UserWrite.fences (h : UserWrite r userID atMs r') : Fences new r r' := by
  cases h with
  | same => rfl
  | @touch _ after hu hid _ hcreation =>
    have hrows : r.users.Pointwise (fun u u' => agentCreationAuthorityLost u u' = false ∧ u'.id = u.id)
        (r.users.insert userID after) :=
      GoMap.pointwise_insert (fun u => ⟨creation_kept_self u, rfl⟩) hu ⟨hcreation, hid⟩
    refine fences_of_kept rfl (fun key => not_authorityLost fun u hu => ?_) le_rfl fun key u' hu' => ?_
    · grind [hrows.lookup_some]
    · grind
  | write hu hid hcreation =>
    have hwrite : Fences new r _ := fencedWrite_fences hu hid atMs
    unfold Repo.fenceAgentCreations at hwrite
    rwa [if_neg (by simp [hcreation])] at hwrite
  | fenced hu hid => exact fencedWrite_fences hu hid atMs

end Writes

section Creation
variable {new : String × String → Prop}

lemma insertUser_fences (r : Repo) (hkeyed : UsersKeyed r) (hnot : ∀ n, u.id ≠ memID n) :
    Fences new r (r.insertUser u).2 := by
  unfold Repo.insertUser
  split
  · exact fences_insert rfl (hkeyed.fresh _ (Nat.lt_succ_self _)) rfl rfl (.inl ⟨rfl, rfl⟩)
  split
  · rfl
  · rename_i hnone
    exact fences_insert rfl (by simpa using hnone) rfl rfl (.inr ⟨hnot, rfl⟩)

lemma createManagedChildAccount_fences (hkeyed : UsersKeyed r) (hnot : ∀ n, u.id ≠ memID n)
    (edge : GuardianEdge) (consent : ParentalConsentRecord) :
    Fences new r (r.createManagedChildAccount u edge consent).2 := by
  have hinserted : Fences new r (r.insertUser u).2 := insertUser_fences r hkeyed hnot
  unfold Repo.createManagedChildAccount
  split
  · rfl
  split
  · rfl
  split
  · rfl
  split
  · rename_i err r' hinsert
    rwa [hinsert] at hinserted
  · grind

/-- How a creation can end: it fails, it answers the agent of a receipt that stands, or it
    stores a new agent with its receipt. -/
inductive CreationResult (r : Repo) (request : AgentCreation) : Except Err (User × Bool) × Repo → Prop
  | refused {r' : Repo} (err : Err) (hchange : ∃ n ≥ r.seq, r' = { r with seq := n }) :
    CreationResult r request (.error err, r')
  | replayed {receipt : AgentCreationReceipt} {agent : User} (hkey : request.requestID ≠ "")
      (hreceipt : r.agentCreations.lookup (request.callerID, request.requestID) = some receipt)
      (hstands : receipt.invalidated = false) (hagent : r.users.lookup receipt.agentID = some agent)
      (hkind : agent.isAgent = true) (hactive : isActiveStatus agent.status = true)
      (howner : agent.ownerUserID = receipt.ownerID) (hfingerprint : receipt.fingerprint = request.fingerprint) :
      CreationResult r request (.ok (agent, false), r)
  | created {r' : Repo} (hunused : request.requestID = "" ∨
      r.agentCreations.lookup (request.callerID, request.requestID) = none)
      (hroom : (r.countAgents request.agent.ownerUserID : Int) < request.ownerLimit)
      (hfree : r.users.lookup (memID (r.seq + 1)) = none)
      (hstored : r'.users = r.users.insert (memID (r.seq + 1)) { request.agent with id := memID (r.seq + 1) })
      (hseq : r'.seq = r.seq + 1)
      (hreceipts : r'.agentCreations = if request.requestID = "" then r.agentCreations
        else r.agentCreations.insert (request.callerID, request.requestID)
          (AgentCreation.receipt request (memID (r.seq + 1)))) :
      CreationResult r request (.ok ({ request.agent with id := memID (r.seq + 1) }, true), r')

lemma createAgent_result (r : Repo) (request : AgentCreation) : CreationResult r request (r.createAgent request) := by
  unfold Repo.createAgent
  split
  · exact .refused _ ⟨r.seq, le_rfl, rfl⟩
  split
  · exact .refused _ ⟨r.seq, le_rfl, rfl⟩
  split
  · rename_i receipt hreceipt
    have hkey : request.requestID ≠ "" := by grind
    rw [if_neg hkey] at hreceipt
    unfold checkAgentCreationReplay
    cases hagent : r.users.lookup receipt.agentID with
    | none => exact .refused _ ⟨r.seq, le_rfl, rfl⟩
    | some agent =>
      dsimp only
      by_cases hended : (receipt.invalidated || !agent.isAgent || !isActiveStatus agent.status ||
          agent.ownerUserID != receipt.ownerID) = true
      · rw [if_pos hended]
        exact .refused _ ⟨r.seq, le_rfl, rfl⟩
      rw [if_neg hended]
      simp only [Bool.or_eq_true, Bool.not_eq_true', bne_iff_ne, not_or, Bool.not_eq_true, Bool.not_eq_false,
        not_not] at hended
      by_cases hfingerprint : (receipt.fingerprint != request.fingerprint) = true
      · rw [if_pos hfingerprint]
        exact .refused _ ⟨r.seq, le_rfl, rfl⟩
      · rw [if_neg hfingerprint]
        exact .replayed hkey hreceipt hended.1.1.1 hagent hended.1.1.2 hended.1.2 hended.2
          (by simpa using hfingerprint)
  split
  · exact .refused _ ⟨r.seq, le_rfl, rfl⟩
  rename_i hroom
  unfold Repo.allocateAgent
  dsimp only
  split
  · exact .refused _ ⟨r.seq + 1, Nat.le_succ _, rfl⟩
  rename_i hfree
  refine .created ?_ (lt_of_not_ge hroom) (by simpa using hfree) ?_ ?_ ?_
  · grind
  all_goals
    unfold Repo.recordCreation
    split <;> rfl

/-- A new agent's receipt takes a key that no receipt had. -/
lemma createAgent_fences (r : Repo) (request : AgentCreation)
    (hnew : ∀ agent, (r.createAgent request).1 = .ok (agent, true) → new (request.callerID, request.requestID)) :
    Fences new r (r.createAgent request).2 := by
  have hresult := createAgent_result r request
  generalize r.createAgent request = out at hresult hnew
  cases hresult with
  | refused err hchange => grind [fences_of_eq]
  | replayed => rfl
  | @created r' hunused _ hfree hstored hseq hreceipts =>
    have hrow : Fences new r { r' with agentCreations := r.agentCreations } :=
      fences_insert rfl hfree hstored rfl (.inl ⟨rfl, hseq⟩)
    grind

end Creation

section Retiring
variable {new : String × String → Prop}
section
variable (r : Repo) (now : Int) (userID : String)

lemma drainGuardianEdges_guardiansOnly :
    GuardiansOnly r (r.drainGuardianEdges now userID) := by
  unfold Repo.drainGuardianEdges
  induction r.guardianEdges.entries.filter fun entry =>
      entry.2.guardianUserID == userID || entry.2.childUserID == userID generalizing r with
  | nil => rfl
  | cons entry rest ih => grind [revokeAgentOAuthOwnerLocked_grantsOnly]

/-- What a deletion does to the tables that hold users and receipts. -/
lemma deleteUserLocked_frame :
    (r.deleteUserLocked now userID).users = r.users.erase userID ∧ (r.deleteUserLocked now userID).seq = r.seq ∧
      (r.deleteUserLocked now userID).agentCreations = invalidateAgentCreationReceipts r.agentCreations userID := by
  unfold Repo.deleteUserLocked
  dsimp only
  rw [(drainGuardianEdges_guardiansOnly _ now userID).frame]
  rw [(revokeAgentOAuthUserLocked_grantsOnly (r.invalidateAgentCreations userID) _ none now).frame]
  exact ⟨rfl, rfl, rfl⟩

lemma deleteUserLocked_fences : Fences new r (r.deleteUserLocked now userID) := by
  obtain ⟨husers, hseq, hreceipts⟩ := deleteUserLocked_frame r now userID
  refine ⟨fun key receipt hreceipt => ?_, fun key receipt' hreceipt' => ?_, hseq.ge, fun key u' hu' => ?_⟩
  · obtain ⟨receipt', hreceipt', hfollows, hended⟩ := lookup_invalidated r.agentCreations userID hreceipt
    grind [creation_kept_self]
  · grind [lookup_invalidated_inv]
  · grind

end

section
variable (m : AccountMerge) (visited : List User) (r : Repo)

/-- The merge's loop of fences ends the receipts of every agent it takes from its owner. -/
lemma mergeFences_lookup (hreceipt : r.agentCreations.lookup key = some receipt) :
    ∃ receipt', (visited.foldl (fun r' u => r'.fenceAgentCreations u.id u (m.applyToAgent u))
      r).agentCreations.lookup key =
        some receipt' ∧ receipt.Follows receipt' ∧
      ∀ u ∈ visited, receipt.names u.id = true → agentCreationAuthorityLost u (m.applyToAgent u) = true →
        receipt'.invalidated = true := by
  induction visited generalizing r receipt with
  | nil => exact ⟨receipt, hreceipt, .refl receipt, fun u hmem => nomatch hmem⟩
  | cons v rest ih =>
    obtain ⟨receipt', hreceipt', hfollows, hended⟩ := fenceAgentCreations_lookup r v.id v (m.applyToAgent v) hreceipt
    obtain ⟨receipt'', hreceipt'', hfollows', hrest⟩ := ih (r.fenceAgentCreations v.id v (m.applyToAgent v)) hreceipt'
    rw [List.foldl_cons]
    refine ⟨receipt'', hreceipt'', hfollows.trans hfollows', fun u hmem hnames hlost => ?_⟩
    grind [hfollows.names]

lemma mergeFences_lookup_inv (hreceipt' :
      (visited.foldl (fun r' u => r'.fenceAgentCreations u.id u (m.applyToAgent u)) r).agentCreations.lookup key =
        some receipt') :
    ∃ receipt, r.agentCreations.lookup key = some receipt := by
  induction visited generalizing r with
  | nil => exact ⟨receipt', hreceipt'⟩
  | cons v rest ih => grind [fenceAgentCreations_lookup_inv]

end

/-- The surviving account keeps what a creation rests on. -/
lemma applyToUsers_survivor {m : AccountMerge}
    (hok : m.applyToUsers (some s) (some o) = .ok (survivor, other)) :
    agentCreationAuthorityLost s survivor = false := by
  obtain ⟨rfl, -⟩ := applyToUsers_eq hok
  rw [← creation_kept_self s]
  unfold AccountMerge.moves
  cases m.moveUsername <;> cases m.movePassword <;> cases m.moveEmail <;> cases m.swapAddress <;> rfl

lemma applyAccountMerge_fences (hkeyed : UsersKeyed r) (m : AccountMerge) :
    Fences new r (r.applyAccountMerge m).2 := by
  unfold Repo.applyAccountMerge
  split
  · exact (revokeChangedUsers_grantsOnly r r.users m.atMs).fences
  rename_i survivor other hok
  refine .trans ?_ (revokeChangedUsers_grantsOnly (r.mergeRows m survivor other) r.users m.atMs).fences
  obtain ⟨s0, o0, hs0, ho0, -, -, hdiffer, hsid, hoid, -, -⟩ := applyToUsers_ok hok
  refine ⟨fun key receipt hreceipt => ?_, fun key receipt' hreceipt' => .inl ?_, ?_,
    fun key u' hu' => .inl (mergeRows_keeps_ids hs0 ho0 hsid hoid hu')⟩
  · obtain ⟨receipt', hreceipt', hfollows, hother⟩ := lookup_invalidated r.agentCreations m.otherID hreceipt
    let merged : Repo := { r with users := (r.users.insert m.survivorID survivor).insert m.otherID other }
    obtain ⟨receipt'', hreceipt'', hfollows', hagents⟩ :=
      mergeFences_lookup m merged.users.rows (merged.invalidateAgentCreations m.otherID) hreceipt'
    refine ⟨receipt'', hreceipt'', hfollows.trans hfollows', fun userID hnames hlost => ?_⟩
    obtain ⟨before, hbefore, hlost⟩ := hlost
    by_cases hretired : userID = m.otherID
    · exact hfollows'.invalidated (hother (hretired ▸ hnames))
    -- The row the loop visits: the survivor's new row, or the row as it was.
    have hvisited : ∃ u, merged.users.lookup userID = some u ∧ u.id = userID ∧
      agentCreationAuthorityLost before u = false := by
      grind [applyToUsers_survivor, creation_kept_self]
    grind [hfollows.names, creation_kept_trans, mergeRows_lookup_users]
  · obtain ⟨receipt, hreceipt⟩ := mergeFences_lookup_inv m _ _ hreceipt'
    exact lookup_invalidated_inv r.agentCreations m.otherID hreceipt
  obtain ⟨creations, hframe⟩ := mergeRows_frame r m survivor other
  rw [hframe]
  exact le_rfl

end Retiring
end identity.memory

namespace identity.service

/-- The owner of a row after a merge, and the owner it waits for. -/
lemma applyToAgent_owners (m : AccountMerge) (u : User) :
    (m.applyToAgent u).ownerUserID = (if u.ownerUserID = m.otherID then m.survivorID else u.ownerUserID) ∧
      (m.applyToAgent u).pendingOwnerUserID =
        if u.pendingOwnerUserID = m.otherID ∨ u.pendingOwnerUserID = m.survivorID then
          if (m.applyToAgent u).ownerUserID = m.survivorID then "" else m.survivorID
        else u.pendingOwnerUserID := by
  unfold AccountMerge.applyToAgent
  by_cases howner : u.ownerUserID = m.otherID <;>
    by_cases hpending : u.pendingOwnerUserID = m.otherID ∨ u.pendingOwnerUserID = m.survivorID <;>
    simp [howner, hpending]

/-- What moves between two accounts is not what they own. -/
lemma applyToUsers_owners {m : AccountMerge}
    (hok : m.applyToUsers (some s) (some o) = .ok (survivor, other)) :
    (survivor.ownerUserID = s.ownerUserID ∧ survivor.pendingOwnerUserID = s.pendingOwnerUserID) ∧
      other.ownerUserID = o.ownerUserID ∧ other.pendingOwnerUserID = o.pendingOwnerUserID := by
  obtain ⟨rfl, rfl⟩ := memory.applyToUsers_eq hok
  unfold AccountMerge.moves
  cases m.moveUsername <;> cases m.movePassword <;> cases m.moveEmail <;> cases m.swapAddress <;>
    exact ⟨⟨rfl, rfl⟩, rfl, rfl⟩

lemma oauthAuthorityLost_of_owner (howner : u'.ownerUserID ≠ u.ownerUserID) :
    agentOAuthAuthorityLost (some u) (some u') = true := by
  simp [agentOAuthAuthorityLost, howner.symm]

end identity.service

namespace identity.memory

/-- Rows stand under their own ids. -/
@[grind =]
def KeyedUsers (r : Repo) : Prop := ∀ key u, r.users.lookup key = some u → u.id = key

/-- What a conditional write to an agent leaves: nothing has changed, or the row is the one
    it was allowed to write, and a new owner finds every grant of the agent revoked. -/
lemma changeAgent_cases (r : Repo) (agentID : String) (change : User → Option User) (atMs : Int) :
    (r.changeAgent agentID change atMs).2 = r ∨ ∃ u after, r.users.lookup agentID = some u ∧ change u = some after ∧
        (r.changeAgent agentID change atMs).2.users = r.users.insert agentID after ∧
        (KeyedUsers r → 0 < atMs → after.ownerUserID ≠ u.ownerUserID →
          UserRevoked agentID (r.changeAgent agentID change atMs).2) := by
  unfold Repo.changeAgent
  cases hu : r.users.lookup agentID with
  | none => exact .inl rfl
  | some u =>
    cases hafter : change u with
    | none =>
      left
      simp only [hafter]
    | some after =>
      refine .inr ⟨u, after, rfl, hafter, ?_⟩
      simp only [hafter]
      refine ⟨by rw [writeUser_users, fenceAgentCreations_users], fun hkeyed hpos howner => ?_⟩
      have hrevoked := revokeAgentOAuthUserLocked_revokes
        { r.fenceAgentCreations agentID u after with
          users := (r.fenceAgentCreations agentID u after).users.insert agentID after } hpos
            (oauthAuthorityLost_of_owner howner)
      rw [hkeyed agentID u hu] at hrevoked
      exact hrevoked

/-- A row after an accepted merge, and the row it comes from. -/
lemma mergeRows_row {r : Repo}
    (hok : m.applyToUsers (r.users.lookup m.survivorID) (r.users.lookup m.otherID) = .ok (survivor, other))
    (hu' : (r.mergeRows m survivor other).users.lookup key = some u') :
    ∃ u v, r.users.lookup key = some u ∧ u' = m.applyToAgent v ∧ v.id = u.id ∧ v.ownerUserID = u.ownerUserID ∧
      v.pendingOwnerUserID = u.pendingOwnerUserID ∧ (key ≠ m.survivorID → key ≠ m.otherID → v = u) := by
  obtain ⟨s0, o0, hs0, ho0, -, -, -, hsid, hoid, -⟩ := applyToUsers_ok hok
  rw [hs0, ho0] at hok
  obtain ⟨⟨hsowner, hspending⟩, hoowner, hopending⟩ := applyToUsers_owners hok
  rw [mergeRows_lookup_users, Option.map_eq_some_iff] at hu'
  obtain ⟨v, hv, rfl⟩ := hu'
  split at hv
  · rename_i hkey
    cases hv
    exact ⟨o0, other, hkey ▸ ho0, rfl, hoid, hoowner, hopending, fun _ hne => absurd hkey hne⟩
  split at hv
  · rename_i hkey
    cases hv
    exact ⟨s0, survivor, hkey ▸ hs0, rfl, hsid, hsowner, hspending, fun hne _ => absurd hkey hne⟩
  · exact ⟨v, v, hv, rfl, rfl, rfl, rfl, fun _ _ => rfl⟩

/-- What a merge does to a row: its owners change as the merge says, and a new owner finds
    every grant of the agent revoked. -/
lemma applyAccountMerge_rows (hkeyed : KeyedUsers r) (hpos : 0 < m.atMs) :
    (∀ key, (r.applyAccountMerge m).2.users.lookup key = none ↔ r.users.lookup key = none) ∧
    ∀ key u u', r.users.lookup key = some u → (r.applyAccountMerge m).2.users.lookup key = some u' → u'.id = u.id ∧
      ((u'.ownerUserID = u.ownerUserID ∧ u'.pendingOwnerUserID = u.pendingOwnerUserID) ∨
        u'.ownerUserID = (m.applyToAgent u).ownerUserID ∧
          u'.pendingOwnerUserID = (m.applyToAgent u).pendingOwnerUserID) ∧
      (u'.ownerUserID ≠ u.ownerUserID → UserRevoked key (r.applyAccountMerge m).2) := by
  unfold Repo.applyAccountMerge
  split
  · grind [revokeChangedUsers_grantsOnly]
  rename_i survivor other hok
  obtain ⟨s0, o0, hs0, ho0, -⟩ := applyToUsers_ok hok
  have hframe := (revokeChangedUsers_grantsOnly (r.mergeRows m survivor other) r.users m.atMs).frame
  have husers : ((r.mergeRows m survivor other).revokeChangedUsers r.users m.atMs).users =
      (r.mergeRows m survivor other).users := by rw [hframe]
  rw [husers]
  refine ⟨fun key => ?_, fun key u u' hu hu' => ?_⟩
  · grind [mergeRows_lookup_users, Option.map_eq_none_iff]
  obtain ⟨u0, v, hu0, rfl, hrow⟩ := mergeRows_row hok hu'
  grind [applyToAgent_owners, applyToAgent_id, revokeChangedUsers_revokes, oauthAuthorityLost_of_owner]

end identity.memory
