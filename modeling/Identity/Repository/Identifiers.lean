import Identity.Memory.Users.Identifiers
import Identity.Memory.Users.Receipts
import Identity.Repository.Delegation

open identity.service identity.memory
namespace identity.repository
open AccountMerge
open Identifier (of)
section Rewriting
variable {r : Repo}

/-- The patch leaves each identifier, empties it, or writes one that nobody else has. -/
lemma patchConflict_none (hnone : r.patchConflict userID patch = none) (u : User) (i : Identifier) :
    i.of (applyUserFields u patch) = i.of u ∨ i.of (applyUserFields u patch) = "" ∨
      ∀ other v, r.users.lookup other = some v → i.of v = i.of (applyUserFields u patch) → other = userID := by
  unfold Repo.patchConflict at hnone
  dsimp only at hnone
  split at hnone
  · cases hnone
  split at hnone
  · cases hnone
  split at hnone
  · cases hnone
  split at hnone
  · cases hnone
  rename_i hext hemail husername haddr
  have htext : i.text (applyUserFields u patch) = i.text u ∨
      i.text (applyUserFields u patch) = fieldText patch i.column := by
    rw [i.textColumn.applyUserFields, fieldText]
    cases hfound : patch.lookup i.column with
    | none => exact .inl rfl
    | some value => grind
  have hheld : ∀ {text : String} {p : User → Bool}, ¬ (text != "" && r.heldByOther userID p) = true →
      text = "" ∨ ∀ other v, r.users.lookup other = some v → p v = true → other = userID := by
    intro text p hnot
    by_cases hempty : text = ""
    · exact .inl hempty
    · refine .inr (heldByOther_eq_false.mp ?_)
      simpa [hempty] using hnot
  rcases htext with hkept | hwritten
  · refine .inl ?_
    cases i with
    | email => exact congrArg foldEmail hkept
    | username | externalID | accountAddress => exact hkept
  refine .inr ?_
  cases i with
  | email =>
    rw [of, show (applyUserFields u patch).email = fieldText patch "email" from hwritten]
    rcases hheld hemail with hempty | hfree
    · exact .inl (foldEmail_eq_empty.mpr hempty)
    · exact .inr fun other v hv hsame => hfree other v hv (beq_iff_eq.mpr hsame)
  | username =>
    rw [of, show (applyUserFields u patch).username = fieldText patch "username" from hwritten]
    exact (hheld husername).imp_right fun hfree other v hv hsame => hfree other v hv (beq_iff_eq.mpr hsame)
  | externalID =>
    rw [of, show (applyUserFields u patch).externalID = fieldText patch "external_id" from hwritten]
    exact (hheld hext).imp_right fun hfree other v hv hsame => hfree other v hv (beq_iff_eq.mpr hsame)
  | accountAddress =>
    rw [of, show (applyUserFields u patch).accountAddress = fieldText patch "account_address" from hwritten]
    exact (hheld haddr).imp_right fun hfree other v hv hsame => hfree other v hv (beq_iff_eq.mpr hsame)

section
variable (hnamed : AccountsNamed r)
include hnamed

lemma updateUser_named (now : Int) (userID : String) (patch : Fields) :
    AccountsNamed (r.updateUser now userID patch).2 := by
  unfold Repo.updateUser
  split
  · exact hnamed
  rename_i u hu
  split
  · exact hnamed
  rename_i hnone
  have hseq := ((fenceAgentCreations_usersOnly r userID u (applyUserFields u patch)).trans
    (writeUser_usersOnly _ userID u (applyUserFields u patch) now)).seq_le
  exact hnamed.overwrite hu (applyUserFields_id u patch)
    (hnamed.unique.unclaimed hu (patchConflict_none hnone u)) (by simp) hseq

lemma updateUserEmail_named (userID newEmail : String) (atMs : Int) :
    AccountsNamed (r.updateUserEmail userID newEmail atMs).2 := by
  unfold Repo.updateUserEmail
  split
  · exact hnamed
  rename_i u hu
  split
  · exact hnamed
  rename_i hfree
  refine hnamed.overwrite hu ?_ (hnamed.unique.unclaimed hu fun i => ?_) (writeUser_users r userID u _ atMs)
    (writeUser_usersOnly r userID u _ atMs).seq_le
  · rfl
  cases i with
  | email =>
    by_cases hempty : newEmail = ""
    · exact .inr (.inl (foldEmail_eq_empty.mpr hempty))
    have hnone : r.heldByOther userID (fun other => foldEmail other.email == foldEmail newEmail) = false := by
      simpa [hempty] using hfree
    refine .inr (.inr fun other v hv hsame => heldByOther_eq_false.mp hnone other v hv ?_)
    exact beq_iff_eq.mpr hsame
  | _ => exact .inl rfl

lemma assignAccountAddress_named (userID address : String) :
    AccountsNamed (r.assignAccountAddress userID address).2 := by
  unfold Repo.assignAccountAddress
  split
  · exact hnamed
  split
  · exact hnamed
  rename_i u hu
  split
  · exact hnamed
  split
  · exact hnamed
  rename_i hfree
  have hfree : r.heldByOther userID (fun other => other.accountAddress == address) = false := by simpa using hfree
  have hunclaimed : Unclaimed r.users userID { u with accountAddress := address } := by
    refine hnamed.unique.unclaimed hu fun i => ?_
    cases i with
    | accountAddress =>
      exact .inr (.inr fun other v hv hsame => heldByOther_eq_false.mp hfree other v hv (beq_iff_eq.mpr hsame))
    | _ => exact .inl rfl
  grind

lemma setDateOfBirthOnce_named (userID : String) (dobMs : Int) (status : String) (nowMs : Int) :
    AccountsNamed (r.setDateOfBirthOnce userID dobMs status nowMs).2 := by
  unfold Repo.setDateOfBirthOnce
  split
  · exact hnamed
  split
  · exact hnamed
  rename_i u hu
  split
  · exact hnamed
  refine hnamed.overwrite hu ?_ (hnamed.unique.unclaimed hu fun i => .inl ?_)
    ((writeUser_users _ userID u _ nowMs).trans (by rw [fenceAgentCreations_users]))
    ((fenceAgentCreations_usersOnly r userID u _).trans (writeUser_usersOnly _ userID u _ nowMs)).seq_le
  · rfl
  · cases i <;> rfl

end
end Rewriting

section Creating
variable {r : Repo}

lemma createManagedChildAccount_named (hnamed : AccountsNamed r) (hnot : ∀ n, u.id ≠ memID n)
    (hext : u.externalID = "")
    (edge : GuardianEdge) (consent : ParentalConsentRecord) :
    AccountsNamed (r.createManagedChildAccount u edge consent).2 := by
  unfold Repo.createManagedChildAccount
  split
  · exact hnamed
  split
  · exact hnamed
  split
  · exact hnamed
  rename_i hnone
  have hinserted : AccountsNamed (r.insertUser u).2 := by
    refine insertUser_named hnamed hnot fun i other v hv hfilled hsame => ?_
    unfold Repo.managedChildConflict at hnone
    split at hnone
    · cases hnone
    split at hnone
    · cases hnone
    split at hnone
    · cases hnone
    rename_i husername haddr hemail
    have hfree : ∀ {text : String} {p : User → Bool}, text ≠ "" → ¬ (text != "" && r.users.anyRow p) = true →
        p v = false := by
      intro text p htext hnot
      exact GoMap.anyRow_eq_false_iff.mp (by simpa [htext] using hnot) other v hv
    cases i with
    | email =>
      have hwritten : u.email ≠ "" := fun hempty => hfilled (foldEmail_eq_empty.mpr hempty)
      exact absurd hsame (beq_eq_false_iff_ne.mp (hfree hwritten hemail))
    | username => exact absurd hsame (beq_eq_false_iff_ne.mp (hfree hfilled husername))
    | externalID => exact absurd hext hfilled
    | accountAddress => exact absurd hsame (beq_eq_false_iff_ne.mp (hfree hfilled haddr))
  split
  · rename_i err r' hinsert
    rwa [hinsert] at hinserted
  · grind

lemma createManagedChildAccount_error (herr : (r.createManagedChildAccount u edge consent).1 = .error err) :
    (r.createManagedChildAccount u edge consent).2 = r := by
  unfold Repo.createManagedChildAccount at herr ⊢
  split at herr
  · rename_i hguardian
    rw [if_pos hguardian]
  rename_i hguardian
  rw [if_neg hguardian]
  split at herr
  · rename_i hconsent
    rw [if_pos hconsent]
  rename_i hconsent
  rw [if_neg hconsent]
  cases hconflict : r.managedChildConflict u consent with
  | some err => rfl
  | none => grind [insertUser_error]

/-- The agent a request asks for has no identifier that an account already has. -/
@[grind =]
def AgentFree (r : Repo) (request : AgentCreation) : Prop :=
  ∀ (i : Identifier) other v, r.users.lookup other = some v → i.of request.agent ≠ "" → i.of v ≠ i.of request.agent

lemma createAgent_named (hnamed : AccountsNamed r)
    (hfree : ∀ agent, (r.createAgent request).1 = .ok (agent, true) → AgentFree r request) :
    AccountsNamed (r.createAgent request).2 := by
  have hresult := createAgent_result r request
  generalize r.createAgent request = out at hresult hfree
  cases hresult with
  | refused err hchange =>
    obtain ⟨n, hle, rfl⟩ := hchange
    exact hnamed.of_users rfl hle
  | replayed => exact hnamed
  | created hunused _ hnone hstored hseq =>
    refine hnamed.add ?_ (fun i other v hv hfilled hsame => ?_) (.inl ⟨rfl, hseq⟩) hstored
    · rfl
    · have hsame' : i.of ({ request.agent with id := memID (r.seq + 1) } : User) = i.of request.agent :=
        by cases i <;> rfl
      grind

end Creating

section Retiring
variable {r : Repo}

lemma deleteUser_named (hnamed : AccountsNamed r) (now : Int) (userID : String) :
    AccountsNamed (r.deleteUser now userID) := by
  grind [deleteUserLocked_frame, Repo.deleteUser]

/-- An identifier of the two accounts stays where it was, changes places with the other's,
    or leaves the retired account for the survivor. -/
def Moved (i : Identifier) (survivor other survivor' other' : User) : Prop :=
  i.of survivor' = i.of survivor ∧ i.of other' = i.of other ∨
    i.of survivor' = i.of other ∧ (i.of other' = i.of survivor ∨ i.of other' = "")

lemma applyToUsers_moved {m : AccountMerge}
    (hok : m.applyToUsers (some s) (some o) = .ok (survivor, other)) (i : Identifier) :
    Moved i s o survivor other := by
  obtain ⟨rfl, rfl⟩ := applyToUsers_eq hok
  unfold Moved moves
  cases i <;> cases m.moveUsername <;> cases m.movePassword <;> cases m.moveEmail <;> cases m.swapAddress <;>
    simp [of, foldEmail_eq_empty]

lemma applyToAgent_of (m : AccountMerge) (u : User) (i : Identifier) : i.of (m.applyToAgent u) = i.of u := by
  unfold applyToAgent
  cases i <;> simp only [of] <;> split <;> split <;> rfl

/-- Where each filled column comes from its own place, no two rows come to share one. -/
lemma unique_of_origin (hunique : IdentifiersUnique users)
    (horigin : ∀ i : Identifier, ∃ origin : String → String, Function.Injective origin ∧ ∀ key u',
      users'.lookup key = some u' → i.of u' ≠ "" → ∃ u, users.lookup (origin key) = some u ∧ i.of u = i.of u') :
    IdentifiersUnique users' := by
  intro i key key' u u' hu hu' hfilled hsame
  obtain ⟨origin, hinj, hfrom⟩ := horigin i
  obtain ⟨v, hv, hvu⟩ := hfrom key u hu hfilled
  obtain ⟨v', hv', hvu'⟩ := hfrom key' u' hu' (hsame ▸ hfilled)
  exact hinj (hunique i _ _ v v' hv hv' (by rw [hvu]; exact hfilled) (by rw [hvu, hvu', hsame]))

lemma applyAccountMerge_unique (hunique : IdentifiersUnique r.users) (m : AccountMerge) :
    IdentifiersUnique (r.applyAccountMerge m).2.users := by
  unfold Repo.applyAccountMerge
  split
  · dsimp only
    rw [(revokeChangedUsers_grantsOnly r r.users m.atMs).frame]
    exact hunique
  rename_i survivor other hok
  obtain ⟨s0, o0, hs0, ho0, -⟩ := applyToUsers_ok hok
  rw [hs0, ho0] at hok
  rw [(revokeChangedUsers_grantsOnly (r.mergeRows m survivor other) r.users m.atMs).frame]
  refine unique_of_origin hunique fun i => ?_
  have hlookup : ∀ key u', (r.mergeRows m survivor other).users.lookup key = some u' →
      ∃ v, (if key = m.otherID then some other else if key = m.survivorID then some survivor
        else r.users.lookup key) = some v ∧ i.of u' = i.of v := by
    intro key u' hu'
    rw [mergeRows_lookup_users, Option.map_eq_some_iff] at hu'
    obtain ⟨v, hv, rfl⟩ := hu'
    exact ⟨v, hv, applyToAgent_of m v i⟩
  rcases applyToUsers_moved hok i with ⟨hsurvivor, hother⟩ | ⟨hsurvivor, hother⟩
  · refine ⟨id, Function.injective_id, fun key u' hu' _ => ?_⟩
    grind
  · refine ⟨Equiv.swap m.survivorID m.otherID, (Equiv.swap _ _).injective, fun key u' hu' hfilled => ?_⟩
    grind

/-- The rows a merge leaves are rows that were there. -/
lemma applyAccountMerge_keys (r : Repo) (m : AccountMerge) : (r.applyAccountMerge m).2.seq = r.seq ∧
    ∀ key u', (r.applyAccountMerge m).2.users.lookup key = some u' → ∃ u, r.users.lookup key = some u ∧
      u'.id = u.id := by
  unfold Repo.applyAccountMerge
  split
  · grind [revokeChangedUsers_grantsOnly]
  rename_i survivor other hok
  obtain ⟨s0, o0, hs0, ho0, -, -, -, hsid, hoid, -⟩ := applyToUsers_ok hok
  obtain ⟨creations, hrows⟩ := mergeRows_frame r m survivor other
  have hframe := (revokeChangedUsers_grantsOnly (r.mergeRows m survivor other) r.users m.atMs).frame
  refine ⟨by rw [hframe, hrows]; rfl, fun key u' hu' => mergeRows_keeps_ids hs0 ho0 hsid hoid ?_⟩
  rw [hframe] at hu'
  exact hu'

lemma applyAccountMerge_named (hnamed : AccountsNamed r) (m : AccountMerge) :
    AccountsNamed (r.applyAccountMerge m).2 := by
  obtain ⟨hseq, hkeys⟩ := applyAccountMerge_keys r m
  refine ⟨by grind, fun n hn => Option.eq_none_iff_forall_ne_some.mpr fun u' hu' => ?_,
    applyAccountMerge_unique hnamed.unique m⟩
  obtain ⟨u, hu, -⟩ := hkeys _ u' hu'
  rw [hnamed.fresh n (hseq ▸ hn)] at hu
  cases hu

end Retiring

/-- The operations that write accounts, as callers issue them: an id they choose is not one
    the store generates, and a managed child has no external id. -/
def AccountCall : Request → Prop
  | .user (.createUser u) => ∀ n, u.id ≠ memID n
  | .guardian (.createManagedChildAccount u _ _) => (∀ n, u.id ≠ memID n) ∧ u.externalID = ""
  | .user (.updateUser _ _) => True
  | .user (.updateUserEmail _ _ _) => True
  | .user (.assignAccountAddress _ _) => True
  | .user (.applyAccountMerge _) => True
  | .user (.createAgent _) => True
  | .user (.setDateOfBirthOnce _ _ _ _) => True
  | .user (.deleteUser _) => True
  | _ => False

def isError {α : Type} : Except Err α → Bool
  | .error _ => true
  | .ok _ => false

/-- Whether the operation answered an error. -/
def refused : (q : Request) → q.Response → Bool
  | .user (.createUser _), answer => isError answer
  | .guardian (.createManagedChildAccount _ _ _), answer => isError answer
  | .user (.updateUser _ _), answer => isError answer
  | .user (.updateUserEmail _ _ _), answer => isError answer
  | .user (.assignAccountAddress _ _), answer => isError answer
  | .user (.applyAccountMerge _), answer => isError answer
  | .user (.createAgent _), answer => isError answer
  | .user (.setDateOfBirthOnce _ _ _ _), answer => isError answer
  | _, _ => false

/-- A condition on every operation of a sequence, read at the store that the operation finds. -/
def Throughout (p : Platform) (cond : Repo → Request → Prop) : Repo → List (Request × Tick) → Prop
  | _, [] => True
  | r, op :: rest => cond r op.1 ∧ Throughout p cond (handle p op.1 op.2 r).2 rest

/-- An agent that is created has no identifier that an account already has. -/
def AgentsFree (r : Repo) : Request → Prop
  | .user (.createAgent request) => ∀ agent, (r.createAgent request).1 = .ok (agent, true) → AgentFree r request
  | _ => True

/-- The row of a new agent has no identifier, as the service builds it. -/
def AgentUnnamed : Request → Prop
  | .user (.createAgent request) => ∀ i : Identifier, i.of request.agent = ""
  | _ => True

section Run
variable {r : Repo}

lemma AccountCall.named (hcall : AccountCall q) (hnamed : AccountsNamed r) (hfree : AgentsFree r q) (p : Platform)
    (tick : Tick) : AccountsNamed (handle p q tick r).2 := by
  unfold AccountCall at hcall
  split at hcall
  · exact createUser_named hnamed hcall
  · exact createManagedChildAccount_named hnamed hcall.1 hcall.2 _ _
  · exact updateUser_named hnamed tick.now _ _
  · exact updateUserEmail_named hnamed _ _ _
  · exact assignAccountAddress_named hnamed _ _
  · exact applyAccountMerge_named hnamed _
  · exact createAgent_named hnamed hfree
  · exact setDateOfBirthOnce_named hnamed _ _ _ _
  · exact deleteUser_named hnamed tick.now _
  · exact hcall.elim

lemma isError_iff : isError answer = true ↔ ∃ err, answer = .error err := by
  cases answer <;> simp [isError]

lemma createUser_error (herr : (r.createUser u).1 = .error err) : (r.createUser u).2.users = r.users := by
  grind [insertUser_error, Repo.createUser]

lemma createAgent_error (herr : (r.createAgent request).1 = .error err) :
    (r.createAgent request).2.users = r.users := by
  have hresult := createAgent_result r request
  generalize r.createAgent request = out at hresult herr
  cases hresult with
  | refused err hchange =>
    obtain ⟨n, -, rfl⟩ := hchange
    rfl
  | replayed => rfl
  | created => cases herr

/-- An operation that answers an error leaves every account alone. -/
lemma AccountCall.unchanged (hcall : AccountCall q)
    (hrefused : refused q (handle p q tick r).1 = true) : (handle p q tick r).2.users = r.users := by
  unfold AccountCall at hcall
  split at hcall
  · obtain ⟨err, herr⟩ := isError_iff.mp hrefused
    exact createUser_error herr
  · obtain ⟨err, herr⟩ := isError_iff.mp hrefused
    exact congrArg Repo.users (createManagedChildAccount_error herr)
  · obtain ⟨err, herr⟩ := isError_iff.mp hrefused
    dsimp only [handle, UserRequest.handle, Repo.updateUser] at herr ⊢
    split at herr
    · rfl
    split at herr
    · rfl
    · cases herr
  · obtain ⟨err, herr⟩ := isError_iff.mp hrefused
    dsimp only [handle, UserRequest.handle, Repo.updateUserEmail] at herr ⊢
    split at herr
    · rfl
    · grind
  · obtain ⟨err, herr⟩ := isError_iff.mp hrefused
    dsimp only [handle, UserRequest.handle, Repo.assignAccountAddress] at herr ⊢
    split at herr
    · rename_i hids
      rw [if_pos hids]
    · grind
  · obtain ⟨err, herr⟩ := isError_iff.mp hrefused
    dsimp only [handle, UserRequest.handle, Repo.applyAccountMerge] at herr ⊢
    split at herr
    · dsimp only
      rw [(revokeChangedUsers_grantsOnly r r.users _).frame]
    · cases herr
  · obtain ⟨err, herr⟩ := isError_iff.mp hrefused
    exact createAgent_error herr
  · obtain ⟨err, herr⟩ := isError_iff.mp hrefused
    dsimp only [handle, UserRequest.handle, Repo.setDateOfBirthOnce] at herr ⊢
    split at herr
    · rename_i hid
      rw [if_pos hid]
    split at herr
    · cases herr
    · split at herr <;> cases herr
  · cases hrefused
  · exact hcall.elim

lemma accountsNamed_new : AccountsNamed new := by
  have hnone : ∀ key, new.users.lookup key = none := fun _ => rfl
  grind

lemma accountsNamed_run (p : Platform) (hnamed : AccountsNamed r)
    (hcalls : ∀ op ∈ ops, AccountCall op.1) (hfree : Throughout p AgentsFree r ops) : AccountsNamed (run p r ops) := by
  induction ops generalizing r with
  | nil => exact hnamed
  | cons op rest ih =>
    refine ih ((hcalls op (.head _)).named hnamed hfree.1 p op.2) (fun other hmem => ?_) hfree.2
    exact hcalls other (.tail _ hmem)

lemma throughout_agentsFree (p : Platform) {ops : List (Request × Tick)} (hunnamed : ∀ op ∈ ops, AgentUnnamed op.1) :
    Throughout p AgentsFree r ops := by
  induction ops generalizing r with
  | nil => trivial
  | cons op rest ih =>
    refine ⟨?_, ih fun other hmem => hunnamed other (.tail _ hmem)⟩
    have hop := hunnamed op (.head _)
    unfold AgentsFree
    split
    · rename_i request heq
      rw [heq] at hop
      exact fun agent _ i other v _ hfilled => absurd (hop i) hfilled
    · trivial

end Run

/-- Any sequence of operations that write accounts, from an empty store, in which agents are
    created without identifiers: no two accounts share an identifier, every account stands
    under its own id, and an operation that answers an error has changed none of them. -/
theorem account_identifiers_unique (p : Platform) (ops : List (Request × Tick)) (hcalls : ∀ op ∈ ops, AccountCall op.1)
    (hunnamed : ∀ op ∈ ops, AgentUnnamed op.1) :
    IdentifiersUnique (run p new ops).users ∧ (∀ key u, (run p new ops).users.lookup key = some u → u.id = key) ∧
      ∀ q tick, AccountCall q → refused q (handle p q tick (run p new ops)).1 = true →
        (handle p q tick (run p new ops)).2.users = (run p new ops).users := by
  have hnamed := accountsNamed_run p accountsNamed_new hcalls (throughout_agentsFree p hunnamed)
  exact ⟨hnamed.unique, hnamed.keyed, fun q tick hcall hrefused => hcall.unchanged hrefused⟩

def sampleBob : User where
  id := "bob"
  status := statusActive
  kind := .person
  username := "bob"

/-- An agent of bob's. -/
def sampleAgentRequest (username : String) : AgentCreation where
  callerID := "bob"
  requestID := "request-1"
  fingerprint := "0000000000000000000000000000000000000000000000000000000000000000"
  agent := { id := "", status := statusActive, kind := .agent, ownerUserID := "bob", username := username }
  ownerLimit := 5

def sampleAgentCreation (username : String) : List (Request × Tick) :=
  [(.user (.createUser sampleBob), sampleTick), (.user (.createAgent (sampleAgentRequest username)), sampleTick)]

/-- A person and their agent, which has no identifier of its own. -/
theorem account_identifiers_unique_agent : (run tokenPlatform new (sampleAgentCreation "")).users.lookup "mem-1" =
        some { (sampleAgentRequest "").agent with id := "mem-1" } ∧
      IdentifiersUnique (run tokenPlatform new (sampleAgentCreation "")).users := by
  refine ⟨rfl, (account_identifiers_unique tokenPlatform (sampleAgentCreation "") ?_ ?_).1⟩
  · intro op hmem
    rcases List.mem_pair.mp hmem with rfl | rfl
    · exact ne_memID_of_head "bob" (by decide)
    · trivial
  · intro op hmem
    rcases List.mem_pair.mp hmem with rfl | rfl
    · trivial
    · intro i
      cases i <;> rfl

/-- An agent is stored with a username that a person already has. -/
theorem agent_takes_username :
    let r := run tokenPlatform new (sampleAgentCreation "bob")
    (∀ op ∈ sampleAgentCreation "bob", AccountCall op.1) ∧
      (∃ u agent, r.users.lookup "bob" = some u ∧ r.users.lookup "mem-1" = some agent ∧ u.username = "bob" ∧
        agent.username = "bob") ∧ ¬ IdentifiersUnique r.users := by
  refine ⟨?_, ⟨_, _, rfl, rfl, rfl, rfl⟩, fun hunique => ?_⟩
  · intro op hmem
    rcases List.mem_pair.mp hmem with rfl | rfl
    · exact ne_memID_of_head "bob" (by decide)
    · trivial
  · have hsame := hunique .username "bob" "mem-1" _ _ rfl rfl (by decide) rfl
    exact absurd hsame (by decide)

end identity.repository
