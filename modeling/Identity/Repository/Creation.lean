import Identity.Repository.Identifiers

open identity.service identity.memory
namespace identity.repository

/-- An operation of the in-memory store. A user-node patch goes to the SQL stores only, and
    an id the caller chooses is not one the store generates. -/
def StoreCall : Request → Prop
  | .user (.updateUserNode _ _) => False
  | q => ∀ id ∈ q.suppliedUserIDs, ∀ n, id ≠ memID n

/-- The creation of an agent, as an operation. -/
def creates (request : AgentCreation) : Request := .user (.createAgent request)

/-- The operation creates an agent under the key. -/
def CreatesUnder (r : Repo) (q : Request) (key : String × String) : Prop :=
  ∃ request agent, q = creates request ∧ key = (request.callerID, request.requestID) ∧
    (r.createAgent request).1 = .ok (agent, true)

section Step
variable {new : String × String → Prop}

lemma UserRequest.handle_fences (hkeyed : UsersKeyed r) (q : UserRequest) (hcall : StoreCall (.user q)) (now : Int)
    (hnew : ∀ key, CreatesUnder r (.user q) key → new key) : Fences new r (q.handle now r).2 := by
  by_cases haccount : q.onAccount = true
  · obtain ⟨userID, atMs, -, hstep⟩ := handle_accountStep haccount now r
    exact hstep.fences
  cases q with
  | createUser u =>
    dsimp only [handle, Repo.createUser]
    split
    · rfl
    · exact insertUser_fences r hkeyed (hcall u.id (.head _))
  | updateUserNode userID patch => exact hcall.elim
  | deleteUser userID =>
    dsimp only [handle, Repo.deleteUser]
    split
    · rfl
    · exact deleteUserLocked_fences r now userID
  | deleteStaleAnonymousUsers beforeMs limit =>
    dsimp only [handle, Repo.deleteStaleAnonymousUsers]
    split
    · rfl
    · grind [foldl_fences, deleteUserLocked_fences]
  | createAgent request =>
    exact createAgent_fences r request fun agent hanswer => hnew _ ⟨request, agent, rfl, rfl, hanswer⟩
  | applyAccountMerge m => exact applyAccountMerge_fences hkeyed m
  | _ => first | rfl | exact absurd rfl haccount

lemma GuardianRequest.handle_fences (hkeyed : UsersKeyed r) (q : GuardianRequest) (hcall : StoreCall (.guardian q))
    (now : Int) :
    Fences new r (q.handle now r).2 := by
  have hframe : ∀ {r'}, GuardiansOnly r r' → Fences new r r' :=
    fun h => fences_of_eq (by rw [h.frame]) h.users h.seq.ge
  cases q with
  | createManagedChildAccount u edge consent =>
    exact createManagedChildAccount_fences hkeyed (hcall u.id (.head _)) edge consent
  | _ => exact hframe (handle_guardiansOnly rfl now r)

/-- Every operation keeps the receipts, ends those of a user who loses authority, and adds
    one only where it creates an agent. -/
lemma handle_fences (p : Platform) (hkeyed : UsersKeyed r) (hcall : StoreCall q) (tick : Tick) :
    Fences (CreatesUnder r q) r (handle p q tick r).2 := by
  cases q with
  | user q => exact UserRequest.handle_fences hkeyed q hcall tick.now fun _ => id
  | guardian q => exact GuardianRequest.handle_fences hkeyed q hcall tick.now
  | session q =>
    have hframe := SessionRequest.handle_sessionsOnly q tick.now r
    refine fences_of_eq ?_ hframe.users hframe.seq_le
    show (q.handle tick.now r).2.agentCreations = r.agentCreations
    rw [hframe.frame]
  | agent q =>
    have hframe := AgentRequest.handle_agentsOnly p r q
    refine fences_of_eq ?_ hframe.users hframe.seq.ge
    show (q.handle p r).2.agentCreations = r.agentCreations
    rw [hframe.frame]
  | signIn q =>
    have hframe := SignInRequest.handle_signInOnly r q
    refine fences_of_eq ?_ hframe.users hframe.seq_le
    show (q.handle r).2.agentCreations = r.agentCreations
    rw [hframe.frame]
  | credential q =>
    have hframe := CredentialRequest.handle_credentialsOnly r q
    refine fences_of_eq ?_ hframe.users hframe.seq_le
    show (q.handle r).2.agentCreations = r.agentCreations
    rw [hframe.frame]
  | clock | random | compare => rfl

end Step

section Run
variable (p : Platform)

lemma usersKeyed_new : UsersKeyed new := ⟨by simp [new], by simp [new]⟩

lemma run_append (r : Repo) (before after : List (Request × Tick)) :
    run p r (before ++ after) = run p (run p r before) after := List.foldl_append

lemma run_fences (hkeyed : UsersKeyed r) (hcalls : ∀ op ∈ ops, StoreCall op.1) :
    Fences (fun _ => True) r (run p r ops) := by
  induction ops generalizing r with
  | nil => rfl
  | cons op rest ih =>
    have hstep := handle_fences p hkeyed (hcalls op (.head _)) op.2
    refine (hstep.mono fun _ _ => trivial).trans (ih (hstep.keyed hkeyed) fun other hmem => ?_)
    exact hcalls other (.tail _ hmem)

/-- Somewhere in the run a user loses what a creation rests on. -/
def LostAlong (r : Repo) (ops : List (Request × Tick)) (userID : String) : Prop :=
  ∃ before op after, ops = before ++ op :: after ∧
    AuthorityLost userID (run p r before) (handle p op.1 op.2 (run p r before)).2

/-- A receipt outlives the run, and is ended in it by any loss of a user it names. -/
lemma run_receipt (hkeyed : UsersKeyed r) (hcalls : ∀ op ∈ ops, StoreCall op.1) (hreceipt :
    r.agentCreations.lookup key = some receipt) :
    ∃ receipt', (run p r ops).agentCreations.lookup key = some receipt' ∧ receipt.Follows receipt' ∧
      ∀ userID, receipt.names userID = true → LostAlong p r ops userID → receipt'.invalidated = true := by
  obtain ⟨receipt', hreceipt', hfollows, -⟩ := (run_fences p hkeyed hcalls).receipts key receipt hreceipt
  refine ⟨receipt', hreceipt', hfollows, fun userID hnames hlost => ?_⟩
  obtain ⟨before, op, after, rfl, hlost⟩ := hlost
  have hbefore := run_fences p hkeyed fun other hmem => hcalls other (List.mem_append_left _ hmem)
  have hkeyed1 := hbefore.keyed hkeyed
  have hstep := handle_fences p hkeyed1 (hcalls op (by simp)) op.2
  have hafter : Fences (fun _ => True) (handle p op.1 op.2 (run p r before)).2 (run p r (before ++ op :: after)) := by
    rw [run_append]
    exact run_fences p (hstep.keyed hkeyed1) fun other hmem => hcalls other (by simp [hmem])
  obtain ⟨receipt1, hreceipt1, hfollows1, -⟩ := hbefore.receipts key receipt hreceipt
  obtain ⟨receipt2, hreceipt2, hfollows2, hended⟩ := hstep.receipts key receipt1 hreceipt1
  obtain ⟨receipt3, hreceipt3, hfollows3, -⟩ := hafter.receipts key receipt2 hreceipt2
  rw [hreceipt'] at hreceipt3
  cases hreceipt3
  exact hfollows3.invalidated (hended userID (by rwa [hfollows1.names]) hlost)

/-- A receipt at the end of a run was there at its start, or was left by a creation in it. -/
lemma run_receipt_origin (hkeyed : UsersKeyed r) (hcalls : ∀ op ∈ ops, StoreCall op.1) (hreceipt' :
    (run p r ops).agentCreations.lookup key = some receipt') :
    (∃ receipt, r.agentCreations.lookup key = some receipt) ∨
      ∃ before op after, ops = before ++ op :: after ∧ CreatesUnder (run p r before) op.1 key := by
  induction ops generalizing r with
  | nil => exact .inl ⟨receipt', hreceipt'⟩
  | cons op rest ih =>
    have hstep := handle_fences p hkeyed (hcalls op (.head _)) op.2
    rcases ih (hstep.keyed hkeyed) (fun other hmem => hcalls other (.tail _ hmem)) hreceipt' with
      ⟨receipt, hreceipt⟩ | ⟨before, first, after, rfl, hcreates⟩
    · exact (hstep.added key receipt hreceipt).imp_right fun hcreates => ⟨[], op, rest, rfl, hcreates⟩
    · exact .inr ⟨op :: before, first, after, rfl, hcreates⟩

end Run

/-- What a request with the caller and key of an earlier creation is answered at a store:
    never a second agent; the first one while it is an active agent of the owner it was
    created for, under the same fingerprint; and nothing once authority was lost. -/
structure Retried (request : AgentCreation) (agent : User) (lost : Prop) (r : Repo) (retry : AgentCreation) :
    Prop where
  not_created : ∀ other, (r.createAgent retry).1 ≠ .ok (other, true)
  returned : ∀ other, (r.createAgent retry).1 = .ok (other, false) → r.users.lookup agent.id = some other ∧
    other.id = agent.id ∧ other.isAgent = true ∧ isActiveStatus other.status = true ∧
    other.ownerUserID = request.agent.ownerUserID ∧ retry.fingerprint = request.fingerprint ∧ ¬ lost
  refused : lost → ∃ err, (r.createAgent retry).1 = .error err

/-- A receipt that follows a creation's decides every request under its key. -/
lemma retried_of_receipt (hkeyed : UsersKeyed r) (hsome : retry.requestID ≠ "")
    (hreceipt : r.agentCreations.lookup (retry.callerID, retry.requestID) = some receipt)
    (hfollows : (AgentCreation.receipt request agent.id).Follows receipt) (hlost : lost → receipt.invalidated = true) :
    Retried request agent lost r retry := by
  have hresult := createAgent_result r retry
  have hreturned : ∀ other, (r.createAgent retry).1 = .ok (other, false) → r.users.lookup agent.id = some other ∧
      other.id = agent.id ∧ other.isAgent = true ∧ isActiveStatus other.status = true ∧
      other.ownerUserID = request.agent.ownerUserID ∧ retry.fingerprint = request.fingerprint ∧ ¬ lost := by
    intro other hanswer
    generalize r.createAgent retry = out at hresult hanswer
    cases hresult with
    | refused => cases hanswer
    | created => cases hanswer
    | replayed hkey hreceipt' hstands hagent hkind hactive howner hfingerprint => grind [AgentCreation.receipt]
  have hnot : ∀ other, (r.createAgent retry).1 ≠ .ok (other, true) := by
    intro other hanswer
    generalize r.createAgent retry = out at hresult hanswer
    cases hresult with
    | refused => cases hanswer
    | replayed => cases hanswer
    | created hunused =>
      rw [hunused.resolve_left hsome] at hreceipt
      cases hreceipt
  refine ⟨hnot, hreturned, fun hgone => ?_⟩
  cases hanswer : (r.createAgent retry).1 with
  | error err => exact ⟨err, rfl⟩
  | ok answer =>
    obtain ⟨other, created⟩ := answer
    cases created with
    | true => exact absurd hanswer (hnot other)
    | false => exact absurd hgone (hreturned other hanswer).2.2.2.2.2.2

/-- A creation under a key leaves its receipt. -/
lemma createAgent_receipt {r : Repo} (hsome : request.requestID ≠ "")
    (hanswer : (r.createAgent request).1 = .ok (agent, true)) :
    (r.createAgent request).2.agentCreations.lookup (request.callerID, request.requestID) =
      some (AgentCreation.receipt request agent.id) := by
  have hresult := createAgent_result r request
  generalize r.createAgent request = out at hresult hanswer
  cases hresult with
  | refused => cases hanswer
  | replayed => cases hanswer
  | created hunused _ hfree hstored hseq hreceipts => grind

/-- Any sequence of operations of the in-memory store. After a creation under a key no later
    request under that key creates again; it is answered with the created agent only while
    that agent stands as it was created and nobody the creation rests on has lost authority
    since. And whoever is answered with an existing agent repeats such a creation. -/
theorem agent_created_once (p : Platform) (ops : List (Request × Tick)) (hcalls : ∀ op ∈ ops, StoreCall op.1) :
    (∀ before request tick after agent, ops = before ++ (creates request, tick) :: after → request.requestID ≠ "" →
      ((run p new before).createAgent request).1 = .ok (agent, true) →
      ∀ retry : AgentCreation, retry.callerID = request.callerID → retry.requestID = request.requestID →
        Retried request agent (∃ userID ∈ [agent.id, request.agent.ownerUserID, request.callerID],
          LostAlong p ((run p new before).createAgent request).2 after userID) (run p new ops) retry) ∧
    ∀ retry agent, ((run p new ops).createAgent retry).1 = .ok (agent, false) → retry.requestID ≠ "" ∧
      ∃ before op after, ops = before ++ op :: after ∧
        CreatesUnder (run p new before) op.1 (retry.callerID, retry.requestID) := by
  constructor
  · rintro before request tick after agent rfl hsome hanswer retry hcaller hkey
    have hkeyed := (run_fences p usersKeyed_new fun op hmem => hcalls op (List.mem_append_left _ hmem)).keyed
      usersKeyed_new
    have hcreated : UsersKeyed ((run p new before).createAgent request).2 :=
      (handle_fences p hkeyed (hcalls (creates request, tick) (by simp)) tick).keyed hkeyed
    have hcalls' : ∀ op ∈ after, StoreCall op.1 := fun op hmem => hcalls op (by simp [hmem])
    obtain ⟨receipt, hreceipt, hfollows, hended⟩ := run_receipt p hcreated hcalls' (createAgent_receipt hsome hanswer)
    have hrun : run p new (before ++ (creates request, tick) :: after) =
        run p ((run p new before).createAgent request).2 after := run_append p new before _
    rw [hrun]
    refine retried_of_receipt ((run_fences p hcreated hcalls').keyed hcreated) (hkey ▸ hsome)
      (by rw [hcaller, hkey, hreceipt])
      hfollows ?_
    grind [AgentCreationReceipt.names, AgentCreation.receipt]
  intro retry agent hanswer
  have hresult := createAgent_result (run p new ops) retry
  generalize (run p new ops).createAgent retry = out at hresult hanswer
  cases hresult with
  | refused => cases hanswer
  | created => cases hanswer
  | replayed hkey hreceipt =>
    refine ⟨hkey, (run_receipt_origin p usersKeyed_new hcalls hreceipt).resolve_left ?_⟩
    rintro ⟨receipt, hnew⟩
    simp [new] at hnew

/-- The agent is deactivated and then reactivated. -/
def sampleLapse : List (Request × Tick) :=
  [(.user (.updateUser "mem-1" (fields [("status", .str statusDeactivated)])), sampleTick),
    (.user (.updateUser "mem-1" (fields [("status", .str statusActive)])), sampleTick)]

/-- A retry is answered with the agent, until the agent was once deactivated. -/
theorem agent_created_once_retried :
    ((run tokenPlatform new (sampleAgentCreation "")).createAgent (sampleAgentRequest "")).1 =
        .ok ({ (sampleAgentRequest "").agent with id := "mem-1" }, false) ∧
      ∃ err, ((run tokenPlatform new (sampleAgentCreation "" ++ sampleLapse)).createAgent
        (sampleAgentRequest "")).1 = .error err := by
  refine ⟨rfl, ?_⟩
  have honce := agent_created_once tokenPlatform (sampleAgentCreation "" ++ sampleLapse) ?_
  · have hretried := honce.1 [(.user (.createUser sampleBob), sampleTick)]
      (sampleAgentRequest "") sampleTick sampleLapse
      { (sampleAgentRequest "").agent with id := "mem-1" } rfl (by decide) rfl (sampleAgentRequest "") rfl rfl
    refine hretried.refused ⟨"mem-1", .head _, [], _, _, rfl, _, rfl, fun after hafter => ?_⟩
    cases hafter
    rfl
  intro op hmem
  simp only [sampleAgentCreation, sampleLapse, List.cons_append, List.nil_append, List.mem_cons, List.not_mem_nil,
    or_false] at hmem
  rcases hmem with rfl | rfl | rfl | rfl
  · intro id hid n
    cases List.mem_singleton.mp hid
    exact ne_memID_of_head "bob" (by decide) n
  all_goals exact fun id hid => nomatch hid

end identity.repository
