import Identity.Verification.Attempts

/-! A latent tenant without members is claimed by one person, as long as nobody is made its owner
while another person's verification that found it empty is under way. -/

open identity.service identity.postgres identity.invitations ReadCommitted
namespace identity.postgres
section Alone
variable {s : TenantDb}

/-- What a grant that runs alone does to the memberships: nobody but the user is added and nobody
    is removed. -/
structure JoinedBy (userID : String) (db db' : TenantDb) : Prop where
  clean : db'.members.writes 0 = ∅
  others : ∀ other, db'.members.committed.lookup other ≠ none → other = userID ∨
    db.members.committed.lookup other ≠ none
  stay : ∀ other, db.members.committed.lookup other ≠ none → db'.members.committed.lookup other ≠ none

/-- A grant that has not ended: it has written the user's row at most. -/
structure Granting (userID : String) (db s : TenantDb) : Prop where
  committed : s.members.committed = db.members.committed
  writes : ∀ key value, (s.members.writes 0).lookup key = some value → key = userID ∧ value ≠ none

lemma Granting.of_eq (hclean : db.members.writes 0 = ∅) (hsame : s.members = db.members) : Granting userID db s := by
  refine ⟨by rw [hsame], fun key value hwrite => ?_⟩
  rw [hsame, hclean] at hwrite
  cases hwrite

lemma Granting.write (hgranting : Granting userID db s) (row : TenantMembership)
    (hwritten : s'.members = s.members.write 0 userID (some row)) : Granting userID db s' := by
  refine ⟨by rw [hwritten]; exact hgranting.committed, fun key value hwrite => ?_⟩
  rw [hwritten, Store.writes_write] at hwrite
  split at hwrite
  · rename_i hkey
    cases hwrite
    exact ⟨hkey.2, by simp⟩
  · exact hgranting.writes key value hwrite

lemma grantIn_granting (source : MembershipSource) (role : Role) (hgranting : Granting userID db s) :
    (grantIn 0 userID source role).Runs handle (fun _ _ => True) (fun _ s' => Granting userID db s') s := by
  refine ⟨trivial, fun tick => ?_⟩
  have hafter : Granting userID db (handle (.grant 0 userID source role) tick s).2 := by
    show Granting userID db (s.grant 0 userID source role).2
    unfold TenantDb.grant
    cases s.members.read 0 userID with
    | none => exact hgranting.write _ rfl
    | some m =>
      dsimp only
      split
      · exact ⟨hgranting.committed, hgranting.writes⟩
      · exact hgranting.write _ rfl
  generalize handle (.grant 0 userID source role) tick s = answer at hafter ⊢
  obtain ⟨found, s'⟩ := answer
  cases found with
  | some granted => exact hafter
  | none =>
    refine ⟨trivial, fun tick' => ?_⟩
    have hread : (handle (.readMembership 0 userID) tick' s').2 = s' := rfl
    generalize handle (.readMembership 0 userID) tick' s' = answer at hread ⊢
    obtain ⟨found, s''⟩ := answer
    cases hread
    cases found with
    | none => exact hafter
    | some kept =>
      show (if kept.status = .suspended then _ else _ : MembershipCall).Runs handle _ _ _
      split
      · exact hafter
      · exact hafter

lemma writes_ended : (s.members.rollback 0).writes 0 = ∅ := by
  rw [Store.writes_rollback, if_pos rfl]

lemma commitGrant_joined (result : Except Err (Option TenantMembership)) (hgranting : Granting userID db s) :
    (commitGrant 0 result).Runs handle (fun _ _ => True) (fun _ s' => JoinedBy userID db s') s := by
  cases result with
  | error err =>
    refine ⟨trivial, fun tick => ⟨writes_ended, fun other hother => .inr ?_, fun other hother => ?_⟩⟩
    · rw [← hgranting.committed]
      exact hother
    show s.members.committed.lookup other ≠ none
    rw [hgranting.committed]
    exact hother
  | ok granted =>
    have hlookup : ∀ other, (s.commit 0).members.committed.lookup other =
        ((s.members.writes 0).lookup other).getD (db.members.committed.lookup other) := by
      intro other
      rw [← hgranting.committed]
      exact Store.lookup_commit
    refine ⟨trivial, fun tick => ⟨writes_ended (s := s), fun other hother => ?_, fun other hother => ?_⟩⟩
    · have hafter : (s.commit 0).members.committed.lookup other ≠ none := hother
      rw [hlookup] at hafter
      cases hwrite : (s.members.writes 0).lookup other with
      | none =>
        rw [hwrite] at hafter
        exact .inr hafter
      | some value => exact .inl (hgranting.writes other value hwrite).1
    show (s.commit 0).members.committed.lookup other ≠ none
    rw [hlookup]
    cases hwrite : (s.members.writes 0).lookup other with
    | none => exact hother
    | some value => exact (hgranting.writes other value hwrite).2

lemma grantMembership_joined (userID : String) (source : MembershipSource) (role : Role)
    (hclean : db.members.writes 0 = ∅) :
    (grantMembership 0 userID source role).Runs handle (fun _ _ => True) (fun _ s' => JoinedBy userID db s') db := by
  unfold grantMembership
  split
  · exact ⟨hclean, fun _ hother => .inr hother, fun _ hother => hother⟩
  refine ⟨trivial, fun tick => ?_⟩
  have hcleared : (clearRemoval 0 userID source).Runs handle (fun _ _ => True) (fun _ s' => Granting userID db s')
      { db with advisory := db.advisory.take 0 userID } := by
    unfold clearRemoval
    split
    · exact Granting.of_eq hclean rfl
    · exact ⟨trivial, fun _ => Granting.of_eq hclean rfl⟩
  show (clearRemoval 0 userID source >>= fun _ => grantIn 0 userID source role >>=
    fun result => commitGrant 0 result).Runs
    handle _ _ _
  refine .bind (hcleared.mono fun _ s1 hgranting => ?_)
  refine .bind ((grantIn_granting source role hgranting).mono fun result s2 hgranting2 => ?_)
  exact commitGrant_joined result hgranting2

end Alone
end identity.postgres

namespace identity.verification

/-- Whether a call has found the tenant without members. -/
def foundEmpty (tenantID : String) (own : CallTrace) : Bool :=
  own.any fun event =>
    match event with
    | ⟨_, .listMembershipsForTenant listed, []⟩ => listed == tenantID
    | _ => false

def Request.grants : Request → Option (String × String)
  | grantMembership tenantID userID _ _ => some (tenantID, userID)
  | _ => none

/-- Who verifies in a call. -/
def verifierOf (tasks : List DomainTask) (i : Nat) : Option String := tasks[i]?.bind DomainTask.verifier

/-- Nobody is made an owner of a tenant that another person's call, still under way, has found
    without members. -/
@[grind =]
def Uncontested (tasks : List DomainTask) (pool : DomainPool) (_ : Nat) (_ : Instant) (r : Request) : Prop :=
  ∀ granted, r.grants = some granted → ∀ i < pool.calls.length, verifierOf tasks i ≠ some granted.2 →
    (pool.pending i).isSome = true → foundEmpty granted.1 (Pool.own pool.trace i) = false

instance (tasks : List DomainTask) (pool : DomainPool) (caller : Nat) (instant : Instant) (r : Request) :
    Decidable (Uncontested tasks pool caller instant r) :=
  inferInstanceAs (Decidable (∀ granted, r.grants = some granted → _))

/-- The user has a membership of the tenant. -/
@[grind =]
def IsMember (db : DomainDb) (tenantID userID : String) : Prop :=
  (db.members tenantID).members.committed.lookup userID ≠ none

instance (db : DomainDb) (tenantID userID : String) : Decidable (IsMember db tenantID userID) :=
  inferInstanceAs (Decidable (_ ≠ none))

lemma members_serve (hother : r.grants = none) : (serve r instant db).2.members = db.members := by
  cases r with
  | grantMembership => cases hother
  | recordDomainAttempt a =>
    show (db.recordDomainAttempt instant.nowMs a).2.members = _
    unfold DomainDb.recordDomainAttempt
    dsimp only
    split_ifs
    all_goals rfl
  | setDomainStatus domainID status verifiedAtMs => exact (db.alike_setDomainStatus _ domainID status verifiedAtMs).1
  | setTenantStatus tenantID from' to' => exact (db.alike_setTenantStatus tenantID from' to').1
  | createDomain d => exact (db.alike_createDomain _ d).1
  | _ => rfl

/-- What a step does to the memberships of a tenant. -/
@[grind]
structure Joins (tenantID : String) (r : Request) (db db' : DomainDb) : Prop where
  clean : (db'.members tenantID).members.writes 0 = ∅
  added : ∀ userID, IsMember db' tenantID userID → r.grants = some (tenantID, userID) ∨ IsMember db tenantID userID
  stay : ∀ userID, IsMember db tenantID userID → IsMember db' tenantID userID

lemma serve_joins (r : Request) (instant : Instant) (hclean : (db.members tenantID).members.writes 0 = ∅) :
    Joins tenantID r db (serve r instant db).2 := by
  have hsame : ∀ db' : DomainDb, db'.members tenantID = db.members tenantID → Joins tenantID r db db' := by grind
  cases hgrants : r.grants with
  | none => exact hsame _ (by rw [members_serve hgrants])
  | some granted =>
    cases r with
    | grantMembership target userID source role =>
      unfold serve
      dsimp only
      split
      · exact hsame db rfl
      by_cases htarget : target = tenantID
      · subst htarget
        have hjoined := (grantMembership_joined userID source role hclean).exec
          (Stream'.const { time := instant.nowMs })
        refine ⟨?_, fun other hmember => ?_, fun other hmember => ?_⟩
        · simp only [Function.update_self]
          exact hjoined.clean
        · unfold IsMember at hmember
          simp only [Function.update_self] at hmember
          rcases hjoined.others other hmember with rfl | hold
          · exact .inl rfl
          · exact .inr hold
        unfold IsMember
        simp only [Function.update_self]
        exact hjoined.stay other hmember
      · exact hsame _ (by simp only [Function.update_of_ne (Ne.symm htarget)])
    | _ => cases hgrants

section Runs
variable {tasks : List DomainTask} {r : Request} {next : r.Response → DomainCall (Except Err Unit)}
variable (tasks tenantID) in
/-- The tenant has one member at most, and a call that found it empty is that member's. -/
@[grind]
structure ClaimedByOne (pool : DomainPool) : Prop where
  clean : (pool.store.members tenantID).members.writes 0 = ∅
  one : ∀ userID other, IsMember pool.store tenantID userID → IsMember pool.store tenantID other → userID = other
  seen : ∀ i userID m, ⟨i, .getMembership tenantID userID, some m⟩ ∈ pool.trace → IsMember pool.store tenantID userID
  empty : ∀ i verifier, verifierOf tasks i = some verifier → (pool.pending i).isSome = true →
    foundEmpty tenantID (Pool.own pool.trace i) = true → ∀ userID, IsMember pool.store tenantID userID →
      userID = verifier

namespace ClaimedByOne
variable (hclaimed : ClaimedByOne tasks tenantID pool) (hcall : pool.Awaits caller r next)
  (htask : tasks[caller]? = some task) (hasks : MayAsk cfg task caller (Pool.own pool.trace caller) r)
  (huncontested : Uncontested tasks pool caller instant r)

include hclaimed hcall htask hasks in
/-- Whoever is made an owner is the only member there is, if there is one. -/
lemma granted_alone (hgrants : r.grants = some (tenantID, userID))
    (hmember : IsMember pool.store tenantID other) : other = userID := by
  cases r with
  | grantMembership target user source role =>
    cases hgrants
    obtain ⟨hverifier, hadmitted⟩ := hasks
    rcases hadmitted with ⟨m, hread⟩ | hempty
    · exact hclaimed.one other userID hmember (hclaimed.seen caller userID m (Pool.mem_trace hread))
    refine hclaimed.empty caller userID ?_ ?_ ?_ other hmember
    · rw [verifierOf, htask]
      exact hverifier
    · rw [Pool.pending_of_request hcall]
      rfl
    · exact List.any_eq_true.mpr ⟨_, hempty, beq_self_eq_true _⟩
  | _ => cases hgrants

include hclaimed hcall in
lemma joins (instant : Instant) : Joins tenantID r pool.store (pool.step serve caller instant).store := by
  rw [Pool.store_step hcall]
  exact serve_joins r instant hclaimed.clean

include hclaimed hcall htask hasks in
lemma one_step (userID other : String) (huser : IsMember (pool.step serve caller instant).store tenantID userID)
    (hother : IsMember (pool.step serve caller instant).store tenantID other) : userID = other := by
  have hjoins := hclaimed.joins hcall instant
  rcases hjoins.added userID huser with hgranted | hbefore
  · grind [hclaimed.granted_alone]
  · grind [hclaimed.granted_alone]

include hclaimed hcall in
lemma seen_step (i : Nat) (userID : String) (m : TenantMembership)
    (hread : ⟨i, .getMembership tenantID userID, some m⟩ ∈ (pool.step serve caller instant).trace) :
    IsMember (pool.step serve caller instant).store tenantID userID := by
  refine (hclaimed.joins hcall _).stay userID ?_
  rw [Pool.trace_step hcall rfl] at hread
  rcases List.mem_cons.mp hread with heq | hold
  · injection heq with _ hr hresp
    subst hr
    have hfound : (if tenantID = "" ∨ userID = "" then none
        else (pool.store.members tenantID).members.committed.lookup userID) = some m := (eq_of_heq hresp).symm
    grind
  · exact hclaimed.seen i userID m hold

/-- A call that has found the tenant empty has just done so, when it has no member, or had before. -/
lemma foundEmpty_step (hnamed : tenantID ≠ "") (hcall : pool.Awaits caller r next)
    (hfound : foundEmpty tenantID (Pool.own (pool.step serve caller instant).trace caller) = true) :
    (r.grants = none ∧ ∀ userID, ¬ IsMember pool.store tenantID userID) ∨
      foundEmpty tenantID (Pool.own pool.trace caller) = true := by
  rw [Pool.own_step_self hcall, foundEmpty, List.any_cons, Bool.or_eq_true] at hfound
  rcases hfound with hnow | hbefore
  · left
    cases r with
    | listMembershipsForTenant listed =>
      refine ⟨rfl, fun userID hmember => ?_⟩
      have hrows : (serve (.listMembershipsForTenant listed) instant pool.store).1 =
          if listed = "" then [] else (pool.store.members listed).members.committed.rows := rfl
      obtain ⟨m, hm⟩ := Option.ne_none_iff_exists'.mp hmember
      have hmem := GoMap.mem_rows_iff.mpr ⟨userID, hm⟩
      grind
    | _ => cases hnow
  · exact .inr hbefore

include hclaimed hcall htask hasks huncontested in
lemma empty_step (hnamed : tenantID ≠ "") (i : Nat) (verifier : String) (hverifier :
    verifierOf tasks i = some verifier)
    (hpending : ((pool.step serve caller instant).pending i).isSome = true)
    (hfound : foundEmpty tenantID (Pool.own (pool.step serve caller instant).trace i) = true) (userID : String)
    (hmember : IsMember (pool.step serve caller instant).store tenantID userID) : userID = verifier := by
  have hjoins := hclaimed.joins hcall instant
  by_cases hself : i = caller
  · subst hself
    have hbusy : (pool.pending i).isSome = true := by
      rw [Pool.pending_of_request hcall]
      rfl
    grind [foundEmpty_step]
  rw [Pool.pending_step_ne hself] at hpending
  rw [Pool.own_step_ne hself] at hfound
  rcases hjoins.added userID hmember with hgranted | hold
  · by_contra hne
    have hquiet := huncontested _ hgranted i (Pool.lt_length_of_pending hpending)
      (fun hsame => hne (Option.some.inj (hsame.symm.trans hverifier))) hpending
    cases hquiet.symm.trans hfound
  · exact hclaimed.empty i verifier hverifier hpending hfound userID hold

include hclaimed hcall htask hasks huncontested in
lemma step (hnamed : tenantID ≠ "") : ClaimedByOne tasks tenantID (pool.step serve caller instant) where
  clean := (hclaimed.joins hcall _).clean
  one := hclaimed.one_step hcall htask hasks
  seen := hclaimed.seen_step hcall
  empty := hclaimed.empty_step hcall htask hasks huncontested hnamed

end ClaimedByOne
end Runs

/-- A latent tenant without members gets one member at most, as long as nobody is made its owner
    while another person's call that has found it empty is under way. -/
theorem latent_tenant_claimed_by_one (cfg : DomainConfig) (rows : ProjectRows) (tasks : List DomainTask)
    (schedule : List (Nat × Instant)) (tenantID : String) (hlatent : rows.tenants.lookup tenantID = some .latent)
    (hempty : ∀ userID, (rows.members tenantID).lookup userID = none)
    (huncontested : Pool.Along serve (Uncontested tasks) (domainPool cfg rows tasks) schedule) (userID other : String)
    (huser : IsMember ((domainPool cfg rows tasks).run serve schedule).store tenantID userID)
    (hother : IsMember ((domainPool cfg rows tasks).run serve schedule).store tenantID other) : userID = other := by
  have hnamed : tenantID ≠ "" := by
    rintro rfl
    cases rows.named.symm.trans hlatent
  have hnone : ∀ userID, ¬ IsMember (domainPool cfg rows tasks).store tenantID userID :=
    fun userID hmember => hmember (hempty userID)
  have hrun := Pool.along_invariant
    (fun pool caller instant r next (hclaimed : ClaimedByOne tasks tenantID pool) hcall _ hguard hcond => by
      obtain ⟨task, htask, hasks⟩ := hguard
      exact hclaimed.step hcall htask hasks hcond hnamed)
    (domainPool_keep cfg rows tasks)
    ⟨rfl, fun userID _ hmember _ => absurd hmember (hnone userID), fun _ _ _ hread => absurd hread List.not_mem_nil,
      fun _ _ _ _ _ userID hmember => absurd hmember (hnone userID)⟩ schedule huncontested
  exact hrun.one userID other huser hother

/-- A latent tenant, with a domain that nobody has verified. -/
def latentRows : ProjectRows where
  domains := AList.insert "d" { id := "d", tenantID := "t", domain := "b.example", verificationMethod := .dnsTXT } ∅
  tenants := AList.insert "t" .latent ∅
  members _ := ∅
  removals _ := ∅
  nextID _ := 1
  attempts := []
  named := by decide

/-- Two people verify the domain. -/
def latentTasks : List DomainTask := [.verify "u" "d", .verify "v" "d"]

/-- The challenge is published. -/
def latentTurn (caller : Nat) : Nat × Instant :=
  (caller, {
    nowMs := 9000
    records := some ["identity-domain-verify=33b78b383f577c6e3a3be50bf2e9d0d7c35a377259f05ec36a4df712af7c1dff"] })

theorem second_verifier_refused :
    let turns := [0, 0, 0, 0, 0, 0, 0, 0, 0, 0, 0, 1, 1, 1].map latentTurn
    let pool := (domainPool sampleConfig latentRows latentTasks).run serve turns
    IsMember pool.store "t" "u" ∧ ∀ other, IsMember pool.store "t" other → "u" = other :=
  ⟨by decide +kernel, fun other => latent_tenant_claimed_by_one sampleConfig latentRows latentTasks
    ([0, 0, 0, 0, 0, 0, 0, 0, 0, 0, 0, 1, 1, 1].map latentTurn) "t" (by decide) (fun _ => rfl) (by decide +kernel) "u"
    other (by decide +kernel)⟩

/-- Both have found the tenant empty before one of them is made its owner. -/
theorem two_verifiers_own :
    let pool := (domainPool sampleConfig latentRows latentTasks).run serve
      ([0, 0, 0, 0, 1, 1, 1, 1, 0, 0, 0, 0, 0, 0, 0, 1, 1, 1, 1, 1, 1, 1].map latentTurn)
    IsMember pool.store "t" "u" ∧ IsMember pool.store "t" "v" ∧ pool.result 1 = some (.ok ()) := by
  decide +kernel

end identity.verification
