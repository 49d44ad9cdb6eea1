import Identity.Governance.Run

/-! A suspension and a removal of a member stand until they are lifted. -/

open identity.service ReadCommitted
namespace identity.postgres

/-- Whether the last removal of the user that committed came after every grant to them from one
    of the sources that did. -/
def removedSince (sources : MembershipSource → Bool) (tasks : List MembershipTask) (userID : String) : DbTrace → Bool
  | [] => false
  | event :: earlier =>
    match event.req with
    | .commit tx =>
      match tasks[tx]? with
      | some (.remove target) => target == userID || removedSince sources tasks userID earlier
      | some (.grant target source _) =>
        !(target == userID && sources source) && removedSince sources tasks userID earlier
      | _ => removedSince sources tasks userID earlier
    | _ => removedSince sources tasks userID earlier

/-- No grant to the user, from whatever source, has committed since their removal. -/
def removalStands : List MembershipTask → String → DbTrace → Bool := removedSince fun _ => true

section Steps
variable (tasks : List MembershipTask) (pool : TenantPool) (caller : Nat) (tick : Tick) (statement : Statement)

/-- A step ends a suspension only as the commit of a restore or of a removal of that member. -/
def KeepsSuspended : Prop :=
  ∀ userID m, pool.store.members.committed.lookup userID = some m → m.status = .suspended →
    (∃ m', (handle statement tick pool.store).2.members.committed.lookup userID = some m' ∧ m'.status = .suspended) ∨
    statement = .commit caller ∧ (tasks[caller]? = some (.remove userID) ∨
      ∃ restorer restored, tasks[caller]? = some (.restore userID restorer) ∧
        ⟨caller, .writeRow caller userID .restore, restored⟩ ∈ pool.trace)

/-- A restore is written for an operator, or for one who governs the tenant at that step. -/
def RestoresByRight : Prop :=
  ∀ userID restorer, tasks[caller]? = some (.restore userID restorer) → statement = .writeRow caller userID .restore →
    restorer.isOperator = true ∨
      ∃ m, pool.store.members.committed.lookup restorer.userID = some m ∧ m.governs = true

/-- No grant that names the domain as its source commits for a user whose removal stands. -/
def NoDomainReturn : Prop :=
  ∀ tx target role, statement = .commit tx → tasks[tx]? = some (.grant target .domain role) →
    removalStands tasks target pool.trace = false

/-- A removed user has no membership, and the removal is on record. -/
@[grind =]
def RemovalsStand (db : TenantDb) (trace : DbTrace) : Prop :=
  ∀ userID, removalStands tasks userID trace = true →
    db.members.committed.lookup userID = none ∧ db.removals.committed.lookup userID ≠ none

end Steps

section
variable {pool : TenantPool} (hinv : TablesInv tasks pool.store pool.trace) (hturn :
  Turn tasks pool.trace i task statement)
include hinv hturn

lemma keepsSuspended_of_inv : KeepsSuspended tasks pool i tick statement := by
  intro userID m hm hsuspended
  cases hpublishes : statement.publishes with
  | false => grind [committed_step]
  | true =>
    cases statement with
    | upsertDerived added =>
      left
      rcases lookup_upsertDerived pool.store added userID with hsame | ⟨-, hnone, -⟩
      · exact ⟨m, hsame.trans hm, hsuspended⟩
      · rw [hm] at hnone
        cases hnone
    | commit tx =>
      obtain rfl := hturn.2.2.1
      rcases hinv.lookup_commit hturn userID with hsame | ⟨value, -, hvalue, hdraft⟩
      · exact .inl ⟨m, hsame.trans hm, hsuspended⟩
      rw [hm] at hdraft
      -- of the writes of a suspended membership only these two are possible
      cases task with
      | remove target =>
        obtain ⟨rfl, -⟩ := hdraft
        exact .inr ⟨rfl, .inl hturn.1⟩
      | restore target restorer =>
        obtain ⟨rfl, -, restored, hevent⟩ := hdraft
        exact .inr ⟨rfl, .inr ⟨restorer, restored, hturn.1, (Pool.mem_trace hevent)⟩⟩
      | suspend target =>
        obtain ⟨-, old, hold, hactive, -⟩ := hdraft
        cases hold
        rw [hsuspended] at hactive
        cases hactive
      | transfer fromID toID =>
        obtain ⟨⟨old, hold, hactive⟩, -⟩ := hdraft
        cases hold
        rw [hsuspended] at hactive
        cases hactive
      | grant target source role =>
        obtain ⟨-, new, -, hgranted⟩ := hdraft
        exact absurd hsuspended (hgranted m rfl).1
      | join target =>
        obtain ⟨-, ⟨new, -, hgranted⟩, -⟩ := hdraft
        exact absurd hsuspended (hgranted m rfl).1
      | ensure target => exact hdraft.elim
    | _ => cases hpublishes

lemma restoresByRight_of_inv : RestoresByRight tasks pool i statement := by
  rintro userID restorer hrestore rfl
  obtain rfl := Option.some.inj (hturn.1.symm.trans hrestore)
  obtain ⟨-, ⟨-, -, -, hright⟩, -⟩ := hturn.2.2
  refine hright.imp_right fun hgoverning => ?_
  obtain ⟨m, hheld, hgoverns⟩ := hgoverning
  exact ⟨m, ((hinv.call hturn).held hinv.keyed hheld).2, hgoverns⟩

end

/-- A step that is no commit leaves the last word on a user. -/
lemma removedSince_cons (hgoes : ∀ tx, statement ≠ .commit tx) (userID : String) :
    removedSince sources tasks userID (⟨i, statement, resp⟩ :: trace) = removedSince sources tasks userID trace := by
  cases statement with
  | commit tx => exact absurd rfl (hgoes tx)
  | _ => rfl

section
variable (hinv : TablesInv tasks db trace) (hturn : Turn tasks trace i task statement)
include hinv hturn

lemma TablesInv.removals_commit (userID : String)
    (hgrants : ∀ source role, task ≠ .grant userID source role) (hremoved :
      db.removals.committed.lookup userID ≠ none) :
    (db.commit i).removals.committed.lookup userID ≠ none := by
  have hcommit : (db.commit i).removals.committed.lookup userID =
      ((db.removals.writes i).lookup userID).getD (db.removals.committed.lookup userID) := Store.lookup_commit
  rw [hcommit]
  cases hwrite : (db.removals.writes i).lookup userID with
  | none => exact hremoved
  | some value => grind

/-- A commit that is no grant to a removed user leaves them without a membership. -/
lemma RemovalsStand.commit (hgrants : ∀ source role, task ≠ .grant userID source role) (hnone :
    db.members.committed.lookup userID = none)
    (hremoved : db.removals.committed.lookup userID ≠ none) :
    (db.commit i).members.committed.lookup userID = none ∧ (db.commit i).removals.committed.lookup userID ≠ none := by
  refine ⟨?_, hinv.removals_commit hturn userID hgrants hremoved⟩
  rcases hinv.lookup_commit hturn userID with hsame | ⟨value, -, hvalue, hdraft⟩
  · exact hsame.trans hnone
  rw [hnone] at hdraft
  cases task with
  | remove target =>
    obtain ⟨-, -, old, hold, -⟩ := hdraft
    cases hold
  | suspend target =>
    obtain ⟨-, old, hold, -⟩ := hdraft
    cases hold
  | restore target restorer =>
    obtain ⟨-, ⟨old, hold, -⟩, -⟩ := hdraft
    cases hold
  | transfer fromID toID =>
    obtain ⟨⟨old, hold, -⟩, -⟩ := hdraft
    cases hold
  | grant target source role =>
    obtain ⟨rfl, -⟩ := hdraft
    exact absurd rfl (hgrants source role)
  | join target =>
    -- the join has read that there is no removal, under the lock on the membership
    obtain ⟨rfl, -, hread⟩ := hdraft
    exact absurd ((hinv.call hturn).notRemoved userID hread).2 hremoved
  | ensure target => exact hdraft.elim

end

lemma RemovalsStand.step (hstand : RemovalsStand tasks db trace) (hinv : TablesInv tasks db trace)
    (hturn : Turn tasks trace i task statement) :
    RemovalsStand tasks (handle statement tick db).2 (⟨i, statement, (handle statement tick db).1⟩ :: trace) := by
  intro userID hstands
  cases hpublishes : statement.publishes with
  | false =>
    rw [removalStands, removedSince_cons (by rintro tx rfl; cases hpublishes), ← removalStands] at hstands
    grind [committed_step]
  | true =>
    cases statement with
    | upsertDerived added =>
      obtain ⟨hnone, hremoved⟩ := hstand userID hstands
      show (db.upsertDerived added).members.committed.lookup userID = none ∧
        (db.upsertDerived added).removals.committed.lookup userID ≠ none
      grind [removals_upsertDerived, lookup_upsertDerived]
    | commit tx =>
      obtain ⟨rfl, hended⟩ := hturn.2.2
      have hcall := hinv.call hturn
      rw [removalStands, removedSince, ← removalStands] at hstands
      simp only [hturn.1] at hstands
      cases task with
      | remove target =>
        rcases Bool.or_eq_true_iff.mp hstands with hself | hearlier
        · obtain rfl := beq_iff_eq.mp hself
          obtain ⟨⟨m, hdeleted⟩, hrecorded⟩ := hended target rfl
          obtain ⟨time, htime⟩ := hcall.recorded target rfl hrecorded
          constructor
          · exact Store.lookup_commit.trans (by rw [hcall.deleted target m hdeleted]; rfl)
          have hremoval : (db.commit tx).removals.committed.lookup target = some time :=
            Store.lookup_commit.trans (by rw [htime]; rfl)
          exact fun hnone => absurd (hremoval.symm.trans hnone) (Option.some_ne_none time)
        · obtain ⟨hnone, hremoved⟩ := hstand userID hearlier
          exact commit hinv hturn (by simp) hnone hremoved
      | grant target source role =>
        obtain ⟨hother, hearlier⟩ := Bool.and_eq_true_iff.mp hstands
        obtain ⟨hnone, hremoved⟩ := hstand userID hearlier
        refine commit hinv hturn ?_ hnone hremoved
        rintro _ _ ⟨⟩
        simp at hother
      | _ =>
        obtain ⟨hnone, hremoved⟩ := hstand userID hstands
        exact commit hinv hturn (by simp) hnone hremoved
    | _ => cases hpublishes

/-- While no domain grant commits for a user whose removal stands, only a grant from another
    source ends a removal. -/
lemma removalStands_of_held (hheld : NoDomainReturn tasks pool statement)
    (hstands : ∀ userID, removedSince (· != .domain) tasks userID pool.trace = true →
      removalStands tasks userID pool.trace = true)
    (userID : String) (hlater :
      removedSince (· != .domain) tasks userID (⟨caller, statement, resp⟩ :: pool.trace) = true) :
    removalStands tasks userID (⟨caller, statement, resp⟩ :: pool.trace) = true := by
  cases statement with
  | commit tx =>
    rw [removedSince] at hlater
    rw [removalStands, removedSince, ← removalStands]
    unfold NoDomainReturn at hheld
    grind
  | _ => exact hstands userID hlater

/-- A suspended membership changes its status only by a restore that its restorer may make, or
    goes with a removal. A removed user has no membership until a grant to them commits; and
    where no grant that names the domain commits for a user whose removal stands, none until a
    grant from another source does. Nothing but the locks is assumed of the interleaving. -/
theorem suspension_and_removal_stand (table : MemberTable) (removals : GoMap String Int) (nextID : Nat)
    (tasks : List MembershipTask) (schedule : List (Nat × Tick))
    (hwaits : Pool.Along handle Waits (tenantPool table.rows removals nextID tasks) schedule) :
    let pool := (tenantPool table.rows removals nextID tasks).run handle schedule
    Pool.Along handle (fun pool caller tick statement =>
        KeepsSuspended tasks pool caller tick statement ∧ RestoresByRight tasks pool caller statement)
      (tenantPool table.rows removals nextID tasks) schedule ∧
    (∀ userID, removalStands tasks userID pool.trace = true → pool.store.members.committed.lookup userID = none) ∧
    (Pool.Along handle (fun pool _ _ statement => NoDomainReturn tasks pool statement)
        (tenantPool table.rows removals nextID tasks) schedule →
      ∀ userID, removedSince (· != .domain) tasks userID pool.trace = true →
        pool.store.members.committed.lookup userID = none) := by
  intro pool
  have hkeep := tenantPool_keep table.rows removals nextID tasks
  constructor
  · refine Pool.along_conclude
      (fun pool caller tick statement next (hinv : TablesInv tasks pool.store pool.trace) hcall _ hguard hready => ?_)
      (fun pool caller tick statement next hinv _ hguard _ => ?_) hkeep (TablesInv.start table removals nextID)
        schedule hwaits
    · rw [Pool.step_request hcall]
      obtain ⟨task, hturn⟩ := hguard
      exact hinv.step hturn hready
    · obtain ⟨task, hturn⟩ := hguard
      exact ⟨keepsSuspended_of_inv hinv hturn, restoresByRight_of_inv hinv hturn⟩
  have hstand := Pool.along_invariant (fun pool caller tick statement next
        (hinv : TablesInv tasks pool.store pool.trace ∧ RemovalsStand tasks pool.store pool.trace)
          hcall _ hguard hready => by
      rw [Pool.step_request hcall]
      obtain ⟨task, hturn⟩ := hguard
      exact ⟨hinv.1.step hturn hready, hinv.2.step hinv.1 hturn⟩)
    hkeep ⟨TablesInv.start table removals nextID, fun _ hstands => by cases hstands⟩ schedule hwaits
  refine ⟨fun userID hstands => (hstand.2 userID hstands).1, fun hheld userID hsince => ?_⟩
  have hsame := Pool.along_invariant (fun pool caller tick statement next (hinv : ∀ userID,
      removedSince (· != .domain) tasks userID pool.trace = true → removalStands tasks userID pool.trace = true)
      hcall _ _ hheld => by
    rw [Pool.step_request hcall]
    exact removalStands_of_held hheld hinv) hkeep (fun _ hnone => hnone) schedule hheld
  exact (hstand.2 userID (hsame userID hsince)).1

/-- An owner and a member. -/
def sampleRows : GoMap String TenantMembership :=
  (AList.insert "u" ⟨2, "u", .domain, .member, .active⟩ (AList.insert "x" ⟨1, "x", .created, .owner, .active⟩ ∅))

def sampleTable : MemberTable :=
  ⟨sampleRows, fun userID m hm => GoMap.forall_lookup (P := fun key (row : TenantMembership) => row.userID = key)
    (by decide) userID m hm⟩

/-- The member is removed and signs up again at the tenant's domain. -/
def sampleTasks : List MembershipTask := [.remove "u", .join "u", .ensure "u"]

/-- The steps of each call in turn. -/
def sampleSchedule : List (Nat × Tick) := [0, 0, 0, 0, 0, 0, 0, 1, 1, 1, 1, 2].map fun caller => (caller, {})

theorem removed_member_stays_out :
    removalStands sampleTasks "u"
      ((tenantPool sampleTable.rows ∅ 3 sampleTasks).run handle sampleSchedule).trace = true ∧
      ((tenantPool sampleTable.rows ∅ 3 sampleTasks).run handle sampleSchedule).store.members.committed.lookup
        "u" = none :=
  ⟨by decide +kernel,
    (suspension_and_removal_stand sampleTable ∅ 3 sampleTasks sampleSchedule (by decide +kernel)).2.1 "u"
      (by decide +kernel)⟩

/-- A grant that names the domain as its source is no decision about the person, but it makes
    a removed user a member again. -/
theorem domain_grant_readmits :
    Pool.Along handle Waits (tenantPool sampleTable.rows ∅ 3 [.remove "u", .grant "u" .domain .member])
        ([0, 0, 0, 0, 0, 0, 0, 1, 1, 1].map fun caller => (caller, {})) ∧
      (((tenantPool sampleTable.rows ∅ 3 [.remove "u", .grant "u" .domain .member]).run handle
        ([0, 0, 0, 0, 0, 0, 0, 1, 1, 1].map fun caller => (caller, {}))).trace.any
          fun event => event.req = .commit 0) = true ∧
      ((tenantPool sampleTable.rows ∅ 3 [.remove "u", .grant "u" .domain .member]).run handle
        ([0, 0, 0, 0, 0, 0, 0, 1, 1, 1].map fun caller => (caller, {}))).store.members.committed.lookup "u" =
        some ⟨3, "u", .domain, .member, .active⟩ := by
  decide +kernel

end identity.postgres
