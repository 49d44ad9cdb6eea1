import Identity.Governance.Drafts

/-! A transaction's own step keeps what is true of it. -/

open identity.service ReadCommitted
namespace identity.postgres
open List RowWrite Option LockTable
open Event (mem_of_mem_cons)
open TenantMembership (isActiveOwner)

lemma Counted.cons (hcounted : Counted i own userID) (event : Event Statement.Response) :
    Counted i (event :: own) userID := by
  obtain ⟨others, hothers, hmem⟩ := hcounted
  exact ⟨others, hothers, .tail _ hmem⟩

lemma Draft.cons (hdraft : Draft task i own key old value)
    (event : Event Statement.Response) : Draft task i (event :: own) key old value := by
  cases task with
  | remove userID =>
    obtain ⟨hkey, hvalue, m, hold, hcounted⟩ := hdraft
    exact ⟨hkey, hvalue, m, hold, fun howner => (hcounted howner).cons event⟩
  | suspend userID =>
    obtain ⟨hkey, m, hold, hactive, hcounted⟩ := hdraft
    exact ⟨hkey, m, hold, hactive, fun howner => (hcounted howner).cons event⟩
  | restore userID by' =>
    obtain ⟨hkey, hold, m, hmem⟩ := hdraft
    exact ⟨hkey, hold, m, .tail _ hmem⟩
  | transfer fromID toID =>
    obtain ⟨hold, new, hvalue, hcases⟩ := hdraft
    refine ⟨hold, new, hvalue, hcases.imp_right fun hfrom => ?_⟩
    grind
  | grant | ensure => exact hdraft
  | join userID => exact ⟨hdraft.1, hdraft.2.1, .tail _ hdraft.2.2⟩

/-- The statements that say something about the locks and the writes. -/
def Statement.tells : Statement → Bool
  | lockMembership _ _ => true
  | lockRow _ _ => true
  | writeRow _ _ _ => true
  | recordRemoval _ _ => true
  | isRemoved _ _ => true
  | _ => false

section
variable (hinv : CallInv task i db own)
include hinv

/-- A statement that writes no row, with what it says of the store it has left. -/
lemma CallInv.cons (hreads : ∀ userID write, statement ≠ .writeRow i userID write)
    (hnamed : ∀ userID, statement = .lockMembership i userID → db.advisory.lookup userID = some i)
    (hlocked : ∀ row m, (⟨i, statement, resp⟩ : Event Statement.Response) = ⟨i, .lockRow i row, some m⟩ →
      db.members.locks.lookup row.userID = some i ∧ db.members.committed.lookup row.userID = some m)
    (hrecorded : ∀ userID, task = .remove userID → statement = .recordRemoval i userID →
      ∃ time, (db.removals.writes i).lookup userID = some (some time))
    (hnot : ∀ userID, (⟨i, statement, resp⟩ : Event Statement.Response) = ⟨i, .isRemoved i userID, false⟩ →
      LockedByName i own userID ∧ db.removals.committed.lookup userID = none) :
    CallInv task i db (⟨i, statement, resp⟩ :: own) := by
  refine {
    named := fun userID hmem => ?_
    locked := fun row m hmem => (mem_cons.mp hmem).elim (fun heq => hlocked row m heq.symm) (hinv.locked row m)
    drafts := fun key value hwrite => (hinv.drafts key value hwrite).cons _
    keyed := hinv.keyed
    owned := fun key value hwrite userID hsubject => .tail _ (hinv.owned key value hwrite userID hsubject)
    promoted := fun fromID toID m htask hmem => hinv.promoted fromID toID m htask
      (mem_of_mem_cons (hreads _ _).symm hmem)
    deleted := fun userID m hmem => hinv.deleted userID m (mem_of_mem_cons (hreads _ _).symm hmem)
    recorded := fun userID htask hmem => ?_
    removals := fun key value hwrite => (hinv.removals key value hwrite).imp_left (.tail _)
    notRemoved := fun userID hmem => (mem_cons.mp hmem).elim (fun heq => (hnot userID heq.symm).imp_left (.tail _))
      fun hold => (hinv.notRemoved userID hold).imp_left (.tail _)
    unwritten := fun hunwritten => hinv.unwritten fun event hmem => hunwritten event (.tail _ hmem) }
  · rcases mem_cons.mp hmem with heq | hold
    · exact hnamed userID (congrArg Event.req heq).symm
    · exact hinv.named userID hold
  · rcases mem_cons.mp hmem with heq | hold
    · exact hrecorded userID htask (congrArg Event.req heq).symm
    · exact hinv.recorded userID htask hold

/-- A statement that says nothing of locks and removals. -/
lemma CallInv.quiet (hquiet : statement.tells = false) : CallInv task i db (⟨i, statement, resp⟩ :: own) := by
  cases statement with
  | lockMembership | lockRow | writeRow | recordRemoval | isRemoved => cases hquiet
  | _ => exact hinv.cons (by simp) (by simp) (by simp) (by simp) (by simp)

/-- What a member holds is what is committed, under the transaction's lock. -/
lemma CallInv.held
    (hkeyed : ∀ userID m, db.members.committed.lookup userID = some m → m.userID = userID) (hheld :
      Held i own userID m) :
    db.members.locks.lookup userID = some i ∧ db.members.committed.lookup userID = some m := by
  obtain ⟨rfl, row, hrow⟩ := hheld
  obtain ⟨hlock, hcommitted⟩ := hinv.locked row m hrow
  rw [hkeyed _ _ hcommitted]
  exact ⟨hlock, hcommitted⟩

lemma CallInv.lock (key : String) : CallInv task i { db with members := db.members.lock i key } own :=
  { hinv with
    locked := fun row m hlocked => by
      obtain ⟨hlock, hrow⟩ := hinv.locked row m hlocked
      refine ⟨(lookup_take _).trans ?_, hrow⟩
      split
      · rfl
      · exact hlock }

lemma CallInv.lockMembership (userID : String) :
    CallInv task i { db with advisory := db.advisory.take i userID } (⟨i, .lockMembership i userID, ()⟩ :: own) := by
  have htaken : ∀ other, (db.advisory.take i userID).lookup other =
      if other = userID then some i else db.advisory.lookup other := lookup_take
  have hkept : CallInv task i { db with advisory := db.advisory.take i userID } own :=
    { hinv with named := fun other hnamed => by grind }
  exact hkept.cons (by simp) (fun other heq => by grind) (by simp) (by simp) (by simp)

/-- The row under the lock is as it is committed: nothing has been written yet. -/
lemma CallInv.lockRow (hunwritten : Unwritten own) (row : TenantMembership) :
    CallInv task i (db.lockRow i row).2 (⟨i, .lockRow i row, (db.lockRow i row).1⟩ :: own) := by
  have hread : db.members.read i row.userID = db.members.committed.lookup row.userID :=
    Store.read_eq_committed (by rw [hinv.unwritten hunwritten]; rfl)
  rcases db.lockRow_cases i row with heq | ⟨m, hm, heq⟩
  · rw [heq]
    exact hinv.cons (by simp) (by simp) (by simp) (by simp) (by simp)
  · rw [heq]
    refine (hinv.lock row.userID).cons (by simp) (by simp) (fun other found hfound => ?_) (by simp) (by simp)
    cases hfound
    exact ⟨(lookup_take _).trans (if_pos rfl), hread.symm.trans hm⟩

/-- A row is written under its lock. -/
lemma CallInv.write (hwrites : statement.writes = true) (nextID : Nat)
    (hdraft : Draft task i (⟨i, statement, resp⟩ :: own) key (db.members.committed.lookup key) value)
    (hkeyed : ∀ m, value = some m → m.userID = key)
    (howned : ∀ userID, task.subject = some userID → LockedByName i own userID)
    (hpromoted : ∀ fromID toID m, task = .transfer fromID toID →
      ⟨i, .writeRow i toID .makeOwner, m⟩ ∈ (⟨i, statement, resp⟩ :: own : DbTrace) →
      toID = key ∧ (∃ new, value = some new ∧ new.isActiveOwner = true) ∨ toID ≠ key ∧
        ⟨i, .writeRow i toID .makeOwner, m⟩ ∈ own)
    (hdeleted : ∀ userID m, ⟨i, .writeRow i userID .delete, m⟩ ∈ (⟨i, statement, resp⟩ :: own : DbTrace) →
      userID = key ∧ value = none ∨ userID ≠ key ∧ ⟨i, .writeRow i userID .delete, m⟩ ∈ own) :
    CallInv task i { db with members := db.members.write i key value, nextID := nextID }
      (⟨i, statement, resp⟩ :: own) := by
  have hne : ∀ {told : Statement}, told.writes = false → told ≠ statement := by
    rintro told htold rfl
    rw [hwrites] at htold
    cases htold
  have hwritten : ∀ query, ((db.members.write i key value).writes i).lookup query =
      if query = key then some value else (db.members.writes i).lookup query := fun query => by
    rw [Store.writes_write]
    simp
  refine {
    named := fun userID hnamed => hinv.named userID (mem_of_mem_cons (hne rfl) hnamed)
    locked := fun row m hlocked => ?_
    drafts := fun query other hwrite => ?_
    keyed := fun query m hwrite => ?_
    owned := fun _ _ _ userID hsubject => .tail _ (howned userID hsubject)
    promoted := fun fromID toID m htask hevent => ?_
    deleted := fun userID m hevent => ?_
    recorded := fun userID htask hevent => hinv.recorded userID htask (mem_of_mem_cons (hne rfl) hevent)
    removals := fun query other hwrite => (hinv.removals query other hwrite).imp_left (.tail _)
    notRemoved := fun userID hevent => (hinv.notRemoved userID (mem_of_mem_cons (hne rfl) hevent)).imp_left (.tail _)
    unwritten := fun hunwritten => absurd (hunwritten _ (.head _)) (by rw [hwrites]; simp) }
  · obtain ⟨hlock, hrow⟩ := hinv.locked row m (mem_of_mem_cons (hne rfl) hlocked)
    refine ⟨(lookup_take _).trans ?_, hrow⟩
    split
    · rfl
    · exact hlock
  · rw [hwritten] at hwrite
    split at hwrite
    · rename_i hquery
      cases hwrite
      rw [hquery]
      exact hdraft
    · exact (hinv.drafts query other hwrite).cons _
  · grind
  · grind
  · grind

end

lemma Unwritten.not_mem (hunwritten : Unwritten own)
    (hwrites : statement.writes = true) : (⟨i, statement, resp⟩ : Event Statement.Response) ∉ own := by
  intro hmem
  rw [hunwritten _ hmem] at hwrites
  cases hwrites

/-- The first write of a transaction. -/
lemma CallInv.write_first (hinv : CallInv task i db own) (hunwritten : Unwritten own) {write : RowWrite}
    (hread : db.members.committed.lookup userID = some m)
    (hdraft : Draft task i (⟨i, .writeRow i userID write, write.apply tick m⟩ :: own) userID (some m)
      (write.apply tick m))
    (hkeyed : ∀ new, write.apply tick m = some new → new.userID = userID)
    (howned : ∀ userID, task.subject = some userID → LockedByName i own userID)
    (hpromoted : ∀ fromID toID, task = .transfer fromID toID → write = .makeOwner → m.status = .active) :
    CallInv task i (db.writeRow i tick userID write).2
      (⟨i, .writeRow i userID write, (db.writeRow i tick userID write).1⟩ :: own) := by
  have hseen : db.members.read i userID = some m := by
    rw [Store.read_eq_committed (by rw [hinv.unwritten hunwritten]; rfl), hread]
  simp only [TenantDb.writeRow, hseen]
  refine hinv.write rfl db.nextID (hread.symm ▸ hdraft) hkeyed howned ?_ ?_
  · intro fromID toID new htask hevent
    rcases mem_cons.mp hevent with heq | hold
    · injection heq with _ hsame _
      injection hsame with _ huser hwrite
      subst hwrite huser
      exact .inl ⟨rfl, _, rfl, by simp [isActiveOwner, hpromoted fromID _ htask rfl]⟩
    · exact absurd hold (hunwritten.not_mem rfl)
  intro other new hevent
  rcases mem_cons.mp hevent with heq | hold
  · injection heq with _ hsame _
    injection hsame with _ huser hwrite
    subst hwrite huser
    exact .inl ⟨rfl, rfl⟩
  · exact absurd hold (hunwritten.not_mem rfl)

lemma apply_userID {write : RowWrite} (happly : write.apply tick m = some new) :
    new.userID = m.userID := by
  cases write with
  | delete => cases happly
  | _ =>
    cases happly
    rfl

section
variable (hinv : CallInv task i db own)
include hinv
section
variable (hrows : ∀ userID m, db.members.committed.lookup userID = some m → m.userID = userID)
include hrows

lemma CallInv.writeRow {write : RowWrite} (hallowed : WriteAllowed i own userID task write)
    (howned : ∀ userID, task.subject = some userID → LockedByName i own userID) :
    CallInv task i (db.writeRow i tick userID write).2
      (⟨i, .writeRow i userID write, (db.writeRow i tick userID write).1⟩ :: own) := by
  unfold WriteAllowed at hallowed
  split at hallowed
  · obtain ⟨rfl, hunwritten, m, hheld, hmay⟩ := hallowed
    obtain ⟨-, hrow⟩ := hinv.held hrows hheld
    exact hinv.write_first hunwritten hrow ⟨rfl, rfl, m, rfl, fun howner => (hmay howner).cons _⟩ (by simp [apply])
      howned (by simp)
  · obtain ⟨rfl, hunwritten, m, ⟨hheld, hmay⟩, hactive⟩ := hallowed
    obtain ⟨-, hrow⟩ := hinv.held hrows hheld
    exact hinv.write_first hunwritten hrow ⟨rfl, m, rfl, hactive, fun howner => (hmay howner).cons _⟩
      (fun new hnew => (apply_userID hnew).trans hheld.1) howned (by simp)
  · obtain ⟨rfl, hunwritten, ⟨m, hheld, hsuspended⟩, -⟩ := hallowed
    obtain ⟨-, hrow⟩ := hinv.held hrows hheld
    exact hinv.write_first hunwritten hrow ⟨rfl, ⟨m, rfl, hsuspended⟩, _, .head _⟩
      (fun new hnew => (apply_userID hnew).trans hheld.1) howned (by simp)
  · obtain ⟨rfl, hunwritten, m, hheld, hactive⟩ := hallowed
    obtain ⟨-, hrow⟩ := hinv.held hrows hheld
    refine hinv.write_first hunwritten hrow ⟨⟨m, rfl, hactive⟩, _, rfl, .inl ⟨rfl, ?_⟩⟩
      (fun new hnew => (apply_userID hnew).trans hheld.1) howned fun _ _ _ _ => hactive
    simp [isActiveOwner, hactive]
  · rename_i fromID toID
    obtain ⟨rfl, hne, ⟨m, hheld, howner⟩, promotion, hpromotion⟩ := hallowed
    obtain ⟨-, hrow⟩ := hinv.held hrows hheld
    have hactive : m.status = .active := by
      rw [isActiveOwner, Bool.and_eq_true] at howner
      exact beq_iff_eq.mp howner.2
    -- the row may be the transaction's own write, which a transfer never leaves out
    obtain ⟨seen, hseen, huser⟩ : ∃ seen, db.members.read i userID = some seen ∧ seen.userID = userID := by
      rw [Store.read, Store.lookup_visible]
      cases hwrite : (db.members.writes i).lookup userID with
      | none => exact ⟨m, hrow, hheld.1⟩
      | some value =>
        obtain ⟨-, new, hnew, -⟩ := hinv.drafts userID value hwrite
        grind
    simp only [TenantDb.writeRow, hseen]
    refine hinv.write rfl db.nextID ?_ (fun new hnew => (apply_userID hnew).trans huser) howned ?_ ?_
    · refine ⟨⟨m, hrow, hactive⟩, _, rfl, .inr ⟨rfl, rfl, promotion, .tail _ hpromotion⟩⟩
    · grind
    intro other new hevent
    have hdeleted := hinv.deleted other new (mem_of_mem_cons (by simp) hevent)
    obtain ⟨-, kept, hkept, -⟩ := hinv.drafts other none hdeleted
    cases hkept
  · exact hallowed.elim

/-- The grant of a task that may write the membership of the user. -/
lemma CallInv.grant (hunwritten : Unwritten own) (hnamed : LockedByName i own userID)
    (htask : task = .grant userID source role ∨ task = .join userID ∧ ⟨i, .isRemoved i userID, false⟩ ∈ own) :
    CallInv task i (db.grant i userID source role).2
      (⟨i, .grant i userID source role, (db.grant i userID source role).1⟩ :: own) := by
  have hread : db.members.read i userID = db.members.committed.lookup userID :=
    Store.read_eq_committed (by rw [hinv.unwritten hunwritten]; rfl)
  have howned : ∀ other, task.subject = some other → LockedByName i own other := by
    rintro other hsubject
    rcases htask with rfl | ⟨rfl, -⟩
    all_goals
      cases hsubject
      exact hnamed
  have hwrite : ∀ {value : TenantMembership} (nextID : Nat) {resp : Option TenantMembership}, value.userID = userID →
      GrantDraft (db.members.committed.lookup userID) (some value) →
      CallInv task i { db with members := db.members.write i userID (some value), nextID := nextID }
        (⟨i, .grant i userID source role, resp⟩ :: own) := by
    intro value nextID resp huser hdraft
    refine hinv.write rfl nextID ?_ (fun new hnew => by cases hnew; exact huser) howned ?_ ?_
    · rcases htask with rfl | ⟨rfl, hremoved⟩
      · exact ⟨rfl, hdraft⟩
      · exact ⟨rfl, hdraft, .tail _ hremoved⟩
    · rintro fromID toID new rfl -
      simp at htask
    · intro other new hevent
      exact absurd (mem_of_mem_cons (by simp) hevent) (hunwritten.not_mem rfl)
  unfold TenantDb.grant
  split
  · grind
  rename_i m hm
  rw [hread] at hm
  split
  · exact (hinv.quiet rfl).lock userID
  rename_i hskips
  refine hwrite db.nextID (hrows userID m hm) ⟨_, rfl, fun other hother => ?_⟩
  rw [hm] at hother
  cases hother
  simp only [TenantMembership.grantSkips, Bool.or_eq_true, beq_iff_eq, not_or] at hskips
  refine ⟨hskips.1, fun howner => ?_⟩
  simp only [isActiveOwner, Bool.and_eq_true, beq_iff_eq] at howner
  have hholds : m.holdsRole role = true := by
    simp only [TenantMembership.holdsRole, howner.1, howner.2]
    cases role with
    | member | admin | owner => rfl
  simp [TenantMembership.granted, isActiveOwner, hholds, howner.1]

end

section
variable (hnamed : LockedByName i own userID)
include hnamed

lemma CallInv.setRemoval
    (htask : task = .remove userID ∧ value ≠ none ∨ ∃ source role, task = .grant userID source role) :
    CallInv task i { db with removals := db.removals.write i userID value } own := by
  have hwritten : ∀ query, ((db.removals.write i userID value).writes i).lookup query =
      if query = userID then some value else (db.removals.writes i).lookup query := fun query => by
    rw [Store.writes_write]
    simp
  refine { hinv with
    recorded := fun other hremove hevent => ?_
    removals := fun key written hwrite => ?_ }
  · rw [hwritten]
    split
    · rcases htask with ⟨-, hvalue⟩ | ⟨source, role, rfl⟩
      · obtain ⟨time, htime⟩ := ne_none_iff_exists'.mp hvalue
        exact ⟨time, by rw [htime]⟩
      · cases hremove
    · exact hinv.recorded other hremove hevent
  · grind

lemma CallInv.recordRemoval (htask : task = .remove userID) :
    CallInv task i { db with removals := db.removals.write i userID (some time) }
      (⟨i, .recordRemoval i userID, ()⟩ :: own) := by
  have hset := hinv.setRemoval hnamed (.inl ⟨htask, some_ne_none time⟩)
  refine hset.cons (by simp) (by simp) (by simp) (fun other _ heq => ?_) (by simp)
  cases heq
  exact ⟨time, by rw [Store.writes_write]; simp⟩

lemma CallInv.isRemoved (htask : task = .join userID) :
    CallInv task i db (⟨i, .isRemoved i userID, (db.removals.read i userID).isSome⟩ :: own) := by
  refine hinv.cons (by simp) (by simp) (by simp) (by simp) fun other heq => ?_
  injection heq with _ hsame hresp
  injection hsame with _ huser
  subst huser
  -- a join writes no removal of its own
  have hnone : (db.removals.writes i).lookup userID = none := by
    cases hwrite : (db.removals.writes i).lookup userID with
    | none => rfl
    | some value => grind
  rw [← Store.read_eq_committed hnone]
  exact ⟨hnamed, isSome_eq_false_iff.mp hresp |> isNone_iff_eq_none.mp⟩

end

/-- A step of the transaction itself, before it ends. -/
lemma CallInv.step (hsound : db.members.Sound)
    (hrows : ∀ userID m, db.members.committed.lookup userID = some m → m.userID = userID)
    (hready : statement.ready db = true) (hasks : Asks task i own statement) (hgoes : statement.ends = false) :
    CallInv task i (handle statement tick db).2 (⟨i, statement, (handle statement tick db).1⟩ :: own) := by
  cases statement with
  | lockMembership tx userID =>
    obtain ⟨rfl, -⟩ := hasks
    exact hinv.lockMembership userID
  | lockRow tx row =>
    obtain ⟨rfl, hunwritten, -⟩ := hasks
    exact hinv.lockRow hunwritten row
  | writeRow tx userID write =>
    obtain ⟨rfl, hallowed, howned⟩ := hasks
    exact hinv.writeRow hrows hallowed howned
  | grant tx userID source role =>
    obtain ⟨rfl, hunwritten, hnamed, htask⟩ := hasks
    exact hinv.grant hrows hunwritten hnamed htask
  | recordRemoval tx userID =>
    obtain ⟨rfl, htask, hnamed⟩ := hasks
    exact hinv.recordRemoval hnamed htask
  | clearRemoval tx userID =>
    obtain ⟨rfl, htask, hnamed⟩ := hasks
    exact (hinv.setRemoval hnamed (.inr htask)).quiet rfl
  | isRemoved tx userID =>
    obtain ⟨rfl, htask, hnamed⟩ := hasks
    exact hinv.isRemoved hnamed htask
  | upsertDerived userID =>
    exact (hinv.spared hsound (Spares.upsertDerived (isNone_iff_eq_none.mp hready))).quiet rfl
  | selectOwnersAnd | countOtherOwners =>
    exact hinv.quiet rfl
  | readMembership tx userID =>
    exact hinv.quiet rfl
  | doorOpen tx => exact hinv.quiet rfl
  | commit | rollback => cases hgoes

end

/-! What holds along every run of the calls on one tenant. -/

/-- The memberships of a tenant, each stored under its user. -/
structure MemberTable where
  rows : GoMap String TenantMembership
  keyed : ∀ userID m, rows.lookup userID = some m → m.userID = userID

@[grind]
structure TablesInv (tasks : List MembershipTask) (db : TenantDb) (trace : DbTrace) : Prop where
  sound : db.members.Sound
  keyed : ∀ userID m, db.members.committed.lookup userID = some m → m.userID = userID
  calls : ∀ i task, tasks[i]? = some task → Open (Pool.own trace i) → CallInv task i db (Pool.own trace i)

section Steps
variable {db : TenantDb}

lemma Touches.sound (htouches : Touches db i key db') (hsound : db.members.Sound)
    (hfree : db.members.free i key = true) : db'.members.Sound := by
  cases htouches with
  | same => exact hsound
  | lock => exact hsound.lock hfree
  | write value => exact hsound.write hfree value

lemma Touches.committed (htouches : Touches db i key db') :
    db'.members.committed = db.members.committed ∧ db'.removals.committed = db.removals.committed := by
  cases htouches
  all_goals exact ⟨rfl, rfl⟩

lemma sound_step (hsound : db.members.Sound) (hready : statement.ready db = true) :
    (handle statement tick db).2.members.Sound := by
  cases statement with
  | lockRow tx row =>
    exact (touches_lockRow db tx row).sound hsound hready
  | writeRow tx userID write => exact (touches_writeRow db tx tick userID write).sound hsound hready
  | grant tx userID source role => exact (touches_grant db tx userID source role).sound hsound hready
  | upsertDerived userID =>
    show (db.upsertDerived userID).members.Sound
    unfold TenantDb.upsertDerived
    split
    · exact ⟨hsound.locked⟩
    · exact hsound
  | commit tx => exact hsound.commit
  | rollback tx => exact hsound.rollback
  | _ => exact hsound

/-- The statements that change what is committed. -/
def Statement.publishes : Statement → Bool
  | upsertDerived _ => true
  | commit _ => true
  | _ => false

lemma committed_step (hkeeps : statement.publishes = false) :
    (handle statement tick db).2.members.committed = db.members.committed ∧
      (handle statement tick db).2.removals.committed = db.removals.committed := by
  cases statement with
  | lockRow tx row => exact (touches_lockRow db tx row).committed
  | writeRow tx userID write => exact (touches_writeRow db tx tick userID write).committed
  | grant tx userID source role => exact (touches_grant db tx userID source role).committed
  | upsertDerived | commit => cases hkeeps
  | _ => exact ⟨rfl, rfl⟩

/-- A signup adds a plain member, unless the user is one or has been removed. -/
lemma lookup_upsertDerived (db : TenantDb) (userID query : String) :
    (db.upsertDerived userID).members.committed.lookup query = db.members.committed.lookup query ∨
      query = userID ∧ db.members.committed.lookup query = none ∧ db.removals.committed.lookup query = none ∧
        (db.upsertDerived userID).members.committed.lookup query =
          some ⟨db.nextID, userID, .domain, .member, .active⟩ := by
  unfold TenantDb.upsertDerived
  split
  · rename_i hremoved hnone
    have hlookup : ∀ row, (db.members.put userID row).committed.lookup query =
        if query = userID then some row else db.members.committed.lookup query := fun row => GoMap.lookup_insert_eq ..
    grind
  · exact .inl rfl

lemma removals_upsertDerived (userID : String) :
    (db.upsertDerived userID).removals.committed = db.removals.committed := by
  unfold TenantDb.upsertDerived
  split
  · rfl
  · rfl

lemma TablesInv.start (table : MemberTable) (removals : GoMap String Int) (nextID : Nat) :
    TablesInv tasks ⟨.idle table.rows, .idle removals, (∅ : GoMap String Nat), nextID⟩ [] where
  sound := Store.Sound.idle table.rows
  keyed := table.keyed
  calls i task _ _ :=
    { named := fun _ hnamed => nomatch hnamed
      locked := fun _ _ hlocked => nomatch hlocked
      drafts := fun _ _ hwrite => absurd hwrite (by simp [Store.idle])
      keyed := fun _ _ hwrite => absurd hwrite (by simp [Store.idle])
      owned := fun _ _ hwrite => absurd hwrite (by simp [Store.idle])
      promoted := fun _ _ _ _ hevent => nomatch hevent
      deleted := fun _ _ hevent => nomatch hevent
      recorded := fun _ _ hevent => nomatch hevent
      removals := fun _ _ hwrite => absurd hwrite (by simp [Store.idle])
      notRemoved := fun _ hevent => nomatch hevent
      unwritten := fun _ => rfl }

/-- The call of a task is open and asks for what it may. -/
@[grind =]
def Turn (tasks : List MembershipTask) (trace : DbTrace) (k : Nat) (task : MembershipTask)
    (statement : Statement) : Prop := tasks[k]? = some task ∧ Proceeds task k (Pool.own trace k) statement

section
variable (hinv : TablesInv tasks db trace)
include hinv
section
variable (hturn : Turn tasks trace i task statement)
include hturn

/-- The transaction that takes the step. -/
lemma TablesInv.call : CallInv task i db (Pool.own trace i) := hinv.calls i task hturn.1 hturn.2.1

/-- What a commit leaves of a user's membership. -/
lemma TablesInv.lookup_commit (query : String) :
    (db.commit i).members.committed.lookup query = db.members.committed.lookup query ∨
      ∃ value, (db.members.writes i).lookup query = some value ∧ (db.commit i).members.committed.lookup query = value ∧
        Draft task i (Pool.own trace i) query (db.members.committed.lookup query) value := by
  have hcommit : (db.commit i).members.committed.lookup query =
      ((db.members.writes i).lookup query).getD (db.members.committed.lookup query) := Store.lookup_commit
  cases hwrite : (db.members.writes i).lookup query with
  | none =>
    rw [hwrite] at hcommit
    exact .inl hcommit
  | some value => grind

lemma TablesInv.step (hready : statement.ready db = true) :
    TablesInv tasks (handle statement tick db).2 (⟨i, statement, (handle statement tick db).1⟩ :: trace) := by
  have hcall := hinv.call hturn
  refine ⟨sound_step hinv.sound hready, fun userID m hm => ?_, fun j other hother hopen => ?_⟩
  · by_cases hpublishes : statement.publishes = true
    · cases statement with
      | upsertDerived added =>
        rcases lookup_upsertDerived db added userID with hsame | ⟨rfl, -, -, hnew⟩
        · exact hinv.keyed userID m (hsame.symm.trans hm)
        · cases hnew.symm.trans hm
          rfl
      | commit tx =>
        obtain rfl := hturn.2.2.1
        rcases hinv.lookup_commit hturn userID with hsame | ⟨value, hwrite, hvalue, -⟩
        · exact hinv.keyed userID m (hsame.symm.trans hm)
        · obtain rfl : value = some m := hvalue.symm.trans hm
          exact hcall.keyed userID m hwrite
      | _ => cases hpublishes
    · rw [(committed_step (Bool.eq_false_of_not_eq_true hpublishes)).1] at hm
      exact hinv.keyed userID m hm
  by_cases hsame : i = j
  · grind [hcall.step, mem_cons_self]
  rw [Pool.own_cons_ne hsame] at hopen ⊢
  refine (hinv.calls j other hother hopen).spared hinv.sound
    (spares_step (Ne.symm hsame) hready hturn.2.2 hinv.sound fun key value hwrite => ?_)
  exact hcall.named key (hcall.removals key value hwrite).1

end
end
end Steps
end identity.postgres
