import Identity.Governance.Guard

/-! What an open transaction holds and what it has written. -/

open identity.service ReadCommitted
namespace identity.postgres
open LockTable Function

/-- A grant keeps a suspended membership as it is and an owner an owner. -/
@[grind =]
def GrantDraft (old value : Option TenantMembership) : Prop :=
  ∃ new, value = some new ∧ ∀ m, old = some m → m.status ≠ .suspended ∧
    (m.isActiveOwner = true → new.isActiveOwner = true)

/-- The write of a row by a task, where `old` is what is committed. -/
def Draft (task : MembershipTask) (i : Nat) (own : DbTrace) (key : String)
    (old value : Option TenantMembership) : Prop :=
  match task with
  | .remove userID => key = userID ∧ value = none ∧
      ∃ m, old = some m ∧ (m.isActiveOwner = true → Counted i own userID)
  | .suspend userID => key = userID ∧
      ∃ m, old = some m ∧ m.status = .active ∧ (m.isActiveOwner = true → Counted i own userID)
  | .restore userID _ => key = userID ∧ (∃ m, old = some m ∧ m.status = .suspended) ∧
      ∃ m, ⟨i, .writeRow i userID .restore, m⟩ ∈ own
  | .transfer fromID toID => (∃ m, old = some m ∧ m.status = .active) ∧
      ∃ new, value = some new ∧ (key = toID ∧ new.isActiveOwner = true ∨
        key = fromID ∧ new.isActiveOwner = false ∧ ∃ m, ⟨i, .writeRow i toID .makeOwner, m⟩ ∈ own)
  | .grant userID _ _ => key = userID ∧ GrantDraft old value
  | .join userID => key = userID ∧ GrantDraft old value ∧ ⟨i, .isRemoved i userID, false⟩ ∈ own
  | .ensure _ => False

/-- What is true of an open transaction. -/
@[grind]
structure CallInv (task : MembershipTask) (i : Nat) (db : TenantDb) (own : DbTrace) : Prop where
  named : ∀ userID, LockedByName i own userID → db.advisory.lookup userID = some i
  locked : ∀ row m, Locked i own row (some m) →
    db.members.locks.lookup row.userID = some i ∧ db.members.committed.lookup row.userID = some m
  drafts : ∀ key value, (db.members.writes i).lookup key = some value →
    Draft task i own key (db.members.committed.lookup key) value
  keyed : ∀ key m, (db.members.writes i).lookup key = some (some m) → m.userID = key
  owned : ∀ key value, (db.members.writes i).lookup key = some value →
    ∀ userID, task.subject = some userID → LockedByName i own userID
  promoted : ∀ fromID toID m, task = .transfer fromID toID → ⟨i, .writeRow i toID .makeOwner, m⟩ ∈ own →
    ∃ new, (db.members.writes i).lookup toID = some (some new) ∧ new.isActiveOwner = true
  deleted : ∀ userID m, ⟨i, .writeRow i userID .delete, m⟩ ∈ own → (db.members.writes i).lookup userID = some none
  recorded : ∀ userID, task = .remove userID → ⟨i, .recordRemoval i userID, ()⟩ ∈ own →
    ∃ time, (db.removals.writes i).lookup userID = some (some time)
  removals : ∀ key value, (db.removals.writes i).lookup key = some value → LockedByName i own key ∧
    (task = .remove key ∧ value ≠ none ∨ ∃ source role, task = .grant key source role)
  notRemoved : ∀ userID, ⟨i, .isRemoved i userID, false⟩ ∈ own →
    LockedByName i own userID ∧ db.removals.committed.lookup userID = none
  unwritten : Unwritten own → db.members.writes i = ∅

/-- A step of another transaction leaves what this one has locked. -/
@[grind]
structure Spares (i : Nat) (db db' : TenantDb) : Prop where
  advisory : ∀ userID, db.advisory.lookup userID = some i → db'.advisory.lookup userID = some i
  locks : ∀ key, db.members.locks.lookup key = some i →
    db'.members.locks.lookup key = some i ∧ db'.members.committed.lookup key = db.members.committed.lookup key
  writes : db'.members.writes i = db.members.writes i
  removals : db'.removals.writes i = db.removals.writes i
  removed : ∀ userID, db.advisory.lookup userID = some i →
    db'.removals.committed.lookup userID = db.removals.committed.lookup userID

/-- What a statement may do to the memberships: nothing, lock the row, or write it under its lock. -/
inductive Touches (db : TenantDb) (tx : Nat) (key : String) : TenantDb → Prop
  | same : Touches db tx key db
  | lock : Touches db tx key { db with members := db.members.lock tx key }
  | write (value : Option TenantMembership) (nextID : Nat) :
      Touches db tx key { db with members := db.members.write tx key value, nextID := nextID }

section Touches
variable (db : TenantDb) (tx : Nat)
variable (row : TenantMembership)

lemma TenantDb.lockRow_cases : db.lockRow tx row = (none, db) ∨ ∃ m, db.members.read tx row.userID = some m ∧
      db.lockRow tx row = (some m, { db with members := db.members.lock tx row.userID }) := by
  unfold lockRow
  cases db.members.read tx row.userID with
  | none => exact .inl rfl
  | some m => by_cases hid : m.id = row.id <;> simp [hid]

lemma touches_lockRow : Touches db tx row.userID (db.lockRow tx row).2 := by
  rcases db.lockRow_cases tx row with heq | ⟨m, -, heq⟩
  · exact heq ▸ .same
  · exact heq ▸ .lock

lemma touches_writeRow (tick : Tick) (userID : String) (write : RowWrite) :
    Touches db tx userID (db.writeRow tx tick userID write).2 := by
  unfold TenantDb.writeRow
  cases db.members.read tx userID with
  | none => exact .same
  | some m => exact .write _ _

lemma touches_grant (userID : String) (source : MembershipSource) (role : Role) :
    Touches db tx userID (db.grant tx userID source role).2 := by
  unfold TenantDb.grant
  cases db.members.read tx userID with
  | none => exact .write _ _
  | some m =>
    dsimp only
    split
    · exact .lock
    · exact .write _ _

end Touches

lemma CallInv.spared (hinv : CallInv task i db own) (hsound : db.members.Sound) (hspares : Spares i db db') :
    CallInv task i db' own where
  named userID hnamed := hspares.advisory userID (hinv.named userID hnamed)
  locked row m hlocked := by grind
  drafts key value hwrite := by grind
  keyed key m hwrite := hinv.keyed key m (hspares.writes ▸ hwrite)
  owned key value hwrite := hinv.owned key value (hspares.writes ▸ hwrite)
  promoted fromID toID m htask hevent := hspares.writes.symm ▸ hinv.promoted fromID toID m htask hevent
  deleted userID m hevent := hspares.writes.symm ▸ hinv.deleted userID m hevent
  recorded userID htask hevent := hspares.removals.symm ▸ hinv.recorded userID htask hevent
  removals key value hwrite := hinv.removals key value (hspares.removals ▸ hwrite)
  notRemoved userID hevent := by grind
  unwritten hunwritten := hspares.writes.trans (hinv.unwritten hunwritten)

lemma Spares.refl : Spares i db db := ⟨fun _ hheld => hheld, fun _ hheld => ⟨hheld, rfl⟩, rfl, rfl, fun _ _ => rfl⟩

/-- Locking a free row spares the others. -/
lemma Spares.lock (hne : i ≠ j) (hfree : db.members.free j key = true) :
    Spares i db { db with members := db.members.lock j key } :=
  { Spares.refl with locks := fun _ hheld => ⟨lookup_take_of_ne hfree hheld hne, rfl⟩ }

lemma Spares.write {value : Option TenantMembership} (nextID : Nat) (hne : i ≠ j)
    (hfree : db.members.free j key = true) :
    Spares i db { db with members := db.members.write j key value, nextID := nextID } :=
  { Spares.refl with
    locks := fun _ hheld => ⟨lookup_take_of_ne hfree hheld hne, rfl⟩
    writes := update_of_ne hne .. }

lemma Touches.spares (htouches : Touches db j key db') (hne : i ≠ j)
    (hfree : db.members.free j key = true) : Spares i db db' := by
  cases htouches with
  | same => exact Spares.refl
  | lock => exact Spares.lock hne hfree
  | write value nextID => exact Spares.write nextID hne hfree

lemma Spares.recordRemoval {key : String} {value : Option Int} (hne : i ≠ j) :
    Spares i db { db with removals := db.removals.write j key value } :=
  { Spares.refl with removals := update_of_ne hne .. }

lemma Spares.rollback (hne : i ≠ j) : Spares i db (db.rollback j) where
  advisory _ hheld := lookup_release.mpr ⟨hheld, hne⟩
  locks _ hheld := ⟨lookup_release.mpr ⟨hheld, hne⟩, rfl⟩
  writes := update_of_ne hne ..
  removals := update_of_ne hne ..
  removed _ _ := rfl

lemma Spares.commit (hne : i ≠ j) (hsound : db.members.Sound)
    (hremovals : ∀ key value, (db.removals.writes j).lookup key = some value → db.advisory.lookup key = some j) :
    Spares i db (db.commit j) where
  advisory := (Spares.rollback hne).advisory
  locks key hheld := by
    refine ⟨((rollback hne).locks key hheld).1, (ReadCommitted.Store.lookup_commit ..).trans ?_⟩
    rw [hsound.unwritten hheld hne, Option.getD_none]
  writes := (rollback hne).writes
  removals := (rollback hne).removals
  removed userID hheld := by
    refine Store.lookup_commit.trans ?_
    cases hwrite : (db.removals.writes j).lookup userID with
    | none => rfl
    | some value => exact absurd (Option.some.inj (hheld.symm.trans (hremovals userID value hwrite))) hne

lemma Spares.upsertDerived (hfree : db.members.locks.lookup userID = none) :
    Spares i db (db.upsertDerived userID) := by
  unfold TenantDb.upsertDerived
  split
  · refine { refl with locks := fun key hheld => ⟨hheld, ?_⟩ }
    have hkey : key ≠ userID := by
      rintro rfl
      rw [hfree] at hheld
      cases hheld
    exact (GoMap.lookup_insert_eq ..).trans (if_neg hkey)
  · exact refl

/-- A step that another transaction may take. -/
lemma spares_step (hne : i ≠ j)
    (hready : statement.ready db = true) (hasks : Asks other j own statement) (hsound : db.members.Sound)
    (hremovals : ∀ key value, (db.removals.writes j).lookup key = some value → db.advisory.lookup key = some j) :
    Spares i db (handle statement tick db).2 := by
  cases statement with
  | lockMembership tx userID =>
    obtain ⟨rfl, -⟩ := hasks
    exact { Spares.refl with advisory := fun _ hheld => lookup_take_of_ne hready hheld hne }
  | lockRow tx row =>
    obtain ⟨rfl, -⟩ := hasks
    exact (touches_lockRow db tx row).spares hne hready
  | writeRow tx userID write =>
    obtain ⟨rfl, -⟩ := hasks
    exact (touches_writeRow db tx tick userID write).spares hne hready
  | grant tx userID source role =>
    obtain ⟨rfl, -⟩ := hasks
    exact (touches_grant db tx userID source role).spares hne hready
  | recordRemoval | clearRemoval =>
    obtain ⟨rfl, -⟩ := hasks
    exact Spares.recordRemoval hne
  | upsertDerived userID => exact Spares.upsertDerived (Option.isNone_iff_eq_none.mp hready)
  | commit tx =>
    obtain ⟨rfl, -⟩ := hasks
    exact Spares.commit hne hsound hremovals
  | rollback tx =>
    obtain rfl := hasks
    exact Spares.rollback hne
  | _ => exact Spares.refl

end identity.postgres
