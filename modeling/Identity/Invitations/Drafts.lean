import Identity.Invitations.Create

/-! What an open create holds, has counted and has written. -/

open identity.service identity.postgres ReadCommitted
namespace identity.invitations
open LockTable
open Event (mem_of_mem_cons)
variable {cfg : InvitationConfig} {i j id tx : Nat} {db db' : InvitationDb} {own own' : DbTrace} {scope : Scope}
  {statement : Statement} {resp : statement.Response} {inv : TenantInvitation} {lock : CreateLock} {startMs : Int}
  {tenantID key : String} {tick : Tick}

/-- The invitation as the next one to its address leaves it. -/
def TenantInvitation.revoke (inv : TenantInvitation) : TenantInvitation := { inv with status := .revoked }

namespace InvitationDb
variable (db)

/-- How many committed invitations of the scope were created at or after the time. -/
def committedCount (scope : Scope) (startMs : Int) : Nat :=
  db.rows.committed.rows.countP fun inv => scope.covers inv && decide (startMs ≤ inv.createdAtMs)

variable {db}
section
variable (hunwritten : db.rows.writes tx = ∅)
include hunwritten

lemma visible_eq_committed : db.rows.visible tx = db.rows.committed := by
  rw [Store.visible, hunwritten]
  rfl

lemma count_eq_committedCount (scope : Scope) (startMs : Int) :
    db.count tx scope startMs = db.committedCount scope startMs := by
  rw [count, committedCount, visible_eq_committed hunwritten]

lemma mem_openIDs :
    id ∈ db.openIDs tx tenantID key ↔ ∃ inv, db.rows.committed.lookup id = some inv ∧
      isOpen tenantID key inv = true := by
  rw [openIDs, visible_eq_committed hunwritten, List.mem_map]
  constructor
  · rintro ⟨⟨found, inv⟩, hmem, rfl⟩
    obtain ⟨hentry, hopen⟩ := List.mem_filter.mp hmem
    exact ⟨inv, AList.mem_lookup_iff.mpr hentry, hopen⟩
  · rintro ⟨inv, hlookup, hopen⟩
    exact ⟨⟨id, inv⟩, List.mem_filter.mpr ⟨AList.mem_lookup_iff.mp hlookup, hopen⟩, rfl⟩

end

/-- One database differs from another in the writes of one transaction only. -/
@[grind]
structure SameBut (tx : Nat) (db db' : InvitationDb) : Prop where
  committed : db'.rows.committed = db.rows.committed
  advisory : db'.advisory = db.advisory
  nextID : db.nextID ≤ db'.nextID
  writes : ∀ other, other ≠ tx → db'.rows.writes other = db.rows.writes other

lemma SameBut.refl : SameBut tx db db := ⟨rfl, rfl, le_rfl, fun _ _ => rfl⟩

lemma SameBut.trans {db'' : InvitationDb} (hfirst : SameBut tx db db') (hsecond : SameBut tx db' db'') :
    SameBut tx db db'' :=
  ⟨hsecond.committed.trans hfirst.committed, hsecond.advisory.trans hfirst.advisory,
    Nat.le_trans hfirst.nextID hsecond.nextID,
    fun other hother => (hsecond.writes other hother).trans (hfirst.writes other hother)⟩

lemma sameBut_revoke (id : Nat) : SameBut tx db (db.revoke tx id) := by
  unfold revoke
  split
  · exact SameBut.refl
  · exact ⟨rfl, rfl, le_rfl, fun other hother => Function.update_of_ne hother ..⟩

lemma sameBut_foldl (ids : List Nat) : SameBut tx db (ids.foldl (fun db' id => db'.revoke tx id) db) := by
  induction ids generalizing db with
  | nil => exact SameBut.refl
  | cons id rest ih => exact (sameBut_revoke id).trans ih

lemma writes_foldl (ids : List Nat) (hread : ∀ id ∈ ids, (db.rows.read tx id).isSome = true) (query : Nat) :
    ((ids.foldl (fun db' id => db'.revoke tx id) db).rows.writes tx).lookup query =
      if query ∈ ids then (db.rows.read tx query).map fun inv => some inv.revoke
        else (db.rows.writes tx).lookup query := by
  induction ids generalizing db with
  | nil => rfl
  | cons id rest ih =>
    obtain ⟨inv, hinv⟩ := Option.isSome_iff_exists.mp (hread id (.head _))
    have hrevoke : db.revoke tx id = { db with rows := db.rows.write tx id (some inv.revoke) } := by
      rw [revoke, hinv]
      rfl
    have hseen : ∀ other, (db.revoke tx id).rows.read tx other = if other = id then some inv.revoke
      else db.rows.read tx other := by
      intro other
      rw [hrevoke]
      exact Store.read_write
    have hwritten : ((db.revoke tx id).rows.writes tx).lookup query =
        if query = id then some (some inv.revoke) else (db.rows.writes tx).lookup query := by
      rw [hrevoke, Store.writes_write]
      simp
    rw [List.foldl_cons, ih fun other hother => ?_, hseen, hwritten]
    · by_cases hquery : query = id
      · subst hquery
        rw [if_pos List.mem_cons_self, if_pos rfl, if_pos rfl, hinv]
        split
        · rfl
        · rfl
      · grind
    · grind

lemma writes_revokePending (hunwritten : db.rows.writes tx = ∅) (tenantID key : String) (id : Nat) :
    ((db.revokePending tx tenantID key).rows.writes tx).lookup id =
      if id ∈ db.openIDs tx tenantID key then (db.rows.committed.lookup id).map fun inv => some inv.revoke
        else none := by
  have hread : ∀ other, db.rows.read tx other = db.rows.committed.lookup other := fun other => by
    rw [Store.read, visible_eq_committed hunwritten]
  rw [revokePending, writes_foldl _ fun other hother => ?_, hread, hunwritten]
  · rfl
  · grind [mem_openIDs]

end InvitationDb

/-- The write of a row: a revocation under the tenant's lock, or the new invitation. -/
@[grind =]
def Draft (i : Nat) (db : InvitationDb) (own : DbTrace) (id : Nat)
    (value : Option TenantInvitation) : Prop :=
  (∃ inv, db.rows.committed.lookup id = some inv ∧ Under i own (.tenant inv.tenantID) ∧ value = some inv.revoke) ∨
    ∃ inv, value = some inv ∧ ⟨i, .insert i inv, id⟩ ∈ own

/-- What is true of an open create. -/
@[grind]
structure CallInv (cfg : InvitationConfig) (i : Nat) (db : InvitationDb) (own : DbTrace) : Prop where
  locked : ∀ lock, Under i own lock → db.advisory.lookup lock = some i
  counted : ∀ (scope : Scope) (startMs : Int) (made : Nat), ⟨i, .count i scope startMs, made⟩ ∈ own →
    Under i own scope.lock ∧ db.committedCount scope startMs ≤ made
  cooled : ∀ (scope : Scope) (startMs : Int), ⟨i, .sentSince i scope startMs, false⟩ ∈ own →
    Under i own scope.lock ∧ db.committedCount scope startMs = 0
  drafts : ∀ id value, (db.rows.writes i).lookup id = some value → Draft i db own id value
  revoked : ∀ tenantID key, ⟨i, .revokePending i tenantID key, ()⟩ ∈ own → Under i own (.tenant tenantID) ∧
    ∀ id inv, db.rows.committed.lookup id = some inv → InvitationDb.isOpen tenantID key inv = true →
      (db.rows.writes i).lookup id = some (some inv.revoke)
  inserted : ∀ inv id, ⟨i, .insert i inv, id⟩ ∈ own → inv.status = .pending ∧ Revoked i own inv ∧
    (∃ now, Cleared i own cfg now inv) ∧ id < db.nextID ∧ db.rows.committed.lookup id = none
  once : ∀ inv id inv' id', ⟨i, .insert i inv, id⟩ ∈ own → ⟨i, .insert i inv', id'⟩ ∈ own → inv = inv' ∧ id = id'
  unwritten : Unwritten own → db.rows.writes i = ∅

/-- A step of another create leaves what this one has locked. -/
@[grind]
structure Spares (i : Nat) (own : DbTrace) (db db' : InvitationDb) : Prop where
  advisory : ∀ lock, db.advisory.lookup lock = some i → db'.advisory.lookup lock = some i
  writes : db'.rows.writes i = db.rows.writes i
  nextID : db.nextID ≤ db'.nextID
  counts : ∀ (scope : Scope) startMs, db.advisory.lookup scope.lock = some i →
    db'.committedCount scope startMs ≤ db.committedCount scope startMs
  rows : ∀ id inv, db.advisory.lookup (.tenant inv.tenantID) = some i →
    (db'.rows.committed.lookup id = some inv ↔ db.rows.committed.lookup id = some inv)
  vacant : ∀ inv id, ⟨i, .insert i inv, id⟩ ∈ own → db.rows.committed.lookup id = none →
    db'.rows.committed.lookup id = none

lemma CallInv.spared (hinv : CallInv cfg i db own) (hspares : Spares i own db db') : CallInv cfg i db' own where
  locked lock hunder := hspares.advisory lock (hinv.locked lock hunder)
  counted scope startMs made hmem := by grind
  cooled scope startMs hmem := by grind
  drafts id value hwrite := by grind
  revoked tenantID key hmem := by
    obtain ⟨hunder, hrevoked⟩ := hinv.revoked tenantID key hmem
    refine ⟨hunder, fun id inv hlookup hopen => ?_⟩
    have htenant : inv.tenantID = tenantID := by
      simp only [InvitationDb.isOpen, Scope.covers, Bool.and_eq_true, beq_iff_eq] at hopen
      exact hopen.1.1
    grind
  inserted inv id hmem := by grind
  once := hinv.once
  unwritten hunwritten := hspares.writes.trans (hinv.unwritten hunwritten)

/-- A step that commits nothing and takes no lock spares the others. -/
lemma Spares.sameBut (hsame : InvitationDb.SameBut j db db') (hne : i ≠ j) : Spares i own db db' where
  advisory lock hheld := by
    rw [hsame.advisory]
    exact hheld
  writes := hsame.writes i hne
  nextID := hsame.nextID
  counts scope startMs _ := by
    rw [InvitationDb.committedCount, hsame.committed]
    exact le_rfl
  rows id inv _ := by rw [hsame.committed]
  vacant inv id _ hnone := by
    rw [hsame.committed]
    exact hnone

section
variable (hinv : CallInv cfg j db own')
include hinv

/-- What a commit leaves of a row. -/
lemma CallInv.lookup_commit (id : Nat) : (db.commit j).rows.committed.lookup id = db.rows.committed.lookup id ∨
      (∃ inv, db.rows.committed.lookup id = some inv ∧ Under j own' (.tenant inv.tenantID) ∧
        (db.commit j).rows.committed.lookup id = some inv.revoke) ∨
      ∃ inv, ⟨j, .insert j inv, id⟩ ∈ own' ∧ (db.commit j).rows.committed.lookup id = some inv := by
  have hcommit : (db.commit j).rows.committed.lookup id =
      ((db.rows.writes j).lookup id).getD (db.rows.committed.lookup id) := Store.lookup_commit
  cases hwrite : (db.rows.writes j).lookup id with
  | none =>
    rw [hwrite] at hcommit
    exact .inl hcommit
  | some value => grind

/-- A commit adds to a count of invitations the one it inserts, if that is among them. -/
lemma CallInv.countP_commit {p : TenantInvitation → Bool} (hstatus : ∀ inv, p inv.revoke = p inv) (extra : List Nat)
    (hextra : ∀ inv id, ⟨j, .insert j inv, id⟩ ∈ own' → p inv = true → id ∈ extra) :
    (db.commit j).rows.committed.rows.countP p ≤ db.rows.committed.rows.countP p + extra.length := by
  rw [List.countP_eq_length_filter, List.countP_eq_length_filter]
  refine GoMap.length_filter_rows_le extra fun id row hrow hp => ?_
  rcases hinv.lookup_commit id with hsame | ⟨inv, hlookup, -, hrevoked⟩ | ⟨inv, hmem, hinserted⟩
  · exact .inl ⟨row, hsame.symm.trans hrow, hp⟩
  · grind
  · cases hinserted.symm.trans hrow
    exact .inr (hextra _ id hmem hp)

/-- The lock of every scope that an inserted invitation falls under is the create's. -/
lemma CallInv.locked_of_covers (hmem : ⟨j, .insert j inv, id⟩ ∈ own') (hcovers : scope.covers inv = true) :
    db.advisory.lookup scope.lock = some j := by
  obtain ⟨-, -, ⟨now, hcleared⟩, -⟩ := hinv.inserted inv id hmem
  rcases covers_cases hcovers with rfl | rfl | rfl
  · exact hinv.locked _ hcleared.tenantLock
  · exact hinv.locked _ hcleared.inviterLock
  · exact hinv.locked _ hcleared.tenantLock

lemma Spares.commit (hne : i ≠ j)
    (hids : ∀ inv inv' id, ⟨i, .insert i inv, id⟩ ∈ own → ⟨j, .insert j inv', id⟩ ∉ own') :
    Spares i own db (db.commit j) where
  advisory lock hheld := lookup_release.mpr ⟨hheld, hne⟩
  writes := by
    show (db.rows.rollback j).writes i = _
    rw [Store.writes_rollback, if_neg hne]
  nextID := le_rfl
  counts scope startMs hheld := by
    refine hinv.countP_commit (fun inv => ?_) [] fun inv id hmem hp => ?_
    · cases scope with
      | tenant | inviter | recipient => rfl
    · exact absurd (Option.some.inj (hheld.symm.trans (hinv.locked_of_covers hmem (Bool.and_eq_true_iff.mp hp).1))) hne
  rows id inv hheld := by
    have hother : ∀ held : TenantInvitation, held.tenantID = inv.tenantID → Under j own' (.tenant held.tenantID) →
      False := by
      grind
    rcases hinv.lookup_commit id with hsame | ⟨old, hlookup, hunder, hrevoked⟩ | ⟨new, hmem, hinserted⟩
    · rw [hsame]
    · constructor
      · intro hnow
        cases hrevoked.symm.trans hnow
        exact (hother old rfl hunder).elim
      · grind
    · grind
  vacant inv id hmem hnone := by grind [hinv.lookup_commit]

end

lemma Spares.rollback (hne : i ≠ j) : Spares i own db (db.rollback j) where
  advisory lock hheld := lookup_release.mpr ⟨hheld, hne⟩
  writes := by
    show (db.rows.rollback j).writes i = _
    rw [Store.writes_rollback, if_neg hne]
  nextID := le_rfl
  counts _ _ _ := le_rfl
  rows _ _ _ := Iff.rfl
  vacant _ _ _ hnone := hnone

lemma Spares.lockXact (hne : i ≠ j) (hfree : db.advisory.free j lock = true) :
    Spares i own db { db with advisory := db.advisory.take j lock } where
  advisory _ hheld := lookup_take_of_ne hfree hheld hne
  writes := rfl
  nextID := le_rfl
  counts _ _ _ := le_rfl
  rows _ _ _ := Iff.rfl
  vacant _ _ _ hnone := hnone

/-- A step that another create may take. -/
lemma spares_step (hne : i ≠ j) (hready : statement.ready db = true)
    (hasks : Asks cfg j own' statement) (hinv : CallInv cfg j db own')
    (hids : ∀ inv inv' id, ⟨i, .insert i inv, id⟩ ∈ own → ⟨j, .insert j inv', id⟩ ∉ own') :
    Spares i own db (handle statement tick db).2 := by
  cases statement with
  | lockXact tx lock =>
    obtain rfl := hasks
    exact Spares.lockXact hne hready
  | revokePending tx tenantID key =>
    obtain ⟨rfl, -⟩ := hasks
    exact Spares.sameBut (InvitationDb.sameBut_foldl _) hne
  | insert tx inv =>
    obtain ⟨rfl, -⟩ := hasks
    exact Spares.sameBut (⟨rfl, rfl, Nat.le_succ _, fun _ hother => Function.update_of_ne hother ..⟩) hne
  | commit tx =>
    obtain rfl := hasks
    exact Spares.commit hinv hne hids
  | rollback tx =>
    obtain rfl := hasks
    exact Spares.rollback hne
  | _ => exact Spares.sameBut InvitationDb.SameBut.refl hne

lemma Cleared.cons {now : Int} (hcleared : Cleared i own cfg now inv)
    (event : Event Statement.Response) : Cleared i (event :: own) cfg now inv where
  tenantLock := .tail _ hcleared.tenantLock
  inviterLock := .tail _ hcleared.inviterLock
  read := .tail _ hcleared.read
  stamped := hcleared.stamped
  cooled hcool := .tail _ (hcleared.cooled hcool)
  counted scope hcovers := by grind

lemma Draft.cons {value : Option TenantInvitation} (hdraft : Draft i db own id value)
    (event : Event Statement.Response) : Draft i db (event :: own) id value := by
  rcases hdraft with ⟨inv, hlookup, hunder, hvalue⟩ | ⟨inv, hvalue, hmem⟩
  · exact .inl ⟨inv, hlookup, .tail _ hunder, hvalue⟩
  · exact .inr ⟨inv, hvalue, .tail _ hmem⟩

/-- The statements that say something about the locks, the counts and the writes. -/
def Statement.tells : Statement → Bool
  | requireTenantAdmin _ _ => false
  | now => false
  | randomToken => false
  | _ => true

section
variable (hinv : CallInv cfg i db own)
include hinv

/-- A statement that writes no row: what it tells of the locks and of the counts is left to show. -/
lemma CallInv.cons {advisory : LockTable CreateLock} (hreads : statement.writes = false)
    (hlocked : ∀ lock, Under i (⟨i, statement, resp⟩ :: own) lock → advisory.lookup lock = some i)
    (hcounted : ∀ scope startMs made, (⟨i, .count i scope startMs, made⟩ : Event Statement.Response) =
      ⟨i, statement, resp⟩ →
      Under i own scope.lock ∧ db.committedCount scope startMs ≤ made)
    (hcooled : ∀ scope startMs, (⟨i, .sentSince i scope startMs, false⟩ : Event Statement.Response) =
      ⟨i, statement, resp⟩ →
      Under i own scope.lock ∧ db.committedCount scope startMs = 0) :
    CallInv cfg i { db with advisory } (⟨i, statement, resp⟩ :: own) := by
  have hne : ∀ {told : Statement}, told.writes = true → told ≠ statement := by
    rintro told hwrites rfl
    rw [hreads] at hwrites
    cases hwrites
  exact {
    locked := hlocked
    counted := fun scope startMs made hmem =>
      ((List.mem_cons.mp hmem).elim (hcounted scope startMs made) (hinv.counted scope startMs made)).imp_left (.tail _)
    cooled := fun scope startMs hmem =>
      ((List.mem_cons.mp hmem).elim (hcooled scope startMs) (hinv.cooled scope startMs)).imp_left (.tail _)
    drafts := fun id value hwrite => (hinv.drafts id value hwrite).cons _
    revoked := fun tenantID key hmem => (hinv.revoked tenantID key (mem_of_mem_cons (hne rfl) hmem)).imp_left (.tail _)
    inserted := fun inv id hmem => by
      obtain ⟨hpending, hrevoked, ⟨now, hcleared⟩, hbelow, hvacant⟩ :=
        hinv.inserted inv id (mem_of_mem_cons (hne rfl) hmem)
      exact ⟨hpending, .tail _ hrevoked, ⟨now, hcleared.cons _⟩, hbelow, hvacant⟩
    once := fun inv id inv' id' hmem hmem' =>
      hinv.once inv id inv' id' (mem_of_mem_cons (hne rfl) hmem) (mem_of_mem_cons (hne rfl) hmem')
    unwritten := fun hunwritten => hinv.unwritten fun event hevent => hunwritten event (.tail _ hevent) }

/-- A statement that tells nothing. -/
lemma CallInv.extend (hquiet : statement.tells = false) : CallInv cfg i db (⟨i, statement, resp⟩ :: own) := by
  refine hinv.cons ?_ (fun lock hunder => hinv.locked lock (mem_of_mem_cons ?_ hunder)) ?_ ?_
  · cases statement <;> first | rfl | cases hquiet
  · rintro rfl
    cases hquiet
  · rintro scope startMs made ⟨⟩
    cases hquiet
  · rintro scope startMs ⟨⟩
    cases hquiet

lemma CallInv.lockXact (lock : CreateLock) :
    CallInv cfg i { db with advisory := db.advisory.take i lock } (⟨i, .lockXact i lock, ()⟩ :: own) := by
  refine hinv.cons rfl (fun other hunder => ?_) nofun nofun
  rw [lookup_take]
  grind

lemma CallInv.count (hunwritten : Unwritten own) (hunder : Under i own scope.lock) :
    CallInv cfg i db (⟨i, .count i scope startMs, db.count i scope startMs⟩ :: own) := by
  refine hinv.cons rfl (fun lock hlock => hinv.locked lock (mem_of_mem_cons (by simp) hlock)) ?_ nofun
  rintro _ _ _ ⟨⟩
  exact ⟨hunder, (InvitationDb.count_eq_committedCount (hinv.unwritten hunwritten) scope startMs).ge⟩

lemma CallInv.sentSince (hunwritten : Unwritten own) (hunder : Under i own scope.lock) :
    CallInv cfg i db (⟨i, .sentSince i scope startMs, decide (db.count i scope startMs ≠ 0)⟩ :: own) := by
  refine hinv.cons rfl (fun lock hlock => hinv.locked lock (mem_of_mem_cons (by simp) hlock)) nofun
    fun other startMs' heq => ?_
  injection heq with _ hsame hresp
  injection hsame with _ hscope hstart
  subst hscope hstart
  have hzero : ¬ db.count i other startMs' ≠ 0 := of_decide_eq_false hresp.symm
  rw [← InvitationDb.count_eq_committedCount (hinv.unwritten hunwritten)]
  exact ⟨hunder, Decidable.not_not.mp hzero⟩

lemma CallInv.revokePending (hunwritten : Unwritten own) (hunder : Under i own (.tenant tenantID)) :
    CallInv cfg i (db.revokePending i tenantID key) (⟨i, .revokePending i tenantID key, ()⟩ :: own) := by
  have hclean := hinv.unwritten hunwritten
  have hsame : InvitationDb.SameBut i db (db.revokePending i tenantID key) := InvitationDb.sameBut_foldl _
  have hwritten := InvitationDb.writes_revokePending hclean tenantID key
  have hcount : ∀ scope startMs,
      (db.revokePending i tenantID key).committedCount scope startMs = db.committedCount scope startMs := by
    intro scope startMs
    rw [InvitationDb.committedCount, hsame.committed]
    rfl
  have hnoInsert : ∀ inv id, (⟨i, .insert i inv, id⟩ : Event Statement.Response) ∉ own := by
    intro inv id hmem
    cases hunwritten _ hmem
  refine {
    locked := fun lock hlock => ?_
    counted := fun scope startMs made hmem => ?_
    cooled := fun scope startMs hmem => ?_
    drafts := fun id value hwrite => ?_
    revoked := fun tenantID' key' hmem => ?_
    inserted := fun inv id hmem => absurd (mem_of_mem_cons (by simp) hmem) (hnoInsert inv id)
    once := fun inv id _ _ hmem _ => absurd (mem_of_mem_cons (by simp) hmem) (hnoInsert inv id)
    unwritten := fun hafter => absurd (hafter _ (.head _)) (by simp [Statement.writes]) }
  · grind
  · grind
  · grind
  · rw [hwritten] at hwrite
    split at hwrite
    · rename_i hid
      obtain ⟨inv, hlookup, hopen⟩ := (InvitationDb.mem_openIDs hclean).mp hid
      rw [hlookup] at hwrite
      cases hwrite
      refine .inl ⟨inv, ?_, ?_, rfl⟩
      · rw [hsame.committed]
        exact hlookup
      simp only [InvitationDb.isOpen, Scope.covers, Bool.and_eq_true, beq_iff_eq] at hopen
      rw [hopen.1.1]
      exact .tail _ hunder
    · cases hwrite
  rcases List.mem_cons.mp hmem with heq | hold
  · injection heq with _ hstatement _
    injection hstatement with _ htenant hkey
    subst htenant hkey
    refine ⟨.tail _ hunder, fun id inv hlookup hopen => ?_⟩
    rw [hsame.committed] at hlookup
    rw [hwritten, if_pos ((InvitationDb.mem_openIDs hclean).mpr ⟨inv, hlookup, hopen⟩), hlookup]
    rfl
  · cases hunwritten _ hold

section
variable (hbelow : ∀ id inv, db.rows.committed.lookup id = some inv → id < db.nextID)
include hbelow

lemma CallInv.insert (huninserted : Uninserted own) (hpending : inv.status = .pending) (hrevoked : Revoked i own inv)
    (hcleared : ∃ now, Cleared i own cfg now inv) :
    CallInv cfg i (db.insert i inv).2 (⟨i, .insert i inv, db.nextID⟩ :: own) := by
  have hwritten : ∀ id, ((db.insert i inv).2.rows.writes i).lookup id =
      if id = db.nextID then some (some inv) else (db.rows.writes i).lookup id := by
    intro id
    show ((db.rows.write i db.nextID (some inv)).writes i).lookup id = _
    rw [Store.writes_write]
    simp
  have honly : ∀ other id, (⟨i, .insert i other, id⟩ : Event Statement.Response) ∈
    ⟨i, .insert i inv, db.nextID⟩ :: own →
      other = inv ∧ id = db.nextID := by
    intro other id hmem
    rcases List.mem_cons.mp hmem with heq | hold
    · grind
    · cases huninserted _ hold
  have hvacant : db.rows.committed.lookup db.nextID = none := by
    cases hlookup : db.rows.committed.lookup db.nextID with
    | none => rfl
    | some old => exact absurd (hbelow _ _ hlookup) (Nat.lt_irrefl _)
  refine {
    locked := fun lock hlock => hinv.locked lock (mem_of_mem_cons (by simp) hlock)
    counted := fun scope startMs made hmem =>
      (hinv.counted scope startMs made (mem_of_mem_cons (by simp) hmem)).imp_left (.tail _)
    cooled := fun scope startMs hmem => (hinv.cooled scope startMs (mem_of_mem_cons (by simp) hmem)).imp_left (.tail _)
    drafts := fun id value hwrite => ?_
    revoked := fun tenantID key hmem => ?_
    inserted := fun other id hmem => ?_
    once := fun other id other' id' hmem hmem' => ?_
    unwritten := fun hafter => absurd (hafter _ (.head _)) (by simp [Statement.writes]) }
  · rw [hwritten] at hwrite
    split at hwrite
    · grind
    · have hdraft : Draft i db (⟨i, .insert i inv, db.nextID⟩ :: own) id value := (hinv.drafts id value hwrite).cons _
      exact hdraft
  · obtain ⟨hunder, hall⟩ := hinv.revoked tenantID key (mem_of_mem_cons (by simp) hmem)
    refine ⟨.tail _ hunder, fun id old hlookup hopen => ?_⟩
    rw [hwritten, if_neg (Nat.ne_of_lt (hbelow id old hlookup))]
    exact hall id old hlookup hopen
  · obtain ⟨rfl, rfl⟩ := honly other id hmem
    obtain ⟨now, hnow⟩ := hcleared
    exact ⟨hpending, .tail _ hrevoked, ⟨now, hnow.cons _⟩, Nat.lt_succ_self _, hvacant⟩
  · grind

/-- A step of the create itself, before it ends. -/
lemma CallInv.step (hasks : Asks cfg i own statement) (hgoes : statement.ends = false) :
    CallInv cfg i (handle statement tick db).2 (⟨i, statement, (handle statement tick db).1⟩ :: own) := by
  cases statement with
  | lockXact tx lock =>
    obtain rfl := hasks
    exact hinv.lockXact lock
  | sentSince tx scope startMs =>
    obtain ⟨rfl, hunwritten, hunder⟩ := hasks
    exact hinv.sentSince hunwritten hunder
  | count tx scope startMs =>
    obtain ⟨rfl, hunwritten, hunder⟩ := hasks
    exact hinv.count hunwritten hunder
  | revokePending tx tenantID key =>
    obtain ⟨rfl, hunwritten, hunder⟩ := hasks
    exact hinv.revokePending hunwritten hunder
  | insert tx inv =>
    obtain ⟨rfl, hpending, huninserted, hrevoked, hcleared⟩ := hasks
    exact hinv.insert hbelow huninserted hpending hrevoked hcleared
  | requireTenantAdmin | now | randomToken => exact hinv.extend rfl
  | commit | rollback => cases hgoes

end
end
end identity.invitations
