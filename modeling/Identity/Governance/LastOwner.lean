import Identity.Governance.Run

/-! Two calls that each take an owner out of the tenant: one of them has read the other's row. -/

open identity.service ReadCommitted
namespace identity.postgres
open List
open Pool (own_cons_ne own_cons_self)

/-- The statements of a call come in the order of its program. -/
@[grind]
structure Orderly (task : MembershipTask) (i : Nat) (own : DbTrace) : Prop where
  once : ∀ rows rows', Selected i own rows → Selected i own rows' → rows = rows'
  selected : ∀ row found, Locked i own row found → ∃ rows, Selected i own rows ∧ row ∈ rows
  named : ∀ rows, Selected i own rows → ∀ userID, task.subject = some userID → LockedByName i own userID
  counted : ∀ userID others, ⟨i, .countOtherOwners i userID, others⟩ ∈ own → task.takes = some userID ∧ Passed i own ∧
    ∃ m, Held i own userID m ∧ m.isActiveOwner = true

/-- The call takes this user out and has not ended. -/
@[grind =]
def Taking (tasks : List MembershipTask) (trace : DbTrace) (i : Nat) (userID : String) : Prop :=
  ∃ task, tasks[i]? = some task ∧ task.takes = some userID ∧ Open (Pool.own trace i)

/-- The user's membership is among the rows the call has read. -/
@[grind =]
def Reads (i : Nat) (own : DbTrace) (userID : String) : Prop :=
  ∃ rows row, Selected i own rows ∧ row ∈ rows ∧ row.userID = userID

/-- While the user is an active owner, the other call has their row among those it locks. -/
@[grind =]
def Watched (db : TenantDb) (userID : String) (j : Nat) (own : DbTrace) : Prop :=
  ∀ m, db.members.committed.lookup userID = some m → m.isActiveOwner = true →
    ∃ rows row, Selected j own rows ∧ row ∈ rows ∧ row.userID = userID ∧ row.id = m.id ∧ ¬ Locked j own row none

@[grind =]
def HasOwner (db : TenantDb) : Prop := ∃ userID m, db.members.committed.lookup userID = some m ∧ m.isActiveOwner = true

@[grind =]
def HasOtherOwner (db : TenantDb) (userID : String) : Prop :=
  ∃ other m, other ≠ userID ∧ db.members.committed.lookup other = some m ∧ m.isActiveOwner = true

@[grind]
structure OwnersInv (tasks : List MembershipTask) (db : TenantDb) (trace : DbTrace) : Prop where
  tables : TablesInv tasks db trace
  orderly : ∀ i task, tasks[i]? = some task → Orderly task i (Pool.own trace i)
  watched : ∀ i j userID userID', i ≠ j → Taking tasks trace i userID → Taking tasks trace j userID' →
    Reads i (Pool.own trace i) userID → Reads j (Pool.own trace j) userID' →
    Watched db userID j (Pool.own trace j) ∨ Watched db userID' i (Pool.own trace i)
  counted : ∀ i userID, Taking tasks trace i userID → Counted i (Pool.own trace i) userID → HasOtherOwner db userID
  owner : HasOwner db

section Awaited
variable (i : Nat) (userID : String)

/-- A statement that read the user's membership. -/
def readsRow : Event Statement.Response → Bool
  | ⟨_, .selectOwnersAnd tx _, rows⟩ => tx == i && rows.any fun row => row.userID == userID
  | _ => false

/-- A statement that locked the user's membership. -/
def holdsRow : Event Statement.Response → Bool
  | ⟨_, .lockRow tx row, some _⟩ => tx == i && row.userID == userID
  | _ => false

/-- The open call has read the user's membership and does not hold it yet. -/
def awaits (own : DbTrace) : Bool :=
  own.all (fun event => !event.req.ends) && own.any (readsRow i userID) && !own.any (holdsRow i userID)

end Awaited

/-- A transfer commits to a user whose removal or suspension waits for their membership. -/
def handsOverAwaited (tasks : List MembershipTask) (trace : DbTrace) : Statement → Bool
  | .commit tx =>
    match tasks[tx]? with
    | some (.transfer _ toID) =>
      tasks.zipIdx.any fun item => item.1.takes == some toID && awaits item.2 toID (Pool.own trace item.2)
    | _ => false
  | _ => false

section Trace
variable {task : MembershipTask}

lemma Passed.cons (hpassed : Passed i own) (event : Event Statement.Response) : Passed i (event :: own) := by
  obtain ⟨rows, ⟨userIDs, hselected⟩, hlocked⟩ := hpassed
  refine ⟨rows, ⟨userIDs, .tail _ hselected⟩, fun row hrow => ?_⟩
  obtain ⟨found, hfound⟩ := hlocked row hrow
  exact ⟨found, .tail _ hfound⟩

lemma Held.cons (hheld : Held i own userID m) (event : Event Statement.Response) : Held i (event :: own) userID m := by
  obtain ⟨huser, row, hrow⟩ := hheld
  exact ⟨huser, row, .tail _ hrow⟩

lemma Selected.cons (hselected : Selected i own rows) (event : Event Statement.Response) :
    Selected i (event :: own) rows := by
  obtain ⟨userIDs, hmem⟩ := hselected
  exact ⟨userIDs, .tail _ hmem⟩

/-- Only the statement that reads the rows adds a reading. -/
lemma Selected.of_cons (hother : ∀ tx userIDs, statement ≠ .selectOwnersAnd tx userIDs)
    (hselected : Selected i (⟨i, statement, resp⟩ :: own) rows) : Selected i own rows := by
  obtain ⟨userIDs, hmem⟩ := hselected
  exact ⟨userIDs, Event.mem_of_mem_cons (Ne.symm (hother i userIDs)) hmem⟩

lemma Orderly.nil : Orderly task i [] where
  once _ _ hselected := by grind
  selected _ _ hlocked := nomatch hlocked
  named _ hselected := by grind
  counted _ _ hmem := nomatch hmem

section
variable (hinv : Orderly task i own)
include hinv

/-- A statement other than the reading of the rows. -/
lemma Orderly.cons (hasks : Asks task i own statement) (hother :
    ∀ tx userIDs, statement ≠ .selectOwnersAnd tx userIDs) :
    Orderly task i (⟨i, statement, resp⟩ :: own) where
  once rows rows' hrows hrows' := hinv.once rows rows' (hrows.of_cons hother) (hrows'.of_cons hother)
  selected row found hlocked := by
    rcases mem_cons.mp hlocked with heq | hold
    · injection heq with _ hsame _
      subst hsame
      obtain ⟨-, -, rows, hselected, hrow⟩ := hasks
      exact ⟨rows, hselected.cons _, hrow⟩
    · obtain ⟨rows, hselected, hrow⟩ := hinv.selected row found hold
      exact ⟨rows, hselected.cons _, hrow⟩
  named rows hrows userID hsubject := .tail _ (hinv.named rows (hrows.of_cons hother) userID hsubject)
  counted userID others hcounted := by
    have hbefore : task.takes = some userID ∧ Passed i own ∧ ∃ m, Held i own userID m ∧ m.isActiveOwner = true := by
      rcases mem_cons.mp hcounted with heq | hold
      · injection heq with _ hsame _
        subst hsame
        obtain ⟨-, -, htakes, hpassed, hheld⟩ := hasks
        exact ⟨htakes, hpassed, hheld⟩
      · exact hinv.counted userID others hold
    obtain ⟨htakes, hpassed, m, hheld, howner⟩ := hbefore
    exact ⟨htakes, hpassed.cons _, m, hheld.cons _, howner⟩

/-- The rows are read once, under the lock on the membership. -/
lemma Orderly.select (hasks : Asks task i own (.selectOwnersAnd i userIDs)) :
    Orderly task i (⟨i, .selectOwnersAnd i userIDs, rows⟩ :: own) := by
  obtain ⟨-, -, hnamed, hfirst⟩ := hasks
  have hsame : ∀ rows', Selected i (⟨i, .selectOwnersAnd i userIDs, rows⟩ :: own) rows' → rows' = rows := by
    rintro rows' ⟨others, hmem⟩
    rcases mem_cons.mp hmem with heq | hold
    · injection heq
    · exact absurd ⟨others, hold⟩ (hfirst rows')
  exact {
    once := fun rows1 rows2 hrows1 hrows2 => (hsame rows1 hrows1).trans (hsame rows2 hrows2).symm
    selected := fun row found hlocked => by
      obtain ⟨before, hbefore, -⟩ := hinv.selected row found (Event.mem_of_mem_cons (by simp) hlocked)
      exact absurd hbefore (hfirst before)
    named := fun _ _ userID hsubject => .tail _ (hnamed userID hsubject)
    counted := fun userID others hcounted => by
      obtain ⟨htakes, hpassed, m, hheld, howner⟩ :=
        hinv.counted userID others (Event.mem_of_mem_cons (by simp) hcounted)
      exact ⟨htakes, hpassed.cons _, m, hheld.cons _, howner⟩ }

lemma Orderly.step (hasks : Asks task i own statement) : Orderly task i (⟨i, statement, resp⟩ :: own) := by
  cases statement with
  | selectOwnersAnd tx userIDs =>
    obtain rfl := hasks.1
    exact hinv.select hasks
  | _ => exact hinv.cons hasks (by simp)

end

lemma subject_of_takes (htakes : task.takes = some userID) : task.subject = some userID := by
  cases task with
  | remove | suspend => exact htakes
  | _ => cases htakes

/-- All but a transfer write the membership they are about. -/
lemma Draft.subject (hdraft : Draft task i own userID old value) :
    task.subject = some userID ∨ ∃ fromID toID, task = .transfer fromID toID := by
  cases task with
  | transfer fromID toID => exact .inr ⟨fromID, toID, rfl⟩
  | ensure => exact hdraft.elim
  | _ =>
    left
    rw [hdraft.1]
    rfl

end Trace

/-- A call that has read the user's row and does not await it holds it. -/
lemma held_of_not_awaits (hcallers : ∀ event ∈ own, event.caller = i)
    (hopen : Open own) (hreads : Reads i own userID) (hawaits : awaits i userID own = false) :
    ∃ row m, Locked i own row (some m) ∧ row.userID = userID := by
  have hopen' : own.all (fun event => !event.req.ends) = true :=
    all_eq_true.mpr fun event hevent => by rw [hopen event hevent]; rfl
  have hreads' : own.any (readsRow i userID) = true := by
    obtain ⟨rows, row, ⟨userIDs, hselected⟩, hrow, huser⟩ := hreads
    refine any_eq_true.mpr ⟨_, hselected, ?_⟩
    simp only [readsRow, beq_self_eq_true]
    exact any_eq_true.mpr ⟨row, hrow, beq_iff_eq.mpr huser⟩
  rw [awaits, hopen', hreads', Bool.and_self, Bool.true_and, Bool.not_eq_false'] at hawaits
  obtain ⟨⟨caller, req, resp⟩, hevent, hholds⟩ := any_eq_true.mp hawaits
  unfold holdsRow at hholds
  split at hholds
  · grind
  · cases hholds

/-- What becomes of an active owner when a transaction commits. -/
lemma TablesInv.owner_commit (hinv : TablesInv tasks db trace) (hturn : Turn tasks trace k task (.commit k))
    (hm : db.members.committed.lookup userID = some m)
    (howner : m.isActiveOwner = true) :
    (∃ m', (db.commit k).members.committed.lookup userID = some m' ∧ m'.isActiveOwner = true) ∨
      task.takes = some userID ∧ Counted k (Pool.own trace k) userID ∨
      ∃ fromID toID m', task = .transfer fromID toID ∧ db.members.locks.lookup toID = some k ∧
        (db.commit k).members.committed.lookup toID = some m' ∧ m'.isActiveOwner = true := by
  rcases hinv.lookup_commit hturn userID with hsame | ⟨value, hwrite, hvalue, hdraft⟩
  · exact .inl ⟨m, hsame.trans hm, howner⟩
  rw [hm] at hdraft
  cases task with
  | remove target =>
    obtain ⟨rfl, -, old, hold, hcounted⟩ := hdraft
    cases hold
    exact .inr (.inl ⟨rfl, hcounted howner⟩)
  | suspend target =>
    obtain ⟨rfl, old, hold, -, hcounted⟩ := hdraft
    cases hold
    exact .inr (.inl ⟨rfl, hcounted howner⟩)
  | restore target restorer =>
    obtain ⟨-, ⟨old, hold, hsuspended⟩, -⟩ := hdraft
    cases hold
    rw [TenantMembership.isActiveOwner, hsuspended] at howner
    simp at howner
  | transfer fromID toID =>
    obtain ⟨-, new, hnew, ⟨-, hstill⟩ | ⟨-, -, promotion, hevent⟩⟩ := hdraft
    · exact .inl ⟨new, hvalue.trans hnew, hstill⟩
    obtain ⟨promoted, hpromoted, hstill⟩ := (hinv.call hturn).promoted fromID toID promotion rfl hevent
    refine .inr (.inr ⟨fromID, toID, promoted, rfl, hinv.sound.locked k toID _ hpromoted, ?_, hstill⟩)
    exact Store.lookup_commit.trans (by rw [hpromoted]; rfl)
  | grant target source role =>
    obtain ⟨-, new, hnew, hgranted⟩ := hdraft
    exact .inl ⟨new, hvalue.trans hnew, (hgranted m rfl).2 howner⟩
  | join target =>
    obtain ⟨-, ⟨new, hnew, hgranted⟩, -⟩ := hdraft
    exact .inl ⟨new, hvalue.trans hnew, (hgranted m rfl).2 howner⟩
  | ensure target => exact hdraft.elim

section
variable (hinv : OwnersInv tasks db trace)
include hinv

lemma OwnersInv.held (htaking : Taking tasks trace i userID) (hcounted : Counted i (Pool.own trace i) userID) :
    ∃ m, Passed i (Pool.own trace i) ∧ Reads i (Pool.own trace i) userID ∧ m.isActiveOwner = true ∧
      db.members.locks.lookup userID = some i ∧ db.members.committed.lookup userID = some m := by
  obtain ⟨task, htask, -, hopen⟩ := htaking
  obtain ⟨others, -, hmem⟩ := hcounted
  obtain ⟨-, hpassed, m, hheld, howner⟩ := (hinv.orderly i task htask).counted userID others hmem
  have hcall := hinv.tables.calls i task htask hopen
  obtain ⟨hlock, hrow⟩ := hcall.held hinv.tables.keyed hheld
  obtain ⟨huser, row, hlocked⟩ := hheld
  obtain ⟨rows, hselected, hmemRow⟩ := (hinv.orderly i task htask).selected row _ hlocked
  have hkey := hinv.tables.keyed _ _ (hcall.locked row m hlocked).2
  exact ⟨m, hpassed, ⟨rows, row, hselected, hmemRow, hkey.symm.trans huser⟩, howner, hlock, hrow⟩

/-- A call that watches an active owner's row cannot have passed it while another holds it. -/
lemma OwnersInv.not_watched (hne : i ≠ j)
    (htaking : Taking tasks trace j userID') (hpassed : Passed j (Pool.own trace j))
    (hlock : db.members.locks.lookup userID = some i) (hm : db.members.committed.lookup userID = some m)
    (howner : m.isActiveOwner = true) : ¬ Watched db userID j (Pool.own trace j) := by
  intro hwatched
  obtain ⟨task, htask, -, hopen⟩ := htaking
  obtain ⟨rows, row, hselected, hrow, huser, -, hfound⟩ := hwatched m hm howner
  obtain ⟨rows', hselected', hlocked⟩ := hpassed
  obtain rfl := (hinv.orderly j task htask).once rows rows' hselected hselected'
  obtain ⟨found, hrowLocked⟩ := hlocked row hrow
  cases found with
  | none => exact hfound hrowLocked
  | some current => grind

/-- No two open calls have counted for the owners they take out. -/
lemma OwnersInv.exclusive (hne : i ≠ j)
    (htaking : Taking tasks trace i userID) (htaking' : Taking tasks trace j userID')
    (hcounted : Counted i (Pool.own trace i) userID) (hcounted' : Counted j (Pool.own trace j) userID') : False := by
  obtain ⟨m, hpassed, hreads, howner, hlock, hrow⟩ := hinv.held htaking hcounted
  obtain ⟨m', hpassed', hreads', howner', hlock', hrow'⟩ := hinv.held htaking' hcounted'
  rcases hinv.watched i j userID userID' hne htaking htaking' hreads hreads' with hwatched | hwatched
  · exact hinv.not_watched hne htaking' hpassed' hlock hrow howner hwatched
  · exact hinv.not_watched (Ne.symm hne) htaking hpassed hlock' hrow' howner' hwatched

/-- A commit by another call leaves the owner that a call has counted on, or another. -/
lemma OwnersInv.other_commit (hturn : Turn tasks trace k task (.commit k)) (hne : i ≠ k) (htaking :
    Taking tasks trace i userID)
    (hcounted : Counted i (Pool.own trace i) userID) : HasOtherOwner (db.commit k) userID := by
  obtain ⟨other, current, hother, hcurrent, howner⟩ := hinv.counted i userID htaking hcounted
  rcases hinv.tables.owner_commit hturn hcurrent howner with ⟨m', hm', hstill⟩ | ⟨htakes, hcounts⟩ |
    ⟨fromID, toID, m', rfl, hlock, hm', hstill⟩
  · exact ⟨other, m', hother, hm', hstill⟩
  · exact (hinv.exclusive hne htaking ⟨task, hturn.1, htakes, hturn.2.1⟩ hcounted hcounts).elim
  · grind

lemma OwnersInv.owner_commit (hturn : Turn tasks trace k task (.commit k)) : HasOwner (db.commit k) := by
  obtain ⟨userID, m, hm, howner⟩ := hinv.owner
  rcases hinv.tables.owner_commit hturn hm howner with ⟨m', hm', hstill⟩ | ⟨htakes, hcounts⟩ |
    ⟨fromID, toID, m', -, -, hm', hstill⟩
  · exact ⟨userID, m', hm', hstill⟩
  · -- the owner that the call has counted stays: the call takes only one
    obtain ⟨other, current, hother, hcurrent, howner'⟩ :=
      hinv.counted k userID ⟨task, hturn.1, htakes, hturn.2.1⟩ hcounts
    rcases hinv.tables.owner_commit hturn hcurrent howner' with ⟨m', hm', hstill⟩ | ⟨htakes', -⟩ |
      ⟨fromID, toID, m', rfl, -⟩
    · exact ⟨other, m', hm', hstill⟩
    · exact absurd (Option.some.inj (htakes'.symm.trans htakes)) hother
    · cases htakes
  · exact ⟨toID, m', hm', hstill⟩

end

/-! A tenant keeps an owner, as long as no transfer makes an owner of someone whom another call
is about to take out. -/

/-- A call that is open after a step was open before it, and the step has not ended it. -/
lemma Taking.before (htaking : Taking tasks (⟨k, statement, resp⟩ :: trace) i userID) :
    Taking tasks trace i userID ∧ (i = k → statement.ends = false) := by
  obtain ⟨task, htask, htakes, hopen⟩ := htaking
  by_cases hsame : k = i
  · subst hsame
    rw [own_cons_self] at hopen
    exact ⟨⟨task, htask, htakes, fun event hevent => hopen event (.tail _ hevent)⟩, fun _ => hopen _ (.head _)⟩
  · grind [own_cons_ne]

/-- The row of an active owner is there when a call comes to lock it. -/
lemma TablesInv.lockRow_found (hinv : TablesInv tasks db trace) (hturn : Turn tasks trace k task (.lockRow k row))
    (huser : row.userID = userID)
    (hm : db.members.committed.lookup userID = some m) (hid : row.id = m.id) : (db.lockRow k row).1 = some m := by
  obtain ⟨-, hunwritten, -⟩ := hturn.2.2
  have hread : db.members.read k row.userID = some m := by
    rw [Store.read_eq_committed (by rw [(hinv.call hturn).unwritten hunwritten]; rfl), huser]
    exact hm
  simp only [TenantDb.lockRow, hread, if_pos hid.symm]

lemma Watched.step (hwatched : Watched db userID j (Pool.own trace j)) (hinv : TablesInv tasks db trace)
    (hturn : Turn tasks trace k task statement)
    (hold : ∀ m, (handle statement tick db).2.members.committed.lookup userID = some m → m.isActiveOwner = true →
      db.members.committed.lookup userID = some m) :
    Watched (handle statement tick db).2 userID j
      (Pool.own (⟨k, statement, (handle statement tick db).1⟩ :: trace) j) := by
  intro m hm howner
  have hbefore := hold m hm howner
  obtain ⟨rows, row, hselected, hrow, huser, hid, hfound⟩ := hwatched m hbefore howner
  by_cases hsame : k = j
  · subst hsame
    rw [own_cons_self]
    refine ⟨rows, row, hselected.cons _, hrow, huser, hid, fun hlocked => ?_⟩
    rcases mem_cons.mp hlocked with heq | hlater
    · injection heq with _ hstatement hresp
      subst hstatement
      have hnone : (db.lockRow k row).1 = none := (eq_of_heq hresp).symm
      grind [hinv.lockRow_found]
    · exact hfound hlater
  · grind [own_cons_ne]

/-- A call that did not read the rows in this step had read them before. -/
lemma Reads.before (hreads : Reads i (Pool.own (⟨k, statement, resp⟩ :: trace) i) userID)
    (hother : k = i → ∀ tx userIDs, statement ≠ .selectOwnersAnd tx userIDs) : Reads i (Pool.own trace i) userID := by
  by_cases hsame : k = i
  · grind
  · rwa [own_cons_ne hsame] at hreads

section
variable (hinv : OwnersInv tasks db trace)
include hinv

/-- While a call that takes the user has read their row, no commit of another makes them an
    active owner. -/
lemma OwnersInv.lookup_of_commit (hturn : Turn tasks trace k task (.commit k)) (hne : i ≠ k)
    (htaking : Taking tasks trace i userID)
    (hreads : Reads i (Pool.own trace i) userID) (hfair : handsOverAwaited tasks trace (.commit k) = false)
    (hm : (db.commit k).members.committed.lookup userID = some m) (howner : m.isActiveOwner = true) :
    db.members.committed.lookup userID = some m := by
  rcases hinv.tables.lookup_commit hturn userID with hsame | ⟨value, hwrite, hvalue, hdraft⟩
  · exact hsame.symm.trans hm
  obtain rfl : value = some m := hvalue.symm.trans hm
  obtain ⟨taker, htaker, htakes, hopen⟩ := htaking
  have htakerInv := hinv.tables.calls i taker htaker hopen
  rcases hdraft.subject with hsubject | ⟨fromID, toID, rfl⟩
  · -- the lock on the membership by name is the taker's
    grind [subject_of_takes]
  obtain ⟨-, new, hnew, ⟨rfl, -⟩ | ⟨-, hplain, -⟩⟩ := hdraft
  · -- the transfer holds the row, so the taker still waits for it
    have hlock := hinv.tables.sound.locked k userID _ hwrite
    have hawaits : awaits i userID (Pool.own trace i) = false := by
      rw [handsOverAwaited, hturn.1] at hfair
      have hitem := any_eq_false.mp hfair (taker, i) (mem_zipIdx_iff_getElem?.mpr (by simpa using htaker))
      grind
    obtain ⟨row, held, hlocked, huser⟩ := held_of_not_awaits (fun event hevent => (Pool.mem_of_mem_own hevent).2)
      hopen hreads hawaits
    grind
  cases hnew
  rw [howner] at hplain
  cases hplain

/-- A step makes no active owner of a user whom an open call takes out and whose row it has
    read. -/
lemma OwnersInv.lookup_of_step (hturn : Turn tasks trace k task statement) (hfair :
    handsOverAwaited tasks trace statement = false)
    (htaking : Taking tasks trace i userID) (hgoes : i = k → statement.ends = false)
    (hreads : Reads i (Pool.own trace i) userID)
    (hm : (handle statement tick db).2.members.committed.lookup userID = some m) (howner : m.isActiveOwner = true) :
    db.members.committed.lookup userID = some m := by
  cases hpublishes : statement.publishes with
  | false =>
    rw [(committed_step hpublishes).1] at hm
    exact hm
  | true =>
    cases statement with
    | upsertDerived added =>
      rcases lookup_upsertDerived db added userID with hsame | ⟨-, -, -, hnew⟩
      · exact hsame.symm.trans hm
      · cases hnew.symm.trans hm
        cases howner
    | commit tx =>
      obtain rfl := hturn.2.2.1
      have hne : i ≠ tx := by
        intro hsame
        cases hgoes hsame
      exact hinv.lookup_of_commit hturn hne htaking hreads hfair hm howner
    | _ => cases hpublishes

/-- The rows that a call reads hold every active owner. -/
lemma OwnersInv.watched_of_select (hturn : Turn tasks trace k task (.selectOwnersAnd k userIDs)) (userID : String) :
    Watched db userID k (⟨k, .selectOwnersAnd k userIDs, db.selectOwnersAnd k userIDs⟩ :: Pool.own trace k) := by
  intro m hm howner
  obtain ⟨-, hunwritten, -, hfirst⟩ := hturn.2.2
  have hcall := hinv.tables.call hturn
  have hseen : m ∈ (db.members.visible k).rows := by
    refine GoMap.mem_rows_iff.mpr ⟨userID, ?_⟩
    rw [Store.lookup_visible_of_unwritten (hcall.unwritten hunwritten)]
    exact hm
  have hread : m ∈ db.selectOwnersAnd k userIDs := by
    rw [TenantDb.selectOwnersAnd, mem_insertionSort, mem_filter]
    exact ⟨hseen, by rw [howner, Bool.true_or]⟩
  refine ⟨_, m, ⟨userIDs, .head _⟩, hread, hinv.tables.keyed userID m hm, rfl, fun hlocked => ?_⟩
  obtain ⟨rows, hselected, -⟩ := (hinv.orderly k task hturn.1).selected m none
    (Event.mem_of_mem_cons (by simp) hlocked)
  exact hfirst rows hselected

lemma OwnersInv.watched_step (hturn : Turn tasks trace k task statement) (hfair :
    handsOverAwaited tasks trace statement = false) (hne : i ≠ j)
    (htaking : Taking tasks (⟨k, statement, (handle statement tick db).1⟩ :: trace) i userID)
    (htaking' : Taking tasks (⟨k, statement, (handle statement tick db).1⟩ :: trace) j userID')
    (hreads : Reads i (Pool.own (⟨k, statement, (handle statement tick db).1⟩ :: trace) i) userID)
    (hreads' : Reads j (Pool.own (⟨k, statement, (handle statement tick db).1⟩ :: trace) j) userID') :
    Watched (handle statement tick db).2 userID j
      (Pool.own (⟨k, statement, (handle statement tick db).1⟩ :: trace) j) ∨
      Watched (handle statement tick db).2 userID' i
        (Pool.own (⟨k, statement, (handle statement tick db).1⟩ :: trace) i) := by
  by_cases hselects : ∃ userIDs, statement = .selectOwnersAnd k userIDs ∧ (k = i ∨ k = j)
  · -- the call that reads the rows now finds the other's user among them
    obtain ⟨userIDs, rfl, rfl | rfl⟩ := hselects
    · right
      rw [own_cons_self]
      exact hinv.watched_of_select hturn userID'
    left
    rw [own_cons_self]
    exact hinv.watched_of_select hturn userID
  have hother : k = i ∨ k = j → ∀ tx userIDs, statement ≠ .selectOwnersAnd tx userIDs := by
    rintro hcaller tx userIDs rfl
    obtain rfl := hturn.2.2.1
    exact hselects ⟨userIDs, rfl, hcaller⟩
  have hread := hreads.before fun hsame => hother (.inl hsame)
  have hread' := hreads'.before fun hsame => hother (.inr hsame)
  obtain ⟨htook, hgoes⟩ := htaking.before
  obtain ⟨htook', hgoes'⟩ := htaking'.before
  refine (hinv.watched i j userID userID' hne htook htook' hread hread').imp ?_ ?_
  · exact fun hwatched => hwatched.step hinv.tables hturn fun m hm howner =>
      hinv.lookup_of_step hturn hfair htook hgoes hread hm howner
  · exact fun hwatched => hwatched.step hinv.tables hturn fun m hm howner =>
      hinv.lookup_of_step hturn hfair htook' hgoes' hread' hm howner

end

lemma hasOtherOwner_of_count (hkeyed : ∀ userID m, db.members.committed.lookup userID = some m → m.userID = userID)
    (hunwritten : db.members.writes k = ∅) (hcount : db.countOtherOwners k userID ≠ 0) : HasOtherOwner db userID := by
  obtain ⟨m, hm, hother⟩ := countP_pos_iff.mp (Nat.pos_of_ne_zero hcount)
  obtain ⟨key, hkey⟩ := GoMap.mem_rows_iff.mp hm
  rw [Store.lookup_visible_of_unwritten hunwritten] at hkey
  obtain ⟨hne, howner⟩ := Bool.and_eq_true_iff.mp hother
  refine ⟨key, m, ?_, hkey, howner⟩
  rw [← hkeyed key m hkey]
  exact bne_iff_ne.mp hne

/-- A step that is no commit leaves the owners. -/
lemma owner_of_step (hgoes : ∀ tx, statement ≠ .commit tx) (hm : db.members.committed.lookup userID = some m) :
    (handle statement tick db).2.members.committed.lookup userID = some m := by
  cases hpublishes : statement.publishes with
  | false =>
    rw [(committed_step hpublishes).1]
    exact hm
  | true =>
    cases statement with
    | upsertDerived added =>
      rcases lookup_upsertDerived db added userID with hsame | ⟨-, hnone, -⟩
      · exact hsame.trans hm
      · rw [hm] at hnone
        cases hnone
    | commit tx => exact absurd rfl (hgoes tx)
    | _ => cases hpublishes

section
variable (hinv : OwnersInv tasks db trace)
include hinv
section
variable (hturn : Turn tasks trace k task statement)
include hturn

lemma OwnersInv.counted_step (htaking : Taking tasks (⟨k, statement, (handle statement tick db).1⟩ :: trace) i userID)
    (hcounted : Counted i (Pool.own (⟨k, statement, (handle statement tick db).1⟩ :: trace) i) userID) :
    HasOtherOwner (handle statement tick db).2 userID := by
  obtain ⟨htook, hgoes⟩ := htaking.before
  by_cases hcommit : ∃ tx, statement = .commit tx
  · obtain ⟨tx, rfl⟩ := hcommit
    obtain rfl := hturn.2.2.1
    have hne : tx ≠ i := by
      intro hsame
      cases hgoes hsame.symm
    rw [own_cons_ne hne] at hcounted
    exact hinv.other_commit hturn (Ne.symm hne) htook hcounted
  have hbefore : HasOtherOwner db userID := by
    by_cases hsame : k = i
    · subst hsame
      rw [own_cons_self] at hcounted
      obtain ⟨others, hothers, hmem⟩ := hcounted
      rcases mem_cons.mp hmem with heq | hold
      · injection heq with _ hstatement hresp
        subst hstatement
        obtain ⟨-, hunwritten, -⟩ := hturn.2.2
        have hcount : db.countOtherOwners k userID = others := (eq_of_heq hresp).symm
        exact hasOtherOwner_of_count hinv.tables.keyed ((hinv.tables.call hturn).unwritten hunwritten)
          (hcount ▸ hothers)
      · exact hinv.counted k userID htook ⟨others, hothers, hold⟩
    · grind [own_cons_ne]
  obtain ⟨other, m, hother, hm, howner⟩ := hbefore
  exact ⟨other, m, hother, owner_of_step (fun tx heq => hcommit ⟨tx, heq⟩) hm, howner⟩

lemma OwnersInv.owner_step : HasOwner (handle statement tick db).2 := by
  by_cases hcommit : ∃ tx, statement = .commit tx
  · obtain ⟨tx, rfl⟩ := hcommit
    obtain rfl := hturn.2.2.1
    exact hinv.owner_commit hturn
  · obtain ⟨userID, m, hm, howner⟩ := hinv.owner
    exact ⟨userID, m, owner_of_step (fun tx heq => hcommit ⟨tx, heq⟩) hm, howner⟩

lemma OwnersInv.step (hready : statement.ready db = true) (hfair : handsOverAwaited tasks trace statement = false) :
    OwnersInv tasks (handle statement tick db).2 (⟨k, statement, (handle statement tick db).1⟩ :: trace) where
  tables := hinv.tables.step hturn hready
  orderly i other hother := by
    by_cases hsame : k = i
    · subst hsame
      obtain rfl := Option.some.inj (hturn.1.symm.trans hother)
      rw [own_cons_self]
      exact (hinv.orderly k task hturn.1).step hturn.2.2
    · rw [own_cons_ne hsame]
      exact hinv.orderly i other hother
  watched _ _ _ _ hne htaking htaking' hreads hreads' :=
    hinv.watched_step hturn hfair hne htaking htaking' hreads hreads'
  counted _ _ htaking hcounted := hinv.counted_step hturn htaking hcounted
  owner := hinv.owner_step hturn

end
end

lemma OwnersInv.start (table : MemberTable) (removals : GoMap String Int) (nextID : Nat)
    (howner : table.rows.lookup userID = some m) (hactive : m.isActiveOwner = true) :
    OwnersInv tasks ⟨.idle table.rows, .idle removals, (∅ : GoMap String Nat), nextID⟩ [] where
  tables := TablesInv.start table removals nextID
  orderly _ _ _ := Orderly.nil
  watched _ _ _ _ _ _ _ hreads _ := by grind
  counted _ _ _ hcounted := by grind
  owner := ⟨userID, m, howner, hactive⟩

/-- A step that waits for its locks and is no transfer to someone who is being taken out. -/
def WaitsFairly (tasks : List MembershipTask) (pool : TenantPool) (caller : Nat) (tick : Tick)
    (statement : Statement) :
    Prop :=
  Waits pool caller tick statement ∧ handsOverAwaited tasks pool.trace statement = false

instance (tasks : List MembershipTask) (pool : TenantPool) (caller : Nat) (tick : Tick) (statement : Statement) :
    Decidable (WaitsFairly tasks pool caller tick statement) :=
  inferInstanceAs (Decidable (_ ∧ _))

/-- The tenant has an active owner after every run. -/
theorem tenant_keeps_an_owner (table : MemberTable) (removals : GoMap String Int) (nextID : Nat)
    (tasks : List MembershipTask) (userID : String) (m : TenantMembership) (howner : table.rows.lookup userID = some m)
    (hactive : m.isActiveOwner = true) (schedule : List (Nat × Tick))
    (hwaits : Pool.Along handle (WaitsFairly tasks) (tenantPool table.rows removals nextID tasks) schedule) :
    HasOwner ((tenantPool table.rows removals nextID tasks).run handle schedule).store := by
  have hrun := Pool.along_invariant
    (fun pool caller tick statement next (hinv : OwnersInv tasks pool.store pool.trace) hcall _ hguard hcond => by
      rw [Pool.step_request hcall]
      obtain ⟨task, hturn⟩ := hguard
      exact hinv.step hturn hcond.1 hcond.2)
    (tenantPool_keep table.rows removals nextID tasks) (OwnersInv.start table removals nextID howner hactive)
      schedule hwaits
  exact hrun.owner

instance (db : TenantDb) : Decidable (HasOwner db) := decidable_of_iff _ (GoMap.anyRow_iff)

/-- A tenant with two owners and a member. -/
def twoOwners : GoMap String TenantMembership :=
  AList.insert "z" ⟨3, "z", .added, .member, .active⟩
    (AList.insert "y" ⟨2, "y", .added, .owner, .active⟩ (AList.insert "x" ⟨1, "x", .created, .owner, .active⟩ ∅))

/-- Both owners are removed at once and one of them hands over to the member. -/
def ownerTasks : List MembershipTask := [.remove "x", .remove "y", .transfer "y" "z"]

def ownerSchedule : List (Nat × Tick) :=
  [0, 1, 0, 1, 2, 0, 0, 0, 0, 0, 0, 1, 1, 1, 1, 2, 2, 2, 2, 2, 2].map fun caller => (caller, {})

theorem two_owners_keep_one : HasOwner ((tenantPool twoOwners ∅ 4 ownerTasks).run handle ownerSchedule).store :=
  tenant_keeps_an_owner ⟨twoOwners, fun userID m hm => GoMap.forall_lookup
    (P := fun key (row : TenantMembership) => row.userID = key) (by decide) userID m hm⟩ ∅ 4 ownerTasks "x"
      ⟨1, "x", .created, .owner, .active⟩ (by decide)
    (by decide) ownerSchedule (by decide +kernel)

/-- An owner and two members. -/
def oneOwner : GoMap String TenantMembership :=
  AList.insert "p" ⟨3, "p", .added, .member, .active⟩
    (AList.insert "a" ⟨2, "a", .added, .member, .active⟩ (AList.insert "x" ⟨1, "x", .created, .owner, .active⟩ ∅))

/-- Ownership passes from `x` over `p` to `a` while `a` is being removed, and `c` is made an
    owner and removed. -/
def handoverTasks : List MembershipTask :=
  [.transfer "x" "p", .transfer "p" "a", .remove "a", .grant "c" .added .owner, .remove "c"]

def handoverSchedule : List (Nat × Tick) :=
  [0, 0, 0, 0, 0, 1, 1, 2, 2, 0, 3, 3, 3, 3, 4, 4, 4, 1, 1, 1, 1, 1, 2, 2, 2, 4, 4, 2, 2, 2, 4, 4, 4].map fun caller =>
    (caller, {})

/-- The two removals count each other's owner: the one of `a` has not read the row of `c`, the
    one of `c` not the row of `a`, since neither was an owner then. -/
theorem handover_leaves_no_owner : Pool.Along handle Waits (tenantPool oneOwner ∅ 4 handoverTasks) handoverSchedule ∧
      HasOwner (tenantPool oneOwner ∅ 4 handoverTasks).store ∧
      ¬ HasOwner ((tenantPool oneOwner ∅ 4 handoverTasks).run handle handoverSchedule).store := by
  decide +kernel

end identity.postgres
