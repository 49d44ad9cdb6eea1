import Identity.Invitations.Drafts

/-! The limits on invitations hold in every interval of time. -/

open identity.service identity.postgres ReadCommitted
namespace identity.invitations

/-- Whether an invitation of the scope was created in the interval of one window that starts
    at the time. -/
def sentIn (cfg : InvitationConfig) (scope : Scope) (lo : Int) (inv : TenantInvitation) : Bool :=
  scope.covers inv && decide (lo ≤ inv.createdAtMs ∧ inv.createdAtMs ≤ lo + cfg.tenantInvitationWindowMs)

@[grind]
structure CapsHold (cfg : InvitationConfig) (table : GoMap Nat TenantInvitation) : Prop where
  within : ∀ (scope : Scope) (lo : Int), (table.rows.countP (sentIn cfg scope lo) : Int) ≤ cfg.cap scope
  apart : ∀ id id' inv inv', id ≠ id' → table.lookup id = some inv → table.lookup id' = some inv' →
    SameRecipient inv inv' →
    cfg.tenantInvitationResendCooldownMs < inv.createdAtMs - inv'.createdAtMs ∨
      cfg.tenantInvitationResendCooldownMs < inv'.createdAtMs - inv.createdAtMs
  single : ∀ id id' inv inv', table.lookup id = some inv → table.lookup id' = some inv' → SameRecipient inv inv' →
    inv.status = .pending → inv'.status = .pending → id = id'

@[grind]
structure TableInv (cfg : InvitationConfig) (db : InvitationDb) (trace : DbTrace) : Prop where
  below : ∀ id inv, db.rows.committed.lookup id = some inv → id < db.nextID
  caps : CapsHold cfg db.rows.committed
  clocked : ∀ (i : Nat) (now : Int), ⟨i, .now, now⟩ ∈ trace → cfg.tenantInvitationResendCooldownMs < now
  ids : ∀ i inv id, ⟨i, .insert i inv, id⟩ ∈ trace → id < db.nextID
  distinct : ∀ i j inv inv' id, ⟨i, .insert i inv, id⟩ ∈ trace → ⟨j, .insert j inv', id⟩ ∈ trace → i = j
  calls : ∀ i, Open (Pool.own trace i) → CallInv cfg i db (Pool.own trace i)

variable {id : Nat}

/-- A row after a commit is one from before, perhaps revoked, or the one inserted. -/
lemma CallInv.row_commit (hcall : CallInv cfg i db (Pool.own trace i))
    (hlookup : (db.commit i).rows.committed.lookup id = some inv) :
    (∃ old, db.rows.committed.lookup id = some old ∧ (inv = old ∨ inv = old.revoke)) ∨
      ⟨i, .insert i inv, id⟩ ∈ Pool.own trace i := by
  rcases hcall.lookup_commit id with hsame | ⟨old, hold, -, hrevoked⟩ | ⟨new, hmem, hinserted⟩
  · exact .inl ⟨inv, hsame.symm.trans hlookup, .inl rfl⟩
  · exact .inl ⟨old, hold, .inr (Option.some.inj (hlookup.symm.trans hrevoked))⟩
  · grind

variable {id id' : Nat}

/-- A pending invitation to the address does not outlast the commit. -/
lemma CallInv.revoked_commit (hcall : CallInv cfg i db (Pool.own trace i))
    (hmem : ⟨i, .insert i inv, id⟩ ∈ Pool.own trace i) (hold : db.rows.committed.lookup id' = some old)
    (hsame : SameRecipient inv old) (hpending : old.status = .pending) :
    (db.commit i).rows.committed.lookup id' = some old.revoke := by
  obtain ⟨-, hrevoked, -⟩ := hcall.inserted inv id hmem
  have hopen : InvitationDb.isOpen inv.tenantID (foldEmail inv.email) old = true := by
    simp only [InvitationDb.isOpen, Scope.covers, hsame.1, hsame.2, hpending, beq_self_eq_true, Bool.and_self]
  have hwrite := (hcall.revoked _ _ hrevoked).2 id' old hold hopen
  exact Store.lookup_commit.trans (by rw [hwrite]; rfl)

/-- A statement that is no commit leaves what is committed. -/
lemma committed_step (hgoes : ∀ tx, statement ≠ .commit tx) :
    (handle statement tick db).2.rows.committed = db.rows.committed := by
  cases statement with
  | revokePending tx tenantID key =>
    have hsame : InvitationDb.SameBut tx db (db.revokePending tx tenantID key) := InvitationDb.sameBut_foldl _
    exact hsame.committed
  | commit tx => exact absurd rfl (hgoes tx)
  | _ => rfl

lemma nextID_step : db.nextID ≤ (handle statement tick db).2.nextID := by
  cases statement with
  | revokePending tx tenantID key =>
    have hsame : InvitationDb.SameBut tx db (db.revokePending tx tenantID key) := InvitationDb.sameBut_foldl _
    exact hsame.nextID
  | insert tx inv => exact Nat.le_succ _
  | _ => exact le_rfl

/-- An insert answers with the next id. -/
lemma insert_event
    (hmem : (⟨j, .insert j inv, id⟩ : Event Statement.Response) ∈
      ⟨i, statement, (handle statement tick db).1⟩ :: trace) :
    (⟨j, .insert j inv, id⟩ : Event Statement.Response) ∈ trace ∨
      j = i ∧ id = db.nextID ∧ (handle statement tick db).2.nextID = db.nextID + 1 := by
  rcases List.mem_cons.mp hmem with heq | hold
  · injection heq with hcaller hstatement hresp
    subst hstatement
    exact .inr ⟨hcaller, eq_of_heq hresp, rfl⟩
  · exact .inl hold

section
variable (hinv : TableInv cfg db trace)
include hinv
section
variable (hcall : CallInv cfg i db (Pool.own trace i))
include hcall

/-- What the inserted invitation has been held against. -/
lemma TableInv.cleared (hmem : ⟨i, .insert i inv, id⟩ ∈ Pool.own trace i) :
    Cleared i (Pool.own trace i) cfg inv.createdAtMs inv ∧ cfg.tenantInvitationResendCooldownMs < inv.createdAtMs := by
  obtain ⟨-, -, ⟨now, hcleared⟩, -⟩ := hcall.inserted inv id hmem
  have hread := hinv.clocked i now (Pool.mem_of_mem_own hcleared.read).1
  have hcooldown := cfg.cooldown_pos
  have hstamped := hcleared.stamped (by omega)
  rw [hstamped]
  exact ⟨hcleared, hread⟩

/-- The invitations that were there in the interval are all counted by the create whose own
    falls into it: the interval starts no earlier than its window. -/
lemma within_commit (scope : Scope) (lo : Int) :
    ((db.commit i).rows.committed.rows.countP (sentIn cfg scope lo) : Int) ≤ cfg.cap scope := by
  have hstatus : ∀ inv : TenantInvitation, sentIn cfg scope lo inv.revoke = sentIn cfg scope lo inv := by
    intro inv
    rfl
  by_cases hnew : ∃ inv id, ⟨i, .insert i inv, id⟩ ∈ Pool.own trace i ∧ sentIn cfg scope lo inv = true
  · obtain ⟨inv, id, hmem, hsent⟩ := hnew
    have hcount := hcall.countP_commit hstatus [id] fun inv' id' hmem' _ => by grind
    obtain ⟨hcovers, hinterval⟩ := Bool.and_eq_true_iff.mp hsent
    obtain ⟨hlo, hhi⟩ := of_decide_eq_true hinterval
    obtain ⟨hcleared, -⟩ := hinv.cleared hcall hmem
    obtain ⟨made, hmade, hbelow⟩ := hcleared.counted scope hcovers
    obtain ⟨-, hcounted⟩ := hcall.counted scope _ made hmade
    have hsubset : db.rows.committed.rows.countP (sentIn cfg scope lo) ≤
        db.committedCount scope (inv.createdAtMs - cfg.tenantInvitationWindowMs) := by
      refine List.countP_mono_left fun other _ hother => ?_
      obtain ⟨hcovers', hinterval'⟩ := Bool.and_eq_true_iff.mp hother
      rw [hcovers']
      have hrange := of_decide_eq_true hinterval'
      exact decide_eq_true (by omega)
    have hlength : [id].length = 1 := rfl
    omega
  · have hcount := hcall.countP_commit hstatus [] fun inv id hmem hsent => absurd ⟨inv, id, hmem, hsent⟩ hnew
    grind

/-- No invitation to the address lies within the cooldown of the one inserted. -/
lemma TableInv.cooled (hmem : ⟨i, .insert i inv, id⟩ ∈ Pool.own trace i)
    (hlookup : db.rows.committed.lookup id' = some old) (hsame : SameRecipient inv old) :
    cfg.tenantInvitationResendCooldownMs < inv.createdAtMs - old.createdAtMs := by
  obtain ⟨hcleared, hread⟩ := hinv.cleared hcall hmem
  obtain ⟨-, hzero⟩ := hcall.cooled _ _ (hcleared.cooled hread)
  have hnone := List.countP_eq_zero.mp hzero old (GoMap.mem_rows_iff.mpr ⟨id', hlookup⟩)
  rw [Bool.and_eq_true_iff, not_and] at hnone
  have hcovers : (Scope.recipient inv.tenantID (foldEmail inv.email)).covers old = true := by
    rw [Scope.covers, hsame.1, hsame.2, beq_self_eq_true, beq_self_eq_true]
    rfl
  have hearlier := of_decide_eq_false (Bool.eq_false_of_not_eq_true (hnone hcovers))
  omega

lemma apart_commit (hne : id ≠ id') (hlookup : (db.commit i).rows.committed.lookup id = some inv)
    (hlookup' : (db.commit i).rows.committed.lookup id' = some inv') (hsame : SameRecipient inv inv') :
    cfg.tenantInvitationResendCooldownMs < inv.createdAtMs - inv'.createdAtMs ∨
      cfg.tenantInvitationResendCooldownMs < inv'.createdAtMs - inv.createdAtMs := by
  -- what the limit reads of a row does not depend on its status
  have hkept : ∀ {now old : TenantInvitation}, now = old ∨ now = old.revoke →
      now.tenantID = old.tenantID ∧ now.email = old.email ∧ now.createdAtMs = old.createdAtMs := by
    rintro now old (rfl | rfl)
    · exact ⟨rfl, rfl, rfl⟩
    · exact ⟨rfl, rfl, rfl⟩
  rcases hcall.row_commit hlookup with ⟨old, hold, hrow⟩ | hmem
  · obtain ⟨htenant, hemail, hcreated⟩ := hkept hrow
    rcases hcall.row_commit hlookup' with ⟨old', hold', hrow'⟩ | hmem'
    · grind
    rw [SameRecipient, htenant, hemail] at hsame
    rw [hcreated]
    exact .inr (hinv.cooled hcall hmem' hold ⟨hsame.1.symm, hsame.2.symm⟩)
  rcases hcall.row_commit hlookup' with ⟨old', hold', hrow'⟩ | hmem'
  · obtain ⟨htenant', hemail', hcreated'⟩ := hkept hrow'
    rw [SameRecipient, htenant', hemail'] at hsame
    rw [hcreated']
    exact .inl (hinv.cooled hcall hmem hold' hsame)
  · exact absurd (hcall.once inv id inv' id' hmem hmem').2 hne

lemma single_commit (hlookup : (db.commit i).rows.committed.lookup id = some inv)
    (hlookup' : (db.commit i).rows.committed.lookup id' = some inv') (hsame : SameRecipient inv inv')
    (hpending : inv.status = .pending) (hpending' : inv'.status = .pending) : id = id' := by
  have hkept : ∀ {now old : TenantInvitation}, now = old ∨ now = old.revoke → now.status = .pending → now = old := by
    rintro now old (rfl | rfl) hstatus
    · rfl
    · cases hstatus
  rcases hcall.row_commit hlookup with ⟨old, hold, hrow⟩ | hmem
  · obtain rfl := hkept hrow hpending
    rcases hcall.row_commit hlookup' with ⟨old', hold', hrow'⟩ | hmem'
    · grind
    have hrevoked := hcall.revoked_commit hmem' hold ⟨hsame.1.symm, hsame.2.symm⟩ hpending
    rw [Option.some.inj (hlookup.symm.trans hrevoked)] at hpending
    cases hpending
  rcases hcall.row_commit hlookup' with ⟨old', hold', hrow'⟩ | hmem'
  · obtain rfl := hkept hrow' hpending'
    have hrevoked := hcall.revoked_commit hmem hold' hsame hpending'
    rw [Option.some.inj (hlookup'.symm.trans hrevoked)] at hpending'
    cases hpending'
  · exact (hcall.once inv id inv' id' hmem hmem').2

lemma caps_commit : CapsHold cfg (db.commit i).rows.committed where
  within := within_commit hinv hcall
  apart _ _ _ _ hne hlookup hlookup' hsame := apart_commit hinv hcall hne hlookup hlookup' hsame
  single _ _ _ _ hlookup hlookup' hsame hpending hpending' :=
    single_commit hinv hcall hlookup hlookup' hsame hpending hpending'

end

lemma TableInv.step (hproceeds : Proceeds cfg i (Pool.own trace i) statement)
    (hready : statement.ready db = true) (hclock : cfg.tenantInvitationResendCooldownMs < tick.nowMs) :
    TableInv cfg (handle statement tick db).2 (⟨i, statement, (handle statement tick db).1⟩ :: trace) := by
  have hcall := hinv.calls i hproceeds.1
  have hcommitted : (∃ tx, statement = .commit tx ∧ tx = i) ∨
      (handle statement tick db).2.rows.committed = db.rows.committed := by
    by_cases hcommit : ∃ tx, statement = .commit tx
    · obtain ⟨tx, rfl⟩ := hcommit
      exact .inl ⟨tx, rfl, hproceeds.2⟩
    · exact .inr (committed_step fun tx heq => hcommit ⟨tx, heq⟩)
  refine ⟨fun id inv hlookup => ?_, ?_, fun j now hmem => ?_, fun j inv id hmem => ?_,
    fun j k inv inv' id hmem hmem' => ?_, fun j hopen => ?_⟩
  · rcases hcommitted with ⟨tx, rfl, rfl⟩ | hsame
    · rcases hcall.row_commit hlookup with ⟨old, hold, -⟩ | hmem
      · exact hinv.below _ old hold
      · exact hinv.ids _ _ _ (Pool.mem_trace hmem)
    · grind [nextID_step]
  · rcases hcommitted with ⟨tx, rfl, rfl⟩ | hsame
    · exact caps_commit hinv hcall
    · rw [hsame]
      exact hinv.caps
  · rcases List.mem_cons.mp hmem with heq | hold
    · injection heq with _ hstatement hresp
      subst hstatement
      have hnow : now = tick.nowMs := eq_of_heq hresp
      rw [hnow]
      exact hclock
    · exact hinv.clocked j now hold
  · rcases insert_event hmem with hold | ⟨-, hid, hnext⟩
    · exact Nat.lt_of_lt_of_le (hinv.ids j inv id hold) nextID_step
    · rw [hid, hnext]
      exact Nat.lt_succ_self _
  · grind [insert_event]
  by_cases hsame : i = j
  · grind [hcall.step, List.mem_cons_self]
  rw [Pool.own_cons_ne hsame] at hopen ⊢
  refine (hinv.calls j hopen).spared (spares_step (Ne.symm hsame) hready hproceeds.2 hcall
    fun inv inv' id hmem hmem' => hsame ?_)
  exact hinv.distinct i j inv' inv id (Pool.mem_of_mem_own hmem').1 (Pool.mem_trace hmem)

end

lemma TableInv.start (hbelow : ∀ id inv, rows.lookup id = some inv → id < nextID) (hcaps : CapsHold cfg rows) :
    TableInv cfg ⟨.idle rows, (∅ : GoMap CreateLock Nat), nextID⟩ [] where
  below := hbelow
  caps := hcaps
  clocked _ _ hmem := nomatch hmem
  ids _ _ _ hmem := nomatch hmem
  distinct _ _ _ _ _ hmem := nomatch hmem
  calls i _ :=
    { locked := fun _ hunder => nomatch hunder
      counted := fun _ _ _ hmem => nomatch hmem
      cooled := fun _ _ hmem => nomatch hmem
      drafts := fun _ _ hwrite => absurd hwrite (by simp [Store.idle])
      revoked := fun _ _ hmem => nomatch hmem
      inserted := fun _ _ hmem => nomatch hmem
      once := fun _ _ _ _ hmem => nomatch hmem
      unwritten := fun _ => rfl }

/-- A project's invitations, within the limits. -/
structure InvitationTable (cfg : InvitationConfig) extends InvitationRows where
  caps : CapsHold cfg rows

/-- Whatever the order in which the creates read the clock and take their locks, the limits
    hold in every interval. What is assumed is that a step waits for the lock it needs, that
    the clock reads more than the cooldown and that the rows met the limits before; not that
    clocks agree, nor that every create commits. -/
theorem invitation_caps_hold (cfg : InvitationConfig) (toASCII : emailaddr.ToASCII) (table : InvitationTable cfg)
    (tasks : List CreateTask) (schedule : List (Nat × Tick))
    (hwaits : Pool.Along handle (Waits cfg) (invitationPool cfg toASCII table.rows table.nextID tasks) schedule) :
    CapsHold cfg
      ((invitationPool cfg toASCII table.rows table.nextID tasks).run handle schedule).store.rows.committed := by
  have hrun := Pool.along_invariant
    (fun pool caller tick statement next (hinv : TableInv cfg pool.store pool.trace) hcall _ hguard hcond => by
      rw [Pool.step_request hcall]
      exact hinv.step hguard hcond.1 hcond.2)
    (invitationPool_keep cfg toASCII table.rows table.nextID tasks) (TableInv.start table.below table.caps)
      schedule hwaits
  exact hrun.caps

variable (cfg : InvitationConfig)

lemma InvitationConfig.cap_pos (scope : Scope) : 0 < cfg.cap scope := by
  cases scope with
  | tenant => exact cfg.limit_pos
  | inviter => exact cfg.inviterLimit_pos
  | recipient => exact cfg.recipientLimit_pos

/-- A project that has sent no invitation. -/
lemma CapsHold.empty : CapsHold cfg ∅ where
  within scope lo := Int.le_of_lt (cfg.cap_pos scope)
  apart _ _ _ _ _ hlookup := absurd hlookup (by simp)
  single _ _ _ _ hlookup := absurd hlookup (by simp)

def InvitationTable.empty (cfg : InvitationConfig) : InvitationTable cfg where
  rows := ∅
  nextID := 1
  below _ _ hlookup := absurd hlookup (by simp)
  caps := CapsHold.empty cfg

def sampleTasks : List CreateTask := [⟨"u", "t", "a@b.example", "member"⟩, ⟨"u", "t", "c@b.example", ""⟩]

/-- The first create reads its clock, the second one runs to its end, then the first goes on. -/
def sampleSchedule : List (Nat × Tick) :=
  ([0, 0, 0, 0].map fun caller => (caller, { nowMs := 100000 })) ++
    ([1, 1, 1, 1, 1, 1, 1, 1, 1, 1, 1, 1, 1, 0, 0, 0, 0, 0, 0, 0, 0, 0].map
      fun caller => (caller, { nowMs := 200000 }))

def sampleTable : InvitationTable sampleConfig := InvitationTable.empty sampleConfig

theorem late_create_within_caps :
    CapsHold sampleConfig
      ((invitationPool sampleConfig some sampleTable.rows sampleTable.nextID sampleTasks).run handle
      sampleSchedule).store.rows.committed :=
  invitation_caps_hold sampleConfig some sampleTable sampleTasks sampleSchedule (by decide +kernel)

example : ((invitationPool sampleConfig some sampleTable.rows sampleTable.nextID sampleTasks).run handle
    sampleSchedule).store.rows.committed.keys = [2, 1] := by
  decide +kernel

end identity.invitations
