import Identity.Invitations.Accept
import Identity.Invitations.Drafts

/-! The transaction that creates an invitation, run alone. -/

open identity.service identity.postgres ReadCommitted
namespace identity.invitations
open Store
namespace InvitationDb
variable (db : InvitationDb) (tx : Nat) (inv : TenantInvitation)

lemma writes_commit : (db.commit tx).rows.writes tx = ∅ := (writes_rollback tx).trans (if_pos rfl)

/-- The table after the last statements of a create. -/
def replaced : InvitationDb := ((db.revokePending tx inv.tenantID (foldEmail inv.email)).insert tx inv).2.commit tx

variable {db tx}

lemma lookup_replaced (hclean : db.rows.writes tx = ∅) (id : Nat) : (db.replaced tx inv).rows.committed.lookup id =
      if id = (db.revokePending tx inv.tenantID (foldEmail inv.email)).nextID then some inv
      else if id ∈ db.openIDs tx inv.tenantID (foldEmail inv.email) then
        (db.rows.committed.lookup id).map TenantInvitation.revoke
      else db.rows.committed.lookup id := by
  have hsame : SameBut tx db (db.revokePending tx inv.tenantID (foldEmail inv.email)) := sameBut_foldl _
  have hcommit : (db.replaced tx inv).rows.committed.lookup id =
      (((db.revokePending tx inv.tenantID (foldEmail inv.email)).insert tx inv).2.rows.writes tx |>.lookup id).getD
        ((db.revokePending tx inv.tenantID (foldEmail inv.email)).rows.committed.lookup id) := lookup_commit
  rw [hcommit]
  show ((((db.revokePending tx inv.tenantID (foldEmail inv.email)).rows.write tx _ (some inv)).writes tx).lookup
    id).getD _ = _
  rw [writes_write]
  by_cases hid : id = (db.revokePending tx inv.tenantID (foldEmail inv.email)).nextID
  · rw [if_pos ⟨rfl, hid⟩, if_pos hid]
    rfl
  · grind [writes_revokePending, mem_openIDs]

end InvitationDb

section Alone
variable {db : InvitationDb}

/-- What a create that runs alone does to the invitations that are there. -/
@[grind]
structure Replaced (inv : TenantInvitation) (db db' : InvitationDb) : Prop where
  clean : db'.rows.writes 0 = ∅
  below : ∀ id row, db'.rows.committed.lookup id = some row → id < db'.nextID
  kept : ∀ id old, db.rows.committed.lookup id = some old → db'.rows.committed.lookup id = some old ∨
    old.status = .pending ∧ SameRecipient inv old ∧ db'.rows.committed.lookup id = some old.revoke

/-- A create that has not written yet. -/
@[grind]
structure Untouched (db s : InvitationDb) : Prop where
  rows : s.rows = db.rows
  nextID : s.nextID = db.nextID

variable (db) in
/-- The call ends without a write. -/
abbrev Reads {α : Type} (call : DbCall α) (s : InvitationDb) : Prop :=
  call.Runs handle (fun _ _ => True) (fun _ s' => Untouched db s') s

lemma refusePast_reads (scope : Scope) (startMs cap : Int) (refusal : Sentinel) (hsame : Untouched db s) :
    Reads db (refusePast 0 scope startMs cap refusal) s := by
  refine ⟨trivial, fun tick => ?_⟩
  show (if cap ≤ ((s.count 0 scope startMs : Nat) : Int) then (pure (.error (.sentinel refusal)) :
    DbCall (Except Err Unit))
    else pure (.ok ())).Runs handle _ _ s
  split
  · exact hsame
  · exact hsame

section
variable (hsame : Untouched db s)
include hsame

lemma checkCooldown_reads : Reads db (checkCooldown 0 inv limits) s := by
  unfold checkCooldown
  split
  · refine ⟨trivial, fun tick => ?_⟩
    show (if decide (s.count 0 (.recipient inv.tenantID (foldEmail inv.email)) limits.resendCooldownStartMs ≠ 0) =
      true then
      (pure (.error (.sentinel .invitationResendTooSoon)) : DbCall (Except Err Unit)) else pure (.ok ())).Runs
        handle _ _ s
    split
    · exact hsame
    · exact hsame
  · exact hsame

lemma checkInviter_reads : Reads db (checkInviter 0 inv limits) s := by
  unfold checkInviter
  split
  · exact refusePast_reads _ _ _ _ hsame
  · exact hsame

lemma checkRecipient_reads : Reads db (checkRecipient 0 inv limits) s := by
  unfold checkRecipient
  split
  · exact refusePast_reads _ _ _ _ hsame
  · exact hsame

lemma lockCreate_reads : Reads db (lockCreate 0 inv) s := by
  have hlocked : Untouched db { s with advisory := s.advisory.take 0 (.tenant inv.tenantID) } :=
    ⟨hsame.rows, hsame.nextID⟩
  refine ⟨trivial, fun tick => ?_⟩
  split
  · exact ⟨trivial, fun _ => ⟨hlocked.rows, hlocked.nextID⟩⟩
  · exact hlocked

end

variable (hclean : db.rows.writes 0 = ∅) (hbelow : ∀ id row, db.rows.committed.lookup id = some row → id < db.nextID)
include hbelow in
lemma abandon_replaces (err : Err) (hsame : Untouched db s) :
    (abandon 0 err).Runs handle (fun _ _ => True) (fun _ s' => Replaced inv db s') s := by
  refine ⟨trivial, fun _ => ⟨?_, fun id row hrow => ?_, fun id old hold => .inl ?_⟩⟩
  · show (s.rows.rollback 0).writes 0 = ∅
    rw [writes_rollback, if_pos rfl]
  · have hlookup : s.rows.committed.lookup id = some row := hrow
    show id < s.nextID
    grind
  show s.rows.committed.lookup id = some old
  rw [hsame.rows]
  exact hold

include hclean hbelow in
lemma Replaced.of_untouched (hsame : Untouched db s) : Replaced inv db (s.replaced 0 inv) := by
  have hwrites : s.rows.writes 0 = ∅ := by
    rw [hsame.rows]
    exact hclean
  have hbut : InvitationDb.SameBut 0 s (s.revokePending 0 inv.tenantID (foldEmail inv.email)) :=
    InvitationDb.sameBut_foldl _
  have hnext : db.nextID ≤ (s.revokePending 0 inv.tenantID (foldEmail inv.email)).nextID := by
    rw [← hsame.nextID]
    exact hbut.nextID
  refine ⟨?_, fun id row hrow => ?_, fun id old hold => ?_⟩
  · exact InvitationDb.writes_commit _ 0
  · show id < (s.revokePending 0 inv.tenantID (foldEmail inv.email)).nextID + 1
    rw [InvitationDb.lookup_replaced inv hwrites] at hrow
    grind [Option.map_eq_some_iff]
  have hid := hbelow id old hold
  rw [InvitationDb.lookup_replaced inv hwrites, if_neg (by omega), hsame.rows, hold]
  split
  · rename_i hopen
    obtain ⟨row, hrow, hpending⟩ := (InvitationDb.mem_openIDs hwrites).mp hopen
    rw [hsame.rows, hold] at hrow
    cases hrow
    simp only [InvitationDb.isOpen, Scope.covers, Bool.and_eq_true, beq_iff_eq] at hpending
    exact .inr ⟨hpending.2, ⟨hpending.1.1.symm, hpending.1.2.symm⟩, rfl⟩
  · exact .inl rfl

include hclean hbelow in
lemma replaceInvitation_replaces (hsame : Untouched db s) :
    (replaceInvitation 0 inv).Runs handle (fun _ _ => True) (fun _ s' => Replaced inv db s') s := by
  have hreplaced : Replaced { inv with status := .pending, acceptedAtMs := 0 } db
      (s.replaced 0 { inv with status := .pending, acceptedAtMs := 0 }) := Replaced.of_untouched hclean hbelow hsame
  exact ⟨trivial, fun _ => ⟨trivial, fun _ => ⟨trivial, fun _ => ⟨hreplaced.clean, hreplaced.below, hreplaced.kept⟩⟩⟩⟩

include hclean hbelow in
/-- A create that runs alone. -/
lemma createLocked_replaces (inv : TenantInvitation) (limits : InvitationLimits) (hsame : Untouched db s) :
    (createLocked 0 inv limits).Runs handle (fun _ _ => True) (fun _ s' => Replaced inv db s') s := by
  refine .bind ((lockCreate_reads hsame).mono fun _ s1 hsame1 => ?_)
  refine .bind ((checkCooldown_reads hsame1).mono fun cooled s2 hsame2 => ?_)
  cases cooled with
  | error err => exact abandon_replaces hbelow err hsame2
  | ok _ =>
  refine .bind ((refusePast_reads _ _ _ _ hsame2).mono fun sent s3 hsame3 => ?_)
  cases sent with
  | error err => exact abandon_replaces hbelow err hsame3
  | ok _ =>
  refine .bind ((checkInviter_reads hsame3).mono fun byInviter s4 hsame4 => ?_)
  cases byInviter with
  | error err => exact abandon_replaces hbelow err hsame4
  | ok _ =>
  refine .bind ((checkRecipient_reads hsame4).mono fun toRecipient s5 hsame5 => ?_)
  cases toRecipient with
  | error err => exact abandon_replaces hbelow err hsame5
  | ok _ => exact replaceInvitation_replaces hclean hbelow hsame5

include hclean hbelow in
lemma createInvitation_replaces (inv : TenantInvitation) (limits : InvitationLimits) :
    (createInvitation 0 inv limits).Runs handle (fun _ _ => True) (fun _ s' => Replaced inv db s') db := by
  have hnothing : Replaced inv db db := ⟨hclean, hbelow, fun _ _ hold => .inl hold⟩
  unfold createInvitation
  split
  · exact hnothing
  split
  · exact hnothing
  split
  · exact hnothing
  split
  · exact hnothing
  split
  · exact hnothing
  refine ⟨trivial, fun tick => ?_⟩
  have hlocked := createLocked_replaces hclean hbelow
    { inv with createdAtMs := if inv.createdAtMs = 0 then tick.nowMs else inv.createdAtMs } limits ⟨rfl, rfl⟩
  exact hlocked.mono fun _ _ hreplaced => ⟨hreplaced.clean, hreplaced.below, hreplaced.kept⟩

end Alone
end identity.invitations
