import Identity.Invitations.Alone

/-! An invitation acts once and its outcome is final, as long as nothing touches it while an
acceptance of it is under way. -/

open identity.service identity.postgres ReadCommitted
namespace identity.invitations
open Pool (own_step_ne own_step_self)

/-- The pending invitation that a call has read. -/
def readPending : CallTrace → Option (Nat × TenantInvitation)
  | [] => none
  | ⟨_, .getInvitationByTokenHash _, some found⟩ :: earlier =>
    if found.2.status = .pending then some found else readPending earlier
  | _ :: earlier => readPending earlier

/-- The invitation of the acceptance that is under way in a call. -/
def atWork (pool : ProjectPool) (i : Nat) : Option (Nat × TenantInvitation) :=
  if (pool.pending i).isSome then readPending (Pool.own pool.trace i) else none

/-- Whether a step grants from an invitation, or writes its status. -/
def touches (own : CallTrace) (id : Nat) (inv : TenantInvitation) : Request → Bool
  | .setInvitationStatus target _ _ => target == id
  | .grantMembership _ _ _ _ => (readPending own).any fun found => found.1 == id
  | .createInvitation new _ => new.tenantID == inv.tenantID && foldEmail new.email == foldEmail inv.email
  | _ => false

/-- A step does not touch an invitation that another call is accepting. -/
def Undisturbed (pool : ProjectPool) (caller : Nat) (_ : Moment) (r : Request) : Prop :=
  ∀ i < pool.calls.length, i ≠ caller →
    ∀ found, atWork pool i = some found → touches (Pool.own pool.trace caller) found.1 found.2 r = false

instance (pool : ProjectPool) (caller : Nat) (moment : Moment) (r : Request) :
    Decidable (Undisturbed pool caller moment r) :=
  inferInstanceAs (Decidable (∀ i < pool.calls.length, _))

def Request.isStatus : Request → Bool
  | setInvitationStatus _ _ _ => true
  | _ => false

/-- The call has not written a status. -/
def Unsettled (own : CallTrace) : Prop := ∀ event ∈ own, event.req.isStatus = false

def isGrant : Event Request.Response → Bool
  | ⟨_, .grantMembership _ _ _ _, (.ok _, _)⟩ => true
  | _ => false

/-- The call has granted a membership. -/
def Granted (own : CallTrace) : Prop := ∃ event ∈ own, isGrant event = true

/-- The call has granted a membership from the invitation. -/
def GrantedFrom (own : CallTrace) (id : Nat) : Prop :=
  Granted own ∧ ∃ inv, readPending own = some (id, inv)

variable {id : Nat}

lemma grantedFrom_iff :
    ((∃ event ∈ own, isGrant event = true) ∧ (readPending own).map Prod.fst = some id) ↔ GrantedFrom own id := by
  refine and_congr_right fun _ => Option.map_eq_some_iff.trans ⟨?_, ?_⟩
  · rintro ⟨⟨_, inv⟩, hread, rfl⟩
    exact ⟨inv, hread⟩
  · rintro ⟨inv, hread⟩
    exact ⟨(id, inv), hread, rfl⟩

instance (own : CallTrace) (id : Nat) : Decidable (GrantedFrom own id) :=
  decidable_of_iff _ grantedFrom_iff

/-- What a call asks for, given the steps it has taken: it writes one status, its last step, of
    the invitation it has read. -/
def MayAsk (own : CallTrace) (r : Request) : Prop :=
  Unsettled own ∧
    match r with
    | .setInvitationStatus id status _ => status ≠ .pending ∧ ∃ inv, readPending own = some (id, inv)
    | .grantMembership _ _ _ _ => ∃ id inv, readPending own = some (id, inv)
    | .getInvitationByTokenHash _ => own = []
    | .createInvitation _ _ => readPending own = none
    | _ => True

/-- A call that has granted has marked the invitation accepted. -/
def Marks (i : Nat) (own : CallTrace) : Prop :=
  Granted own → ∃ id at', ⟨i, .setInvitationStatus id .accepted at', ()⟩ ∈ own

lemma Unsettled.cons (hunsettled : Unsettled own) (hother : r.isStatus = false) : Unsettled (⟨i, r, resp⟩ :: own) :=
  List.forall_mem_cons.mpr ⟨hother, hunsettled⟩

def Request.isLookup : Request → Bool
  | getInvitationByTokenHash _ => true
  | _ => false

lemma readPending_cons (hother : r.isLookup = false) : readPending (⟨i, r, resp⟩ :: own) = readPending own := by
  cases r with
  | getInvitationByTokenHash => cases hother
  | _ => rfl

/-- A lookup answers with the invitation, or leaves what was read before. -/
lemma readPending_lookup (i : Nat) (tokenHash : String) (found : Option (Nat × TenantInvitation)) :
    readPending (⟨i, .getInvitationByTokenHash tokenHash, found⟩ :: own) = readPending own ∨
      ∃ id inv, found = some (id, inv) ∧ inv.status = .pending ∧
        readPending (⟨i, .getInvitationByTokenHash tokenHash, found⟩ :: own) = some (id, inv) := by
  cases found with
  | none => exact .inl rfl
  | some found =>
    by_cases hpending : found.2.status = .pending
    · exact .inr ⟨found.1, found.2, rfl, hpending, if_pos hpending⟩
    · exact .inl (if_neg hpending)

lemma Granted.of_cons (hother : isGrant event = false) (hgranted : Granted (event :: own)) : Granted own := by
  obtain ⟨granted, hmem, hgrant⟩ := hgranted
  rcases List.mem_cons.mp hmem with rfl | hold
  · cases hother.symm.trans hgrant
  · exact ⟨granted, hold, hgrant⟩

/-- A call that has neither written a status nor granted. -/
def Quiet (own : CallTrace) : Prop := Unsettled own ∧ ¬ Granted own

lemma Quiet.cons (hquiet : Quiet own) (hstatus : r.isStatus = false)
    (hgrant : isGrant ⟨i, r, resp⟩ = false) : Quiet (⟨i, r, resp⟩ :: own) :=
  ⟨hquiet.1.cons hstatus, fun hgranted => hquiet.2 (hgranted.of_cons hgrant)⟩

lemma Quiet.nil : Quiet [] := ⟨fun _ hevent => absurd hevent List.not_mem_nil, fun ⟨_, hmem, _⟩ => nomatch hmem⟩

lemma Quiet.marks (hquiet : Quiet own) : Marks i own := fun hgranted => absurd hgranted hquiet.2

section
variable (hquiet : Quiet own) (hread : readPending own = some (id, inv))
include hquiet hread

lemma redeem_keeps :
    (redeem callerID id inv).Keeps i MayAsk (fun own' _ => Marks i own') own := by
  refine .ask ⟨hquiet.1, id, inv, hread⟩ fun answer => ?_
  obtain ⟨result, written⟩ := answer
  cases result with
  | error err => exact (hquiet.cons rfl rfl).marks
  | ok m =>
    refine ⟨⟨hquiet.1.cons rfl, trivial⟩, fun now => ⟨⟨(hquiet.1.cons rfl).cons rfl, ?_, inv, ?_⟩, fun _ _ => ?_⟩⟩
    · simp
    · rw [readPending_cons rfl]
      exact hread
    · exact ⟨id, now, .head _⟩

lemma invitationExpired_keeps :
    (invitationExpired inv).Keeps i MayAsk (fun own' _ => Quiet own' ∧ readPending own' = some (id, inv)) own := by
  unfold invitationExpired
  split
  · refine ⟨⟨hquiet.1, trivial⟩, fun now => ⟨hquiet.cons rfl rfl, ?_⟩⟩
    exact hread
  · exact ⟨hquiet, hread⟩

end

lemma requireGovernableTenant_keeps (tenantID : String) (hquiet : Quiet own)
    (hread : readPending own = some (id, inv)) : (requireGovernableTenant tenantID).Keeps i MayAsk
      (fun own' _ => Quiet own' ∧ readPending own' = some (id, inv)) own := by
  refine .ask ⟨hquiet.1, trivial⟩ fun status => ?_
  have hafter : Quiet (⟨i, .getTenantStatus tenantID, status⟩ :: own) ∧
      readPending (⟨i, .getTenantStatus tenantID, status⟩ :: own) = some (id, inv) := by
    exact ⟨hquiet.cons rfl rfl, hread⟩
  cases status with
  | none => exact hafter
  | some status =>
    cases status with
    | latent | claimed | suspended => exact hafter

variable (toASCII : emailaddr.ToASCII)
section
variable (callerID : String) (hquiet : Quiet own) (hread : readPending own = some (id, inv))
include hquiet hread

lemma checkInvited_keeps : (checkInvited toASCII callerID inv).Keeps i MayAsk
      (fun own' _ => Quiet own' ∧ readPending own' = some (id, inv)) own := by
  refine .ask ⟨hquiet.1, trivial⟩ fun user => ?_
  have hquiet' : Quiet (⟨i, .getUserInProject callerID, user⟩ :: own) := hquiet.cons rfl rfl
  have hread' : readPending (⟨i, .getUserInProject callerID, user⟩ :: own) = some (id, inv) := by
    exact hread
  cases user with
  | none => exact ⟨hquiet', hread'⟩
  | some caller =>
    dsimp only
    -- the comparison of the addresses is not to be evaluated
    generalize emailaddr.sameMailbox toASCII caller.email inv.email = same
    cases same with
    | false => exact ⟨hquiet', hread'⟩
    | true =>
    show (if caller.emailVerified = false then _ else _ : ServiceCall (Except Err Unit)).Keeps i _ _ _
    split
    · exact ⟨hquiet', hread'⟩
    exact requireGovernableTenant_keeps inv.tenantID hquiet' hread'

lemma acceptPending_keeps :
    (acceptPending toASCII callerID id inv).Keeps i MayAsk (fun own' _ => Marks i own') own := by
  refine .bind ((invitationExpired_keeps hquiet hread).mono fun own1 expired hafter => ?_)
  obtain ⟨hquiet1, hread1⟩ := hafter
  cases expired with
  | true =>
    refine ⟨⟨hquiet1.1, by simp, inv, hread1⟩, fun _ hgranted => absurd (hgranted.of_cons rfl) hquiet1.2⟩
  | false =>
    refine .bind ((checkInvited_keeps toASCII callerID hquiet1 hread1).mono fun own2 checked hafter2 => ?_)
    obtain ⟨hquiet2, hread2⟩ := hafter2
    cases checked with
    | error err => exact hquiet2.marks
    | ok _ => exact redeem_keeps hquiet2 hread2

end

lemma acceptTenantInvitation_keeps (sha256Hex : String → String) (callerID rawToken : String) :
    (acceptTenantInvitation toASCII sha256Hex callerID rawToken).Keeps i MayAsk (fun own' _ => Marks i own') [] := by
  unfold acceptTenantInvitation
  split
  · exact Quiet.nil.marks
  split
  · exact Quiet.nil.marks
  refine .ask ⟨Quiet.nil.1, rfl⟩ fun found => ?_
  have hquiet : Quiet [⟨i, .getInvitationByTokenHash (sha256Hex (strings.trimSpace rawToken)), found⟩] :=
    Quiet.nil.cons rfl rfl
  cases found with
  | none => exact hquiet.marks
  | some found =>
    obtain ⟨id, inv⟩ := found
    show (if inv.status ≠ .pending then _ else _ : ServiceCall (Except Err Unit)).Keeps i _ _ _
    split
    · exact hquiet.marks
    · rename_i hpending
      exact acceptPending_keeps toASCII callerID hquiet (if_pos (Decidable.not_not.mp hpending))

lemma removeTenantMember_keeps (callerID tenantID targetUserID : String) :
    (removeTenantMember callerID tenantID targetUserID).Keeps i MayAsk (fun own' _ => Marks i own') [] := by
  unfold removeTenantMember
  split
  · exact Quiet.nil.marks
  split
  · exact Quiet.nil.marks
  split
  · exact Quiet.nil.marks
  refine .ask ⟨Quiet.nil.1, trivial⟩ fun admin => ?_
  have hquiet : Quiet [⟨i, .requireTenantAdmin (strings.trimSpace tenantID) callerID, admin⟩] := Quiet.nil.cons rfl rfl
  cases admin with
  | error err => exact hquiet.marks
  | ok _ =>
    refine .ask ⟨hquiet.1, trivial⟩ fun removed => ?_
    cases removed with
    | error | ok => exact (hquiet.cons rfl rfl).marks

variable (cfg : InvitationConfig)
variable (toASCII : emailaddr.ToASCII)

lemma createTenantInvitation_quiet (task : CreateTask) :
    (createTenantInvitation servicePort cfg toASCII task).Keeps i MayAsk (fun own' _ => Quiet own') [] := by
  unfold createTenantInvitation
  split
  · exact Quiet.nil
  split
  · exact Quiet.nil
  split
  · exact Quiet.nil
  split
  · exact Quiet.nil
  refine .ask ⟨Quiet.nil.1, trivial⟩ fun admin => ?_
  have hquiet : Quiet [⟨i, .requireTenantAdmin (strings.trimSpace task.tenantID) task.callerID, admin⟩] :=
    Quiet.nil.cons rfl rfl
  cases admin with
  | error err => exact hquiet
  | ok _ =>
    refine .ask ⟨hquiet.1, trivial⟩ fun tokenHash => ?_
    have hquiet1 : Quiet (⟨i, .randomToken, tokenHash⟩ :: _) := hquiet.cons rfl rfl
    refine .ask ⟨hquiet1.1, trivial⟩ fun now => ?_
    have hquiet2 : Quiet (⟨i, .now, now⟩ :: _) := hquiet1.cons rfl rfl
    exact ⟨⟨hquiet2.1, rfl⟩, fun _ => hquiet2.cons rfl rfl⟩

lemma InvitationTask.program_keeps (sha256Hex : String → String)
    (task : InvitationTask) : (task.program cfg toASCII sha256Hex).Keeps i MayAsk (fun own' _ => Marks i own') [] := by
  cases task with
  | accept callerID rawToken => exact acceptTenantInvitation_keeps toASCII sha256Hex callerID rawToken
  | create task =>
    exact .bind ((createTenantInvitation_quiet cfg toASCII task).mono fun own result hquiet => hquiet.marks)
  | remove callerID tenantID targetUserID => exact removeTenantMember_keeps callerID tenantID targetUserID

section Step
variable {db : InvitationDb}

lemma InvitationDb.getInvitationByTokenHash_some
    (hfound : db.getInvitationByTokenHash tokenHash = some (id, inv)) : db.rows.committed.lookup id = some inv := by
  unfold getInvitationByTokenHash at hfound
  split at hfound
  · cases hfound
  obtain ⟨entry, hentry, heq⟩ := Option.map_eq_some_iff.mp hfound
  cases heq
  exact AList.mem_lookup_iff.mpr (List.mem_of_find?_eq_some hentry)

/-- The row a status is written to, and the others. -/
lemma InvitationDb.lookup_setInvitationStatus (nowMs acceptedAtMs : Int) (id query : Nat) (status : InvitationStatus) :
    ∃ stamp, (db.setInvitationStatus nowMs id status acceptedAtMs).rows.committed.lookup query =
      if query = id then (db.rows.committed.lookup query).map fun inv => { inv with status, acceptedAtMs := stamp }
      else db.rows.committed.lookup query := by
  unfold setInvitationStatus
  cases hrow : db.rows.committed.lookup id with
  | none =>
    refine ⟨0, ?_⟩
    grind
  | some inv =>
    refine ⟨if status = .accepted ∧ acceptedAtMs = 0 then nowMs else acceptedAtMs, ?_⟩
    show (db.rows.committed.insert id _).lookup query = _
    grind

/-- Whether a step writes the status of an invitation. -/
def Writes (r : Request) (id : Nat) (old : TenantInvitation) : Prop :=
  match r with
  | .setInvitationStatus target _ _ => target = id
  | .createInvitation inv _ => old.status = .pending ∧ SameRecipient inv old
  | _ => False

/-- What a step does to the invitations that are there. -/
structure Settles (r : Request) (db db' : InvitationDb) : Prop where
  clean : db'.rows.writes 0 = ∅
  below : ∀ id row, db'.rows.committed.lookup id = some row → id < db'.nextID
  kept : ∀ id old, db.rows.committed.lookup id = some old → db'.rows.committed.lookup id = some old ∨
    Writes r id old ∧ ∃ new, db'.rows.committed.lookup id = some new ∧ new.status ≠ .pending

lemma serve_settles (moment : Moment) (hasks : MayAsk own r) (hclean : p.invites.rows.writes 0 = ∅)
    (hbelow : ∀ id row, p.invites.rows.committed.lookup id = some row → id < p.invites.nextID) :
    Settles r p.invites (serve r moment p).2.invites := by
  cases r with
  | setInvitationStatus id status acceptedAtMs =>
    have hsame : (p.invites.setInvitationStatus moment.nowMs id status acceptedAtMs).rows.writes 0 =
      p.invites.rows.writes 0 ∧
        (p.invites.setInvitationStatus moment.nowMs id status acceptedAtMs).nextID = p.invites.nextID := by
      unfold InvitationDb.setInvitationStatus
      cases p.invites.rows.committed.lookup id with
      | none | some => exact ⟨rfl, rfl⟩
    refine ⟨hsame.1.trans hclean, fun query row hrow => ?_, fun query old hold => ?_⟩
    · obtain ⟨stamp, hlookup⟩ := p.invites.lookup_setInvitationStatus moment.nowMs acceptedAtMs id query status
      have hafter : (p.invites.setInvitationStatus moment.nowMs id status acceptedAtMs).rows.committed.lookup query =
        some row := hrow
      rw [show (serve (.setInvitationStatus id status acceptedAtMs) moment p).2.invites.nextID =
        p.invites.nextID from hsame.2]
      grind [Option.map_eq_some_iff]
    obtain ⟨stamp, hlookup⟩ := p.invites.lookup_setInvitationStatus moment.nowMs acceptedAtMs id query status
    by_cases hquery : query = id
    · rw [if_pos hquery, hold] at hlookup
      exact .inr ⟨hquery.symm, _, hlookup, hasks.2.1⟩
    · rw [if_neg hquery, hold] at hlookup
      exact .inl hlookup
  | createInvitation inv limits =>
    have hreplaced := (createInvitation_replaces hclean hbelow inv limits).exec
      (Stream'.const { nowMs := moment.nowMs })
    refine ⟨hreplaced.clean, hreplaced.below, fun id old hold => ?_⟩
    rcases hreplaced.kept id old hold with hsame | ⟨hpending, hrecipient, hrevoked⟩
    · exact .inl hsame
    · exact .inr ⟨⟨hpending, hrecipient⟩, _, hrevoked, by simp [TenantInvitation.revoke]⟩
  | _ => exact ⟨hclean, hbelow, fun _ _ hold => .inl hold⟩

end Step

section Runs
variable {r : Request} {next : r.Response → ServiceCall (Except Err Unit)} {id : Nat}

lemma atWork_eq_some :
    atWork pool i = some found ↔ (pool.pending i).isSome = true ∧
      readPending (Pool.own pool.trace i) = some found := by
  unfold atWork
  split
  · grind
  · grind

lemma atWork_step_ne (hne : i ≠ caller) : atWork (pool.step serve caller moment) i = atWork pool i := by
  unfold atWork
  rw [Pool.pending_step_ne hne, own_step_ne hne]

/-- Of the calls that keep to `MayAsk` and end with `Marks`. -/
abbrev Guarded (pool : ProjectPool) : Prop :=
  pool.Keep (fun _ own r => MayAsk own r) (fun i own _ => Marks i own)

/-- The invitations that calls are at work on are pending, and those that were granted from are
    not, once the call is over. -/
@[grind]
structure Ongoing (pool : ProjectPool) : Prop where
  clean : pool.store.invites.rows.writes 0 = ∅
  below : ∀ id row, pool.store.invites.rows.committed.lookup id = some row → id < pool.store.invites.nextID
  unsettled : ∀ i id inv, atWork pool i = some (id, inv) →
    ∃ row, pool.store.invites.rows.committed.lookup id = some row ∧ row.status = .pending ∧ SameRecipient inv row
  spent : ∀ i id, GrantedFrom (Pool.own pool.trace i) id → (pool.pending i).isSome = true ∨
    ∃ row, pool.store.invites.rows.committed.lookup id = some row ∧ row.status ≠ .pending
  once : ∀ i j id, GrantedFrom (Pool.own pool.trace i) id → GrantedFrom (Pool.own pool.trace j) id → i = j

/-- A step that writes the status of an invitation touches it. -/
lemma Writes.touches (hwrites : Writes r id row)
    (hrecipient : SameRecipient inv row) : touches own id inv r = true := by
  cases r with
  | setInvitationStatus target status at' => exact beq_iff_eq.mpr hwrites
  | createInvitation new limits =>
    obtain ⟨-, hsame⟩ := hwrites
    simp [touches, hsame.1, hsame.2, hrecipient.1, hrecipient.2]
  | _ => exact False.elim hwrites

namespace Ongoing
variable (hongoing : Ongoing pool) (hcall : pool.Awaits caller r next)
  (hkeep : Guarded pool) (hundisturbed : Undisturbed pool caller moment r)

include hongoing hcall hkeep in
lemma settles (moment : Moment) : Settles r pool.store.invites (pool.step serve caller moment).store.invites := by
  rw [Pool.store_step hcall]
  exact serve_settles moment (hkeep caller _ hcall).1 hongoing.clean hongoing.below

include hcall in
lemma atWork_caller (hread : readPending (Pool.own pool.trace caller) = some (id, inv)) :
    atWork pool caller = some (id, inv) :=
  atWork_eq_some.mpr ⟨by rw [Pool.pending_of_request hcall]; rfl, hread⟩

/-- What a call has read after its step, it has just read or had read before. -/
lemma readPending_step (hread : readPending (Pool.own (pool.step serve caller moment).trace caller) = some (id, inv))
    (hcall : pool.Awaits caller r next) : readPending (Pool.own pool.trace caller) = some (id, inv) ∨
      inv.status = .pending ∧ pool.store.invites.rows.committed.lookup id = some inv ∧
        (∃ tokenHash, r = .getInvitationByTokenHash tokenHash) := by
  rw [own_step_self hcall] at hread
  by_cases hlookup : r.isLookup = false
  · rw [readPending_cons hlookup] at hread
    exact .inl hread
  cases r with
  | getInvitationByTokenHash tokenHash =>
    rcases readPending_lookup caller tokenHash (pool.store.invites.getInvitationByTokenHash tokenHash) with hsame |
      ⟨id', inv', hfound, hpending, hnow⟩
    · exact .inl (hsame.symm.trans hread)
    · cases hnow.symm.trans hread
      exact .inr ⟨hpending, InvitationDb.getInvitationByTokenHash_some hfound, tokenHash, rfl⟩
  | _ => exact absurd rfl hlookup

include hongoing hcall hkeep hundisturbed in
lemma open_step (hwork : atWork (pool.step serve caller moment) i = some (id, inv)) :
    ∃ row, (pool.step serve caller moment).store.invites.rows.committed.lookup id = some row ∧ row.status = .pending ∧
      SameRecipient inv row := by
  have hsettles := hongoing.settles hcall hkeep moment
  by_cases hself : i = caller
  · subst hself
    obtain ⟨hpending, hread⟩ := atWork_eq_some.mp hwork
    -- the call asks on, so it has not written a status
    obtain ⟨r', hr'⟩ := Option.isSome_iff_exists.mp hpending
    obtain ⟨next', hcall'⟩ := Pool.request_of_pending hr'
    have hunsettled := (hkeep.step (h := serve) i moment i _ hcall').1.1
    rw [own_step_self hcall] at hunsettled
    have hstatus : r.isStatus = false := hunsettled _ (.head _)
    rcases readPending_step hread hcall with hbefore | ⟨hnow, hlookup, tokenHash, rfl⟩
    · obtain ⟨row, hrow, hopen, hrecipient⟩ := hongoing.unsettled i id inv (atWork_caller hcall hbefore)
      rcases hsettles.kept id row hrow with hsame | ⟨hwrites, -⟩
      · exact ⟨row, hsame, hopen, hrecipient⟩
      have hasks := (hkeep i _ hcall).1
      cases r with
      | setInvitationStatus => cases hstatus
      | createInvitation => cases hbefore.symm.trans hasks.2
      | _ => exact False.elim hwrites
    refine ⟨inv, ?_, hnow, rfl, rfl⟩
    rcases hsettles.kept id inv hlookup with hsame | ⟨hwrites, -⟩
    · exact hsame
    · exact False.elim hwrites
  rw [atWork_step_ne hself] at hwork
  obtain ⟨row, hrow, hopen, hrecipient⟩ := hongoing.unsettled i id inv hwork
  rcases hsettles.kept id row hrow with hsame | ⟨hwrites, -⟩
  · exact ⟨row, hsame, hopen, hrecipient⟩
  have htouches := hundisturbed i (Pool.lt_length_of_pending (atWork_eq_some.mp hwork).1) hself _ hwork
  rw [hwrites.touches hrecipient] at htouches
  cases htouches

/-- A call that has just granted was at work on the invitation, and one that had granted before
    did so from the same one. -/
lemma granted_step (hcall : pool.Awaits caller r next) (hkeep : Guarded pool)
    (hgranted : GrantedFrom (Pool.own (pool.step serve caller moment).trace caller) id) :
    GrantedFrom (Pool.own pool.trace caller) id ∨
      ∃ inv tenantID userID source role, r = .grantMembership tenantID userID source role ∧
        readPending (Pool.own pool.trace caller) = some (id, inv) := by
  obtain ⟨hacted, inv, hread⟩ := hgranted
  have hasks := (hkeep caller _ hcall).1
  rw [own_step_self hcall] at hacted
  cases r with
  | grantMembership tenantID userID source role =>
    rw [own_step_self hcall] at hread
    exact .inr ⟨inv, tenantID, userID, source, role, rfl, hread⟩
  | getInvitationByTokenHash tokenHash =>
    -- the lookup is the first step of a call
    have hbefore := hacted.of_cons rfl
    rw [hasks.2] at hbefore
    exact absurd hbefore Quiet.nil.2
  | _ =>
    rw [own_step_self hcall] at hread
    exact .inl ⟨hacted.of_cons rfl, inv, hread⟩

include hongoing hcall hkeep in
/-- A call that ends having granted has marked the invitation. -/
lemma spent_step_self (hgranted : GrantedFrom (Pool.own (pool.step serve caller moment).trace caller) id)
    (hover : (pool.step serve caller moment).pending caller = none) :
    ∃ row, (pool.step serve caller moment).store.invites.rows.committed.lookup id = some row ∧
      row.status ≠ .pending := by
  have hafter := Pool.calls_step_self hcall (rfl : (serve r moment pool.store).1 = _)
  have hkept := hkeep.step (h := serve) caller moment caller _ hafter
  have hasks := (hkeep caller _ hcall).1
  cases hnext : next (serve r moment pool.store).1 with
  | request r' next' =>
    rw [hnext] at hafter
    rw [Pool.pending_of_request hafter] at hover
    cases hover
  | done result =>
    rw [hnext] at hkept
    obtain ⟨id', at', hmarked⟩ := hkept hgranted.1
    rw [own_step_self hcall] at hmarked
    rcases List.mem_cons.mp hmarked with heq | hold
    · injection heq with _ hr _
      subst hr
      obtain ⟨-, inv, hread⟩ := hgranted
      rw [own_step_self hcall] at hread
      obtain ⟨inv', hread'⟩ := hasks.2.2
      cases hread.symm.trans hread'
      obtain ⟨row, hrow, -, -⟩ := hongoing.unsettled caller id inv (atWork_caller hcall hread)
      obtain ⟨stamp, hlookup⟩ := pool.store.invites.lookup_setInvitationStatus moment.nowMs at' id id .accepted
      rw [if_pos rfl, hrow] at hlookup
      rw [Pool.store_step hcall]
      exact ⟨_, hlookup, by simp⟩
    · have := hasks.1 _ hold
      cases this

include hongoing hcall hkeep in
lemma spent_step (hgranted : GrantedFrom (Pool.own (pool.step serve caller moment).trace i) id) :
    ((pool.step serve caller moment).pending i).isSome = true ∨
      ∃ row, (pool.step serve caller moment).store.invites.rows.committed.lookup id = some row ∧
        row.status ≠ .pending := by
  by_cases hself : i = caller
  · subst hself
    cases hover : (pool.step serve i moment).pending i with
    | some r' => exact .inl rfl
    | none => exact .inr (hongoing.spent_step_self hcall hkeep hgranted hover)
  rw [own_step_ne hself] at hgranted
  rw [Pool.pending_step_ne hself]
  rcases hongoing.spent i id hgranted with hbusy | ⟨row, hrow, hsettled⟩
  · exact .inl hbusy
  rcases (hongoing.settles hcall hkeep moment).kept id row hrow with hsame | ⟨-, new, hnew, hstatus⟩
  · exact .inr ⟨row, hsame, hsettled⟩
  · exact .inr ⟨new, hnew, hstatus⟩

include hongoing hcall hundisturbed in
/-- A call that grants finds that no other call has. -/
lemma granted_alone (hr : r = .grantMembership tenantID userID source role)
    (hread : readPending (Pool.own pool.trace caller) = some (id, inv)) (hne : i ≠ caller) :
    ¬ GrantedFrom (Pool.own pool.trace i) id := by
  intro hgranted
  obtain ⟨row, hrow, hopen, -⟩ := hongoing.unsettled caller id inv (atWork_caller hcall hread)
  rcases hongoing.spent i id hgranted with hbusy | ⟨row', hrow', hsettled⟩
  · obtain ⟨-, inv', hread'⟩ := hgranted
    have htouches := hundisturbed i (Pool.lt_length_of_pending hbusy) hne _ (atWork_eq_some.mpr ⟨hbusy, hread'⟩)
    subst hr
    simp [touches, hread] at htouches
  · cases hrow.symm.trans hrow'
    exact hsettled hopen

include hongoing hcall hkeep hundisturbed in
lemma once_step (hi : GrantedFrom (Pool.own (pool.step serve caller moment).trace i) id)
    (hj : GrantedFrom (Pool.own (pool.step serve caller moment).trace j) id) : i = j := by
  by_cases hiself : i = caller
  · grind [own_step_ne, granted_step, hongoing.granted_alone]
  · grind [own_step_ne, granted_step, hongoing.granted_alone]

include hongoing hcall hkeep hundisturbed in
lemma step : Ongoing (pool.step serve caller moment) where
  clean := (hongoing.settles hcall hkeep moment).clean
  below := (hongoing.settles hcall hkeep moment).below
  unsettled _ _ _ := hongoing.open_step hcall hkeep hundisturbed
  spent _ _ := hongoing.spent_step hcall hkeep
  once _ _ _ := hongoing.once_step hcall hkeep hundisturbed

end Ongoing

/-- A step that grants finds its invitation pending, and one that finds an invitation settled
    leaves it as it is. -/
def Final (pool : ProjectPool) (caller : Nat) (moment : Moment) (r : Request) : Prop :=
  (∀ tenantID userID source role, r = .grantMembership tenantID userID source role →
    ∃ id inv row, readPending (Pool.own pool.trace caller) = some (id, inv) ∧
      pool.store.invites.rows.committed.lookup id = some row ∧ row.status = .pending) ∧
  ∀ id row, pool.store.invites.rows.committed.lookup id = some row → row.status ≠ .pending →
    (serve r moment pool.store).2.invites.rows.committed.lookup id = some row

lemma Ongoing.final (hongoing : Ongoing pool) (hcall : pool.Awaits caller r next)
    (hasks : MayAsk (Pool.own pool.trace caller) r) : Final pool caller moment r := by
  constructor
  · rintro tenantID userID source role rfl
    obtain ⟨id, inv, hread⟩ := hasks.2
    obtain ⟨row, hrow, hopen, -⟩ := hongoing.unsettled caller id inv (atWork_caller hcall hread)
    exact ⟨id, inv, row, hread, hrow, hopen⟩
  intro id row hrow hsettled
  rcases (serve_settles moment hasks hongoing.clean hongoing.below).kept id row hrow with hsame | ⟨hwrites, -⟩
  · exact hsame
  cases r with
  | setInvitationStatus target status at' =>
    obtain rfl : target = id := hwrites
    obtain ⟨inv, hread⟩ := hasks.2.2
    obtain ⟨row', hrow', hopen, -⟩ := hongoing.unsettled caller target inv (atWork_caller hcall hread)
    cases hrow.symm.trans hrow'
    exact absurd hopen hsettled
  | createInvitation new limits => exact absurd hwrites.1 hsettled
  | _ => exact False.elim hwrites

end Runs

section Settings
variable (cfg : InvitationConfig) (toASCII : emailaddr.ToASCII) (sha256Hex : String → String) (table : InvitationRows)
  (members : String → GoMap String TenantMembership) (tasks : List InvitationTask)

lemma projectPool_keep : Guarded (projectPool cfg toASCII sha256Hex table members tasks) := by
  intro caller call hcall
  rw [projectPool, Pool.start, List.getElem?_map, Option.map_eq_some_iff] at hcall
  obtain ⟨task, -, rfl⟩ := hcall
  exact task.program_keeps cfg toASCII sha256Hex

lemma Ongoing.start : Ongoing (projectPool cfg toASCII sha256Hex table members tasks) where
  clean := rfl
  below := table.below
  unsettled _ _ _ hwork := by cases (atWork_eq_some.mp hwork).2
  spent _ _ hgranted := absurd hgranted.1 Quiet.nil.2
  once _ _ _ hgranted := absurd hgranted.1 Quiet.nil.2

/-- As long as no step touches an invitation that another call is accepting, at most one call
    grants from an invitation, while it is pending, and a settled invitation stays as it is. -/
theorem invitation_acts_once (schedule : List (Nat × Moment))
    (hundisturbed : Pool.Along serve Undisturbed (projectPool cfg toASCII sha256Hex table members tasks) schedule) :
    (∀ i j id,
      GrantedFrom (Pool.own ((projectPool cfg toASCII sha256Hex table members tasks).run serve schedule).trace i) id →
      GrantedFrom (Pool.own ((projectPool cfg toASCII sha256Hex table members tasks).run serve schedule).trace j) id →
      i = j) ∧
    Pool.Along serve Final (projectPool cfg toASCII sha256Hex table members tasks) schedule := by
  have hkeep := projectPool_keep cfg toASCII sha256Hex table members tasks
  have hstart := Ongoing.start cfg toASCII sha256Hex table members tasks
  constructor
  · have hrun := Pool.along_invariant (fun pool caller moment r next (hongoing : Ongoing pool) hcall hkeep _ hcond =>
      hongoing.step hcall hkeep hcond) hkeep hstart schedule hundisturbed
    exact hrun.once
  exact Pool.along_conclude (fun pool caller moment r next (hongoing : Ongoing pool) hcall hkeep _ hcond =>
    hongoing.step hcall hkeep hcond) (fun pool caller moment r next hongoing hcall hasks _ =>
      hongoing.final hcall hasks)
    hkeep hstart schedule hundisturbed

end Settings

/-- The digest of the token "tok". -/
def sampleHash (raw : String) : String :=
  if raw = "tok" then "1a7674eb4ee78df7e1ac439a93c3fa8e3c945784d4dec9fd8e3011738b2f1d62" else ""

/-- One open invitation. -/
def invited : GoMap Nat TenantInvitation :=
  AList.insert 1
    { tenantID := "t", tokenHash := "1a7674eb4ee78df7e1ac439a93c3fa8e3c945784d4dec9fd8e3011738b2f1d62",
      email := "a@b.example", invitedBy := "x", role := .member, status := .pending, expiresAtMs := 86400001,
      acceptedAtMs := 0, createdAtMs := 1 } ∅

lemma invited_below : ∀ id row, invited.lookup id = some row → id < 2 :=
  GoMap.forall_lookup (P := fun key _ => key < 2) (by decide)

def invitedTable : InvitationRows := ⟨invited, 2, invited_below⟩

/-- The owner of the tenant. -/
def invitedMembers (tenantID : String) : GoMap String TenantMembership :=
  if tenantID = "t" then AList.insert "x" ⟨1, "x", .created, .owner, .active⟩ ∅ else ∅

/-- The user follows the link twice; the owner removes them and invites the address again. -/
def invitedTasks : List InvitationTask :=
  [.accept "u" "tok", .accept "u" "tok", .remove "x" "t" "u", .create ⟨"x", "t", "a@b.example", "member"⟩]

def invitedTurn (caller : Nat) : Nat × Moment := (caller, { nowMs := 4000000, user := some ⟨"a@b.example", true⟩ })

def invitedPool : ProjectPool := projectPool sampleConfig some sampleHash invitedTable invitedMembers invitedTasks

/-- One call after the other: the second acceptance and the removal find their work done. -/
def callsInTurn : List (Nat × Moment) := [0, 0, 0, 0, 0, 0, 0, 1, 2, 2, 3, 3, 3, 3].map invitedTurn

theorem calls_in_turn_accept_once : (∀ i j id, GrantedFrom (Pool.own (invitedPool.run serve callsInTurn).trace i) id →
      GrantedFrom (Pool.own (invitedPool.run serve callsInTurn).trace j) id → i = j) ∧
    Pool.Along serve Final invitedPool callsInTurn :=
  invitation_acts_once sampleConfig some sampleHash invitedTable invitedMembers invitedTasks callsInTurn
    (by decide +kernel)

/-- Both acceptances have read the invitation; between their grants the user is removed and the
    invitation revoked. The second grants from a revoked invitation and marks it accepted. -/
theorem revoked_invitation_redeemed :
    let before := invitedPool.run serve ([0, 0, 0, 0, 0, 1, 1, 1, 1, 2, 2, 3, 3, 3, 3].map invitedTurn)
    let after := before.run serve ([1, 1, 1].map invitedTurn)
    before.store.invites.rows.committed.lookup 1 = (invited.lookup 1).map TenantInvitation.revoke ∧
    (before.store.members "t").members.committed.lookup "u" = none ∧
    ((after.store.members "t").members.committed.lookup "u").isSome = true ∧
    after.store.invites.rows.committed.lookup 1 =
      (invited.lookup 1).map (fun inv => { inv with status := .accepted, acceptedAtMs := 4000000 }) ∧
    GrantedFrom (Pool.own after.trace 0) 1 ∧ GrantedFrom (Pool.own after.trace 1) 1 := by
  decide +kernel

end identity.invitations
