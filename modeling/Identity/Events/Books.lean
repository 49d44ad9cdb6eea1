import Identity.Events.Outbox

/-! What a worker holds, read off the steps it has taken, and what each call does when; the
account of every row, its status, its claim, its attempts and how often it has been sent; and
the books along a run. -/

namespace identity.events

/-- The row whose outcome a request records. -/
def recorded : Request → Option String
  | .markDelivered id _ => some id
  | .reschedule id _ _ _ => some id
  | .markFailed id _ _ => some id
  | _ => none

/-- The rows a step hands to its caller. -/
def handed : Event Request.Response → List Delivery
  | ⟨_, .claimDue _ _, .ok due⟩ => due
  | _ => []

/-- The rows a caller holds: those it was handed and has not recorded the outcome of. -/
def holding : CallTrace → List Delivery
  | [] => []
  | event :: rest =>
    match recorded event.req with
    | some id => (holding rest).eraseP fun d => d.id == id
    | none => handed event ++ holding rest

/-- The row a caller has sent and not recorded the outcome of. -/
def awaiting : CallTrace → Option Delivery
  | [] => none
  | ⟨_, .deliver d, _⟩ :: _ => some d
  | event :: rest => if (recorded event.req).isSome then none else awaiting rest

/-- The step sends the row. -/
@[grind =]
def sends (id : String) (event : Event Request.Response) : Bool :=
  match event.req with
  | .deliver d => d.id == id
  | _ => false

/-- The caller works on its first row and has sent it. -/
@[grind =]
def Sent (own : CallTrace) (d : Delivery) : Prop :=
  (holding own).head? = some d ∧ awaiting own = some d

/-- What a call asks for, given the steps it has taken. -/
def Allowed (maxAttempts : Int) (caller : Nat) (own : CallTrace) : Request → Prop
  | .enqueueDelivery d => own.head? = some ⟨caller, .newID, d.id⟩ ∧ d.status = .pending ∧ d.attempts = 0
  | .claimDue now _ => ⟨caller, .now, now⟩ ∈ own ∧ holding own = [] ∧ awaiting own = none
  | .deliver d => (holding own).head? = some d ∧ awaiting own = none
  | .markDelivered id _ => ∃ d, Sent own d ∧ id = d.id
  | .reschedule id attempts _ _ => ∃ d, Sent own d ∧ id = d.id ∧ attempts = d.attempts + 1 ∧ attempts < maxAttempts
  | .markFailed id _ _ => ∃ d, Sent own d ∧ id = d.id
  | .now => True
  | .newID => True
  | .listActiveSubscriptions _ => True

section Calls

lemma fanOut_keeps (e : LifecycleEvent) (payload : String) (now : Int) (subs : List Subscription) :
    (fanOut e payload now subs).Asks caller (Allowed maxAttempts caller) own := by
  induction subs generalizing own with
  | nil => trivial
  | cons s rest ih =>
    unfold fanOut
    split
    · exact ih
    refine ⟨trivial, fun id => ⟨⟨rfl, rfl, rfl⟩, fun answer => ?_⟩⟩
    cases answer with
    | ok _ => exact ih
    | error err =>
      show (if err = errDeliveryExists then fanOut e payload now rest
        else pure (.error ("events: Emit: enqueue delivery: " ++ err))).Keeps caller _ _ _
      split
      · exact ih
      · trivial

lemma emit_keeps (p : OutboxPublisher) (e : LifecycleEvent) :
    (p.emit e).Asks caller (Allowed maxAttempts caller) own := by
  unfold OutboxPublisher.emit
  split
  · trivial
  split
  · trivial
  refine Call.keeps_bind.mpr ?_
  have hdated : (dateEvent e).Asks caller (Allowed maxAttempts caller) own := by
    unfold dateEvent
    split
    · trivial
    · exact ⟨trivial, fun now => trivial⟩
  refine hdated.mono fun own' dated _ => ?_
  split
  · trivial
  · exact ⟨trivial, fun subs => ⟨trivial, fun now => fanOut_keeps _ _ _ _⟩⟩

variable {w : Worker}
section
variable (hpolicy : w.policy.maxAttempts = maxAttempts)
include hpolicy

/-- Working on the first row leaves the rest. -/
lemma attempt_keeps (hholding : holding own = d :: rest) (hidle : awaiting own = none) :
    (w.attempt d).Keeps caller (Allowed maxAttempts caller)
      (fun own' _ => holding own' = rest ∧ awaiting own' = none) own := by
  have hhead : (holding own).head? = some d := by rw [hholding, List.head?_cons]
  have hgiven : (holding own).eraseP (fun other => other.id == d.id) = rest := by
    rw [hholding, List.eraseP_cons_of_pos (by simp)]
  refine ⟨⟨hhead, hidle⟩, fun answer => ?_⟩
  have hsent : Sent (⟨caller, .deliver d, answer⟩ :: own) d := ⟨hhead, rfl⟩
  cases answer with
  | none => exact ⟨trivial, fun now => ⟨⟨d, hsent, rfl⟩, fun _ => ⟨hgiven, rfl⟩⟩⟩
  | some err =>
    by_cases hlast : d.attempts + 1 ≥ w.policy.maxAttempts
    · simp only [if_pos hlast]
      exact ⟨⟨d, hsent, rfl⟩, fun _ => ⟨hgiven, rfl⟩⟩
    simp only [if_neg hlast]
    have hmore : d.attempts + 1 < maxAttempts := hpolicy ▸ Int.not_le.mp hlast
    exact ⟨trivial, fun now => ⟨⟨d, hsent, rfl, rfl, hmore⟩, fun _ => ⟨hgiven, rfl⟩⟩⟩

lemma attemptAll_keeps (hholding : holding own = due) (hidle : awaiting own = none) :
    (w.attemptAll due).Asks caller (Allowed maxAttempts caller) own := by
  induction due generalizing own with
  | nil => trivial
  | cons d rest ih =>
    refine .bind ((attempt_keeps hpolicy hholding hidle).mono fun own' _ hafter => ?_)
    exact ih hafter.1 hafter.2

lemma processOnce_keeps : w.processOnce.Asks caller (Allowed maxAttempts caller) [] := by
  refine ⟨trivial, fun now => ⟨⟨.head _, rfl, rfl⟩, fun answer => ?_⟩⟩
  cases answer with
  | error err => trivial
  | ok due =>
    show (w.attemptAll due >>= fun _ => (pure (.ok ()) : OutboxCall (Except String Unit))).Keeps caller _ _ _
    refine .bind ((attemptAll_keeps hpolicy ?_ rfl).mono fun _ _ _ => trivial)
    exact List.append_nil due

end

/-- Every worker of the run gives up after the same number of attempts. -/
def OutboxTask.GivesUpAt (maxAttempts : Int) : OutboxTask → Prop
  | emit _ _ => True
  | processOnce w => w.policy.maxAttempts = maxAttempts

lemma OutboxTask.program_keeps {task : OutboxTask} (hpolicy : task.GivesUpAt maxAttempts) (caller : Nat) :
    task.program.Asks caller (Allowed maxAttempts caller) [] := by
  cases task with
  | emit p e => exact emit_keeps p e
  | processOnce w => exact processOnce_keeps hpolicy

end Calls
open GoMap MemoryOutbox

/-- Who holds which rows, who has sent one, and how often each row has been sent. -/
structure Desks where
  held : Nat → List Delivery
  sent : Nat → Option Delivery
  count : String → Nat

variable {m : MemoryOutbox}

/-- What is true of the rows at a time. -/
@[grind]
structure Books (maxAttempts time : Int) (m : MemoryOutbox) (desks : Desks) : Prop where
  keyed : ∀ id row, m.deliveries.lookup id = some row → row.id = id
  row : ∀ i d, d ∈ desks.held i → m.deliveries.lookup d.id = some d ∧ m.isClaimed d.id = true ∧
    d.status = .pending ∧ d.nextAttemptAt ≤ time
  apart : ∀ i j d d', d ∈ desks.held i → d' ∈ desks.held j → d.id = d'.id → i = j
  nodup : ∀ i, ((desks.held i).map Delivery.id).Nodup
  sent_held : ∀ i d, desks.sent i = some d → d ∈ desks.held i
  sent_count : ∀ i d, desks.sent i = some d → (desks.count d.id : Int) = d.attempts + 1
  waiting : ∀ id row, m.deliveries.lookup id = some row → row.status = .pending →
    row.attempts < maxAttempts ∧ ((∀ i d, desks.sent i = some d → d.id ≠ id) → (desks.count id : Int) = row.attempts)
  bounded : ∀ id, (desks.count id : Int) ≤ maxAttempts
  unknown : ∀ id, m.deliveries.lookup id = none → desks.count id = 0

namespace Books
section
variable (hbooks : Books maxAttempts time m desks)
include hbooks

lemma later (hle : time ≤ time') : Books maxAttempts time' m desks where
  keyed := hbooks.keyed
  row i d hd := by grind
  apart := hbooks.apart
  nodup := hbooks.nodup
  sent_held := hbooks.sent_held
  sent_count := hbooks.sent_count
  waiting := hbooks.waiting
  bounded := hbooks.bounded
  unknown := hbooks.unknown

/-- A row that its holder has not sent has been sent as often as it has been attempted. -/
lemma count_of_idle (hheld : d ∈ desks.held i)
    (hidle : desks.sent i = none) : (desks.count d.id : Int) = d.attempts ∧ d.attempts < maxAttempts := by
  obtain ⟨hrow, -, hpending, -⟩ := hbooks.row i d hheld
  obtain ⟨hmore, hcount⟩ := hbooks.waiting _ _ hrow hpending
  refine ⟨hcount fun j other hsent hsame => ?_, hmore⟩
  have hother := hbooks.apart j i other d (hbooks.sent_held j other hsent) hheld hsame
  rw [hother, hidle] at hsent
  cases hsent

/-- A new row is nobody's and has not been sent. -/
lemma enqueue (hfresh : m.deliveries.lookup d.id = none) (hattempts : d.attempts = 0) (hmax : 1 ≤ maxAttempts) :
    Books maxAttempts time (m.enqueueDelivery d).2 desks := by
  rcases enqueueDelivery_cases m d with ⟨id, -, hseen⟩ | ⟨-, hnew⟩
  · rw [hseen]
    exact hbooks
  rw [hnew]
  have hheld : ∀ i other, other ∈ desks.held i → other.id ≠ d.id := by grind
  refine { hbooks with keyed := ?_, row := ?_, waiting := ?_, unknown := ?_ }
  · grind
  · intro i other hother
    rw [lookup_insert_eq, if_neg (hheld i other hother)]
    exact hbooks.row i other hother
  · grind
  · grind

end
end Books

lemma mem_due (hd : d ∈ m.due now) : ∃ id, m.deliveries.lookup id = some d ∧
    d.status = .pending ∧ m.isClaimed id = false ∧ d.nextAttemptAt ≤ now := by
  obtain ⟨entry, hentry, rfl⟩ := List.mem_map.mp hd
  obtain ⟨hmem, hcond⟩ := List.mem_filter.mp hentry
  simp only [Bool.and_eq_true, decide_eq_true_eq, Bool.not_eq_true'] at hcond
  exact ⟨entry.1, AList.mem_lookup_iff.mpr hmem, hcond.1.1, hcond.1.2, hcond.2⟩

lemma due_nodup (hkeyed : ∀ id row, m.deliveries.lookup id = some row → row.id = id) :
    ((m.due now).map Delivery.id).Nodup := by
  have hkeys : (m.due now).map Delivery.id = (m.deliveries.entries.filter fun entry =>
      decide (entry.2.status = .pending) && !m.isClaimed entry.1 && decide (entry.2.nextAttemptAt ≤ now)).keys := by
    rw [MemoryOutbox.due, List.map_map]
    refine List.map_congr_left fun entry hentry => ?_
    exact hkeyed _ _ (AList.mem_lookup_iff.mpr (List.mem_of_mem_filter hentry))
  rw [hkeys]
  exact (m.deliveries.nodupKeys.sublist List.filter_sublist)

lemma isClaimed_claim (batch : List Delivery) (id : String) :
    (m.claim batch).isClaimed id = (m.isClaimed id || batch.any fun d => d.id == id) := by
  induction batch generalizing m with
  | nil => rw [List.any_nil, Bool.or_false]; rfl
  | cons d rest ih =>
    have hstep : m.claim (d :: rest) = MemoryOutbox.claim { m with claimed := m.claimed.insert d.id true } rest := rfl
    have hfirst : isClaimed { m with claimed := m.claimed.insert d.id true } id =
        (m.isClaimed id || d.id == id) := by
      simp only [isClaimed, lookup_insert_eq]
      by_cases hid : id = d.id
      · simp [hid]
      · simp [hid, Ne.symm hid]
    rw [hstep, ih, hfirst, List.any_cons, Bool.or_assoc]

lemma claimDue_ok (hok : (m.claimDue now limit).1 = .ok batch) :
    (m.claimDue now limit).2 = m.claim batch ∧ (∀ d ∈ batch, d ∈ m.due now) ∧
      ((∀ id row, m.deliveries.lookup id = some row → row.id = id) → (batch.map Delivery.id).Nodup) := by
  unfold MemoryOutbox.claimDue at hok ⊢
  split at hok
  · cases hok
  · grind [List.perm_insertionSort, due_nodup]

lemma claimDue_error (herr : (m.claimDue now limit).1 = .error err) : (m.claimDue now limit).2 = m := by
  unfold MemoryOutbox.claimDue at herr ⊢
  split at herr
  · rename_i hlimit
    rw [if_pos hlimit]
  · cases herr

namespace Books
section
variable (hbooks : Books maxAttempts time m desks)
include hbooks

/-- A batch that is claimed was nobody's. -/
lemma claim (hnow : now ≤ time) (hnone : desks.held i = []) (hdue : ∀ d ∈ batch, d ∈ m.due now)
    (hnodup : (batch.map Delivery.id).Nodup) :
    Books maxAttempts time (m.claim batch) { desks with held := Function.update desks.held i batch } := by
  have hrow : ∀ d ∈ batch, m.deliveries.lookup d.id = some d ∧ d.status = .pending ∧ m.isClaimed d.id = false ∧
      d.nextAttemptAt ≤ now := by
    intro d hd
    obtain ⟨id, hlookup, hpending, hfree, htime⟩ := mem_due (hdue d hd)
    obtain rfl := hbooks.keyed id d hlookup
    exact ⟨hlookup, hpending, hfree, htime⟩
  have hheld : ∀ j d, d ∈ Function.update desks.held i batch j → j = i ∧ d ∈ batch ∨ d ∈ desks.held j := by grind
  refine { hbooks with row := ?_, apart := ?_, nodup := ?_, sent_held := ?_ }
  · intro j d hd
    rw [isClaimed_claim]
    rcases hheld j d hd with ⟨-, hbatch⟩ | hold
    · obtain ⟨hlookup, hpending, -, htime⟩ := hrow d hbatch
      have hmarked : (batch.any fun other => other.id == d.id) = true :=
        List.any_eq_true.mpr ⟨d, hbatch, beq_self_eq_true _⟩
      exact ⟨hlookup, by rw [hmarked, Bool.or_true], hpending, Int.le_trans htime hnow⟩
    · obtain ⟨hlookup, hclaimed, hpending, htime⟩ := hbooks.row j d hold
      exact ⟨hlookup, by rw [hclaimed, Bool.true_or], hpending, htime⟩
  · grind
  · grind
  · grind

/-- The holder of a row sends it. -/
lemma send (hhead : (desks.held i).head? = some d) (hidle : desks.sent i = none) :
    Books maxAttempts time m { desks with
      sent := Function.update desks.sent i (some d)
      count := Function.update desks.count d.id (desks.count d.id + 1) } := by
  have hheld : d ∈ desks.held i := List.mem_of_mem_head? hhead
  obtain ⟨hcount, hmore⟩ := hbooks.count_of_idle hheld hidle
  have hsent : ∀ j other, Function.update desks.sent i (some d) j = some other →
      j = i ∧ other = d ∨ j ≠ i ∧ desks.sent j = some other := by
    intro j other hother
    by_cases hj : j = i
    · grind
    · grind
  refine { hbooks with sent_held := ?_, sent_count := ?_, waiting := ?_, bounded := ?_, unknown := ?_ }
  · grind
  · grind
  · grind
  · grind
  · grind

/-- The holder of a row that it has sent records the outcome and gives the row up. -/
lemma record (hhead : (desks.held i).head? = some d)
    (hsent : desks.sent i = some d) (what : String) (hid : ∀ row, (f row).id = row.id)
    (hkept : (f d).status = .pending → (f d).attempts = d.attempts + 1 ∧ (f d).attempts < maxAttempts) :
    Books maxAttempts time (m.record what d.id f).2
      { desks with held := Function.update desks.held i (desks.held i).tail,
                   sent := Function.update desks.sent i none } := by
  have hheld : d ∈ desks.held i := List.mem_of_mem_head? hhead
  have hlist : desks.held i = d :: (desks.held i).tail := (List.eq_cons_of_mem_head? hhead)
  obtain ⟨hrow, -, -, -⟩ := hbooks.row i d hheld
  have hothers : ∀ j other, other ∈ Function.update desks.held i (desks.held i).tail j →
      other ∈ desks.held j ∧ other.id ≠ d.id := by
    intro j other hother
    by_cases hj : j = i
    · grind
    · grind
  have hsents : ∀ j other, Function.update desks.sent i none j = some other → j ≠ i ∧ desks.sent j = some other := by
    grind
  have hafter : (m.record what d.id f).2 =
      { m with deliveries := m.deliveries.insert d.id (f d), claimed := m.claimed.erase d.id } := by
    rw [MemoryOutbox.record, hrow]
  rw [hafter]
  refine { keyed := ?_, row := ?_, apart := ?_, nodup := ?_, sent_held := ?_, sent_count := ?_, waiting := ?_,
           bounded := hbooks.bounded, unknown := ?_ }
  · intro id row hlookup
    rw [lookup_insert_eq] at hlookup
    grind
  · intro j other hother
    obtain ⟨hold, hne⟩ := hothers j other hother
    obtain ⟨hlookup, hclaimed, hrest⟩ := hbooks.row j other hold
    refine ⟨?_, ?_, hrest⟩
    · rw [lookup_insert_eq, if_neg hne]
      exact hlookup
    · rw [isClaimed, lookup_erase_eq, if_neg hne]
      exact hclaimed
  · grind [hbooks.apart]
  · grind
  · grind
  · grind
  · intro id row hlookup hstatus
    rw [lookup_insert_eq] at hlookup
    split at hlookup
    · grind
    obtain ⟨hmore, hwaits⟩ := hbooks.waiting id row hlookup hstatus
    grind
  · grind

end
end Books
open Pool (own)

def desksOf (trace : CallTrace) : Desks where
  held i := holding (Pool.own trace i)
  sent i := awaiting (Pool.own trace i)
  count id := trace.countP (sends id)

/-- A step changes the desk of its caller. -/
lemma desksOf_cons (caller : Nat) (r : Request) (resp : r.Response) : desksOf (⟨caller, r, resp⟩ :: trace) =
      { held := Function.update (desksOf trace).held caller (holding (⟨caller, r, resp⟩ :: Pool.own trace caller))
        sent := Function.update (desksOf trace).sent caller (awaiting (⟨caller, r, resp⟩ :: Pool.own trace caller))
        count := fun id => (desksOf trace).count id + if sends id ⟨caller, r, resp⟩ then 1 else 0 } := by
  have hown : ∀ i, own (⟨caller, r, resp⟩ :: trace) i =
      if i = caller then ⟨caller, r, resp⟩ :: own trace caller else own trace i := by
    intro i
    by_cases hi : i = caller
    · rw [if_pos hi, hi, Pool.own_cons_self]
    · rw [if_neg hi, Pool.own_cons_ne (Ne.symm hi)]
  simp only [desksOf, Desks.mk.injEq]
  refine ⟨funext fun i => ?_, funext fun i => ?_, funext fun id => List.countP_cons ..⟩
  · grind
  · grind

/-- A step that neither hands out, sends nor records leaves every desk alone. -/
lemma desksOf_quiet (hrecorded : recorded r = none)
    (hhanded : handed ⟨caller, r, resp⟩ = []) (hsends : ∀ d, r ≠ .deliver d) :
    desksOf (⟨caller, r, resp⟩ :: trace) = desksOf trace := by
  have hholding : holding (⟨caller, r, resp⟩ :: own trace caller) = (desksOf trace).held caller := by
    rw [holding, hrecorded, hhanded]
    rfl
  have hawaiting : awaiting (⟨caller, r, resp⟩ :: own trace caller) = (desksOf trace).sent caller := by
    cases r with
    | deliver d => exact absurd rfl (hsends d)
    | markDelivered | reschedule | markFailed => cases hrecorded
    | _ => rfl
  have hcount : ∀ id, sends id ⟨caller, r, resp⟩ = false := by grind
  rw [desksOf_cons, hholding, hawaiting, Function.update_eq_self, Function.update_eq_self]
  simp only [hcount, Bool.false_eq_true, if_false, Nat.add_zero]

section Books
variable {moment : Moment}

/-- The desks after a row was sent and its outcome recorded. -/
lemma books_record (hrecorded : recorded r = some d.id)
    (hbooks : Books maxAttempts moment.time m (desksOf trace)) (hsent : Sent (Pool.own trace caller) d) (what : String)
    (hid : ∀ row, (f row).id = row.id)
    (hkept : (f d).status = .pending → (f d).attempts = d.attempts + 1 ∧ (f d).attempts < maxAttempts) :
    Books maxAttempts moment.time (m.record what d.id f).2 (desksOf (⟨caller, r, resp⟩ :: trace)) := by
  have hafter := hbooks.record hsent.1 hsent.2 what hid hkept
  have hlist : holding (own trace caller) = d :: (holding (own trace caller)).tail := List.eq_cons_of_mem_head? hsent.1
  have hholding : holding (⟨caller, r, resp⟩ :: own trace caller) = ((desksOf trace).held caller).tail := by
    rw [holding]
    grind [desksOf]
  have hawaiting : awaiting (⟨caller, r, resp⟩ :: own trace caller) = none := by
    cases r with
    | markDelivered | reschedule | markFailed => rfl
    | _ => cases hrecorded
  have hcount : ∀ id, sends id ⟨caller, r, resp⟩ = false := by
    intro id
    cases r with
    | deliver d => cases hrecorded
    | _ => rfl
  rw [desksOf_cons, hholding, hawaiting]
  simp only [hcount]
  exact hafter

/-- A step that a call takes keeps the books. -/
lemma books_step (hbooks : Books maxAttempts moment.time m (desksOf trace)) (hmax : 1 ≤ maxAttempts)
    (hallowed : Allowed maxAttempts caller (Pool.own trace caller) r)
    (hclock : ∀ now, ⟨caller, .now, now⟩ ∈ trace → now ≤ moment.time)
    (hfresh : ∀ d, r = .enqueueDelivery d → m.deliveries.lookup d.id = none) :
    Books maxAttempts moment.time (handle r moment m).2 (desksOf (⟨caller, r, (handle r moment m).1⟩ :: trace)) := by
  cases r with
  | now | newID | listActiveSubscriptions =>
    rw [desksOf_quiet rfl rfl (by simp)]
    exact hbooks
  | enqueueDelivery d =>
    rw [desksOf_quiet rfl rfl (by simp)]
    exact hbooks.enqueue (hfresh d rfl) hallowed.2.2 hmax
  | claimDue now limit =>
    obtain ⟨hnow, hnone, hidle⟩ := hallowed
    cases hanswer : (m.claimDue now limit).1 with
    | error err =>
      have hsame : (handle (.claimDue now limit) moment m).1 = .error err := hanswer
      rw [hsame, desksOf_quiet rfl rfl (by simp)]
      show Books maxAttempts moment.time (m.claimDue now limit).2 (desksOf trace)
      rw [claimDue_error hanswer]
      exact hbooks
    | ok batch =>
      obtain ⟨hstore, hdue, hnodup⟩ := claimDue_ok hanswer
      have hsame : (handle (.claimDue now limit) moment m).1 = .ok batch := hanswer
      rw [hsame, desksOf_cons]
      show Books maxAttempts moment.time (m.claimDue now limit).2 _
      have hafter := hbooks.claim (hclock now (Pool.mem_trace hnow)) (i := caller) hnone hdue (hnodup hbooks.keyed)
      have hholding : holding (⟨caller, .claimDue now limit, .ok batch⟩ :: own trace caller) = batch := by
        show batch ++ holding (own trace caller) = batch
        rw [hnone, List.append_nil]
      have hawaiting : awaiting (⟨caller, .claimDue now limit, .ok batch⟩ :: own trace caller) =
          (desksOf trace).sent caller := rfl
      rw [hstore, hholding, hawaiting, Function.update_eq_self]
      exact hafter
  | deliver d =>
    obtain ⟨hhead, hidle⟩ := hallowed
    have hafter := hbooks.send (i := caller) hhead hidle
    have hholding : holding (⟨caller, .deliver d, moment.answer⟩ :: own trace caller) =
        (desksOf trace).held caller := rfl
    have hcount : (fun id => (desksOf trace).count id +
        if sends id ⟨caller, .deliver d, moment.answer⟩ then 1 else 0) =
        Function.update (desksOf trace).count d.id ((desksOf trace).count d.id + 1) := by
      funext id
      by_cases hid : id = d.id
      · simp [hid, sends]
      · simp [Function.update_of_ne hid, sends, Ne.symm hid]
    show Books maxAttempts moment.time m (desksOf (⟨caller, .deliver d, moment.answer⟩ :: trace))
    rw [desksOf_cons, hcount, hholding, Function.update_eq_self]
    exact hafter
  | markDelivered id at' =>
    obtain ⟨d, hsent, rfl⟩ := hallowed
    exact books_record rfl hbooks hsent "MarkDelivered" (fun _ => rfl) (by simp)
  | reschedule id attempts lastErr nextAttemptAt =>
    obtain ⟨d, hsent, rfl, hattempts, hmore⟩ := hallowed
    exact books_record rfl hbooks hsent "Reschedule" (fun _ => rfl) fun _ => ⟨hattempts, hmore⟩
  | markFailed id attempts lastErr =>
    obtain ⟨d, hsent, rfl⟩ := hallowed
    exact books_record rfl hbooks hsent "MarkFailed" (fun _ => rfl) (by simp)

end Books
end identity.events
