import Identity.Events.Books

/-! Which rows there are: one for an event and a subscription, each under an id of its own. -/

namespace identity.events
open MemoryOutbox (claimDue)
open Pool (own start step_request)

/-- The row that a step added. -/
def enqueuedRow : Event Request.Response → Option Delivery
  | ⟨_, .enqueueDelivery d, .ok _⟩ => some d
  | _ => none

/-- The rows are of different events or of different subscriptions. -/
def Differ (d d' : Delivery) : Prop := d.eventID = d'.eventID → d.subscriptionID ≠ d'.subscriptionID

/-- Every row that was ever added stands in the index of pairs. -/
@[grind]
structure Indexed (m : MemoryOutbox) (trace : CallTrace) : Prop where
  row : ∀ id row, m.deliveries.lookup id = some row →
    m.dedupe.lookup (dedupeKey row.eventID row.subscriptionID) = some id
  added : ∀ d ∈ trace.filterMap enqueuedRow, m.dedupe.lookup (dedupeKey d.eventID d.subscriptionID) ≠ none
  once : (trace.filterMap enqueuedRow).Pairwise Differ

section
variable (hindexed : Indexed m trace)
include hindexed

lemma Indexed.quiet (hquiet : enqueuedRow event = none) : Indexed m (event :: trace) := by
  have hsame : (event :: trace).filterMap enqueuedRow = trace.filterMap enqueuedRow := List.filterMap_cons_none hquiet
  exact ⟨hindexed.row, hsame ▸ hindexed.added, hsame ▸ hindexed.once⟩

lemma Indexed.enqueue (d : Delivery) :
    Indexed (m.enqueueDelivery d).2 (⟨caller, .enqueueDelivery d, (m.enqueueDelivery d).1⟩ :: trace) := by
  rcases enqueueDelivery_cases m d with ⟨id, -, hseen⟩ | ⟨hnew, hstored⟩
  · rw [hseen]
    exact hindexed.quiet rfl
  rw [hstored]
  have hothers : ∀ {key}, m.dedupe.lookup key ≠ none → key ≠ dedupeKey d.eventID d.subscriptionID := by
    rintro key hthere rfl
    exact hthere hnew
  refine ⟨fun id row hrow => ?_, fun other hother => ?_, ?_⟩
  · grind
  · rcases List.mem_cons.mp hother with rfl | hold
    · rw [GoMap.lookup_insert_eq]
      simp
    · grind
  · refine List.pairwise_cons.mpr ⟨fun other hother hevent hsub => ?_, hindexed.once⟩
    exact hothers (hindexed.added other hother) (by rw [hevent, hsub])

/-- Recording an outcome does not change which pair a row is of. -/
lemma Indexed.record (hquiet : enqueuedRow event = none)
    (what id : String) (hevent : ∀ row, (f row).eventID = row.eventID)
    (hsub : ∀ row, (f row).subscriptionID = row.subscriptionID) : Indexed (m.record what id f).2 (event :: trace) := by
  refine quiet ?_ hquiet
  unfold MemoryOutbox.record
  split
  · exact hindexed
  · grind

lemma indexed_step (r : Request) : Indexed (handle r moment m).2 (⟨caller, r, (handle r moment m).1⟩ :: trace) := by
  cases r with
  | enqueueDelivery d => exact hindexed.enqueue d
  | claimDue now limit =>
    refine Indexed.quiet ?_ rfl
    show Indexed (m.claimDue now limit).2 trace
    unfold claimDue
    split
    · exact hindexed
    · exact ⟨hindexed.row, hindexed.added, hindexed.once⟩
  | markDelivered | reschedule | markFailed => exact hindexed.record rfl _ _ (fun _ => rfl) fun _ => rfl
  | _ => exact hindexed.quiet rfl

end

section Draws
variable {m : MemoryOutbox}

def drawnID : Event Request.Response → Option String
  | ⟨_, .newID, id⟩ => some id
  | _ => none

def Request.draws : Request → Bool
  | .newID => true
  | _ => false

/-- The id that a call has drawn and not used yet. -/
def unused (trace : CallTrace) (caller : Nat) : Option String :=
  (Pool.own trace caller).head?.bind drawnID

/-- No row stands under an id that somebody is about to use. -/
@[grind]
structure Fresh (m : MemoryOutbox) (trace : CallTrace) : Prop where
  drawn : ∀ id, m.deliveries.lookup id ≠ none → id ∈ trace.filterMap drawnID
  free : ∀ i id, unused trace i = some id → m.deliveries.lookup id = none
  apart : ∀ i j id, unused trace i = some id → unused trace j = some id → i = j

lemma mem_drawn_of_unused {id : String} (hunused : unused trace i = some id) : id ∈ trace.filterMap drawnID := by
  obtain ⟨event, hhead, hdrawn⟩ := Option.bind_eq_some_iff.mp hunused
  exact List.mem_filterMap.mpr ⟨event, (Pool.mem_of_mem_own (List.mem_of_mem_head? hhead)).1, hdrawn⟩

lemma unused_cons (event : Event Request.Response) (i : Nat) :
    unused (event :: trace) i = if i = event.caller then drawnID event else unused trace i := by
  obtain ⟨caller, r, resp⟩ := event
  unfold unused
  by_cases hi : i = caller
  · rw [if_pos hi, hi, Pool.own_cons_self]
    rfl
  · rw [if_neg hi, Pool.own_cons_ne (Ne.symm hi)]

/-- A step that draws nothing uses up what its caller had drawn, perhaps for a new row. -/
lemma Fresh.step (hfresh : Fresh m trace) (hdraws : drawnID event = none)
    (hrows : ∀ id, m'.deliveries.lookup id ≠ none → m.deliveries.lookup id ≠ none ∨
      unused trace event.caller = some id) :
    Fresh m' (event :: trace) := by
  have hkept : ∀ {i id}, unused (event :: trace) i = some id → i ≠ event.caller ∧ unused trace i = some id := by
    grind [unused_cons]
  refine ⟨fun id hrow => ?_, fun i id hunused => ?_, fun i j id hi hj => ?_⟩
  · grind [mem_drawn_of_unused]
  · grind
  · exact hfresh.apart i j id (hkept hi).2 (hkept hj).2

lemma Fresh.draw (hfresh : Fresh m trace) {id : String} (hnew : id ∉ trace.filterMap drawnID) :
    Fresh m (⟨caller, .newID, id⟩ :: trace) := by
  have hcons : (⟨caller, .newID, id⟩ :: trace : CallTrace).filterMap drawnID =
      id :: trace.filterMap drawnID := List.filterMap_cons_some rfl
  have hcases : ∀ {i other}, unused (⟨caller, .newID, id⟩ :: trace) i = some other →
      i = caller ∧ other = id ∨ i ≠ caller ∧ unused trace i = some other := by
    intro i other hunused
    rw [unused_cons] at hunused
    split at hunused
    · rename_i hi
      exact .inl ⟨hi, (Option.some.inj hunused).symm⟩
    · rename_i hi
      exact .inr ⟨hi, hunused⟩
  refine ⟨fun other hrow => ?_, fun i other hunused => ?_, fun i j other hi hj => ?_⟩
  · rw [hcons]
    exact .tail _ (hfresh.drawn other hrow)
  · grind
  · grind [mem_drawn_of_unused]

lemma record_rows (what id : String) (f : Delivery → Delivery) (other : String)
    (hrow : (m.record what id f).2.deliveries.lookup other ≠ none) : m.deliveries.lookup other ≠ none := by
  unfold MemoryOutbox.record at hrow
  split at hrow
  · exact hrow
  · grind

lemma fresh_step (hfresh : Fresh m trace) (hallowed : Allowed maxAttempts caller (Pool.own trace caller) r)
    (hdraws : r.draws = true → moment.id ∉ trace.filterMap drawnID) :
    Fresh (handle r moment m).2 (⟨caller, r, (handle r moment m).1⟩ :: trace) := by
  cases r with
  | newID => exact hfresh.draw (hdraws rfl)
  | enqueueDelivery d =>
    refine hfresh.step rfl fun id hrow => ?_
    change (m.enqueueDelivery d).2.deliveries.lookup id ≠ none at hrow
    rcases enqueueDelivery_cases m d with ⟨-, -, hseen⟩ | ⟨-, hstored⟩
    · rw [hseen] at hrow
      exact .inl hrow
    rw [hstored, GoMap.lookup_insert_eq] at hrow
    split at hrow
    · rename_i hid
      rw [hid]
      exact .inr (by rw [unused, hallowed.1]; rfl)
    · exact .inl hrow
  | claimDue now limit =>
    refine hfresh.step rfl fun id hrow => .inl ?_
    change (m.claimDue now limit).2.deliveries.lookup id ≠ none at hrow
    unfold claimDue at hrow
    split at hrow
    · exact hrow
    · exact hrow
  | markDelivered | reschedule | markFailed =>
    exact hfresh.step rfl fun other hrow => .inl (record_rows _ _ _ other hrow)
  | now | listActiveSubscriptions | deliver => exact hfresh.step rfl fun id hrow => .inl hrow

end Draws

/-! Every delivery is claimed by one worker at a time, sent a bounded number of times and
settled for good. -/

/-- Generated ids never repeat. -/
def DrawsFresh (pool : OutboxPool) (_ : Nat) (moment : Moment) (r : Request) : Prop :=
  r.draws = true → moment.id ∉ pool.trace.filterMap drawnID

instance (pool : OutboxPool) (caller : Nat) (moment : Moment) (r : Request) :
    Decidable (DrawsFresh pool caller moment r) :=
  inferInstanceAs (Decidable (_ → _))

@[grind]
structure OutboxInv (maxAttempts time : Int) (pool : OutboxPool) : Prop where
  books : Books maxAttempts time pool.store (desksOf pool.trace)
  indexed : Indexed pool.store pool.trace
  fresh : Fresh pool.store pool.trace
  clock : ∀ caller now, ⟨caller, .now, now⟩ ∈ pool.trace → now ≤ time

section Step
variable {r : Request}

lemma OutboxInv.later (hinv : OutboxInv maxAttempts time pool) (hle : time ≤ time') :
    OutboxInv maxAttempts time' pool :=
  ⟨hinv.books.later hle, hinv.indexed, hinv.fresh,
    fun caller now hnow => Int.le_trans (hinv.clock caller now hnow) hle⟩

/-- An id that is about to be used is nobody's. -/
lemma OutboxInv.enqueue_new (hinv : OutboxInv maxAttempts time pool)
    (hallowed : Allowed maxAttempts caller (Pool.own pool.trace caller) r) (hr : r = .enqueueDelivery d) :
    pool.store.deliveries.lookup d.id = none := by
  subst hr
  refine hinv.fresh.free caller d.id ?_
  rw [unused, hallowed.1]
  rfl

lemma OutboxInv.step (hinv : OutboxInv maxAttempts moment.time pool) (hmax : 1 ≤ maxAttempts)
    (hcall : pool.Awaits caller r next)
    (hallowed : Allowed maxAttempts caller (Pool.own pool.trace caller) r) (hdraws : DrawsFresh pool caller moment r) :
    OutboxInv maxAttempts moment.time (pool.step handle caller moment) := by
  rw [step_request hcall]
  refine ⟨?_, indexed_step hinv.indexed r, fresh_step hinv.fresh hallowed hdraws, fun other now hnow => ?_⟩
  · exact books_step hinv.books hmax hallowed (hinv.clock caller) fun d hr => hinv.enqueue_new hallowed hr
  rcases List.mem_cons.mp hnow with heq | hold
  · injection heq with _ hr hresp
    subst hr
    exact Int.le_of_eq (eq_of_heq hresp)
  · exact hinv.clock other now hold

/-- A row whose status is final is not touched and not sent. -/
lemma settled_step (hinv : OutboxInv maxAttempts moment.time pool)
    (hallowed : Allowed maxAttempts caller (Pool.own pool.trace caller) r) {id : String}
    (hrow : pool.store.deliveries.lookup id = some row) (hfinal : row.status ≠ .pending) :
    (handle r moment pool.store).2.deliveries.lookup id = some row ∧
      sends id ⟨caller, r, (handle r moment pool.store).1⟩ = false := by
  have hothers : ∀ d, (holding (own pool.trace caller)).head? = some d → id ≠ d.id := by
    rintro d hhead rfl
    obtain ⟨hheld, -, hpending, -⟩ := hinv.books.row caller d (List.mem_of_mem_head? hhead)
    grind
  have hrecord : ∀ d what f, Sent (own pool.trace caller) d →
      (pool.store.record what d.id f).2.deliveries.lookup id = some row := by
    intro d what f hsent
    unfold MemoryOutbox.record
    split
    · exact hrow
    · grind
  cases r with
  | enqueueDelivery d =>
    refine ⟨?_, rfl⟩
    show (pool.store.enqueueDelivery d).2.deliveries.lookup id = some row
    grind [hinv.enqueue_new, enqueueDelivery_cases]
  | claimDue now limit =>
    refine ⟨?_, rfl⟩
    show (pool.store.claimDue now limit).2.deliveries.lookup id = some row
    unfold claimDue
    split
    · exact hrow
    · exact hrow
  | deliver d => exact ⟨hrow, beq_eq_false_iff_ne.mpr (Ne.symm (hothers d hallowed.1))⟩
  | markDelivered _ | markFailed _ =>
    obtain ⟨d, hsent, rfl⟩ := hallowed
    exact ⟨hrecord d _ _ hsent, rfl⟩
  | reschedule _ attempts lastErr nextAttemptAt =>
    obtain ⟨d, hsent, rfl, -⟩ := hallowed
    exact ⟨hrecord d _ _ hsent, rfl⟩
  | now | newID | listActiveSubscriptions => exact ⟨hrow, rfl⟩

end Step

/-- What every call of the run asks for. -/
def TaskGuard (maxAttempts : Int) (tasks : List OutboxTask) (caller : Nat) (own : CallTrace) (r : Request) :
    Prop :=
  ∃ task, tasks[caller]? = some task ∧ Allowed maxAttempts caller own r

def TaskPost (tasks : List OutboxTask) (caller : Nat) (_ : CallTrace) (_ : Except String Unit) : Prop :=
  ∃ task, tasks[caller]? = some task ∧ True

def newPool (subs : GoMap String Subscription) (tasks : List OutboxTask) : OutboxPool :=
  Pool.start { subs := subs } (tasks.map OutboxTask.program)

lemma newPool_inv (hmax : 1 ≤ maxAttempts) (subs : GoMap String Subscription) (time : Int) :
    OutboxInv maxAttempts time (newPool subs tasks) := by
  have hnone : ∀ id, (newPool subs tasks).store.deliveries.lookup id = none := fun _ => rfl
  have hbounded : ((0 : Nat) : Int) ≤ maxAttempts := by omega
  refine ⟨⟨?_, ?_, ?_, ?_, ?_, ?_, ?_, fun _ => hbounded, fun _ _ => rfl⟩, ⟨?_, ?_, .nil⟩, ⟨?_, ?_, ?_⟩, ?_⟩
  · exact fun id row hrow => absurd hrow (by simp [hnone])
  · exact fun i d hd => by cases hd
  · exact fun i j d d' hd => by cases hd
  · exact fun i => List.nodup_nil
  · exact fun i d hd => absurd hd (by simp [desksOf, newPool, start, own, awaiting])
  · exact fun i d hd => absurd hd (by simp [desksOf, newPool, start, own, awaiting])
  · exact fun id row hrow => absurd hrow (by simp [hnone])
  · exact fun id row hrow => absurd hrow (by simp [hnone])
  · exact fun d hd => by cases hd
  · exact fun id hrow => absurd (hnone id) hrow
  · exact fun i id hunused => absurd hunused (by simp [unused, newPool, start, own])
  · exact fun i j id hunused => absurd hunused (by simp [unused, newPool, start, own])
  · exact fun caller now hnow => by cases hnow

/-- A row with a final status, and how often it has been sent. -/
structure SettledInv (maxAttempts : Int) (id : String) (row : Delivery) (count : Nat) (time : Int)
    (pool : OutboxPool) :
    Prop where
  inv : OutboxInv maxAttempts time pool
  row : pool.store.deliveries.lookup id = some row
  count : pool.trace.countP (sends id) = count

section
variable {pool : OutboxPool} (hmax : 1 ≤ maxAttempts) (hkeep :
  pool.Keep (TaskGuard maxAttempts tasks) (TaskPost tasks))
  (schedule : List (Nat × Moment)) (halong : pool.Along handle DrawsFresh schedule)
  (hclock : schedule.Pairwise fun turn later => turn.2.time ≤ later.2.time)
  (hfrom : ∀ turn ∈ schedule, first ≤ turn.2.time) (hto : ∀ turn ∈ schedule, turn.2.time ≤ time) (hle : first ≤ time)
include hmax hkeep halong hclock hfrom hto hle

/-- The invariant at the end of a run, at a time that is not before its last step. -/
lemma OutboxInv.run (hinv : OutboxInv maxAttempts first pool) :
    OutboxInv maxAttempts time (pool.run handle schedule) := by
  refine Pool.along_clocked Moment.time (OutboxInv maxAttempts) (fun _ _ _ hold => hold.later) ?_ hkeep hinv schedule
    halong hclock hfrom hto hle
  intro pool caller moment r next hinv hcall _ hguard hdraws
  obtain ⟨-, -, hallowed⟩ := hguard
  exact hinv.step hmax hcall hallowed hdraws

lemma SettledInv.run {id : String} {row : Delivery} {count : Nat} (hfinal : row.status ≠ .pending)
    (hinv : SettledInv maxAttempts id row count first pool) :
    SettledInv maxAttempts id row count time (pool.run handle schedule) := by
  refine Pool.along_clocked Moment.time (SettledInv maxAttempts id row count)
    (fun _ _ _ hold hle => ⟨hold.inv.later hle, hold.row, hold.count⟩) ?_ hkeep hinv schedule halong
      hclock hfrom hto hle
  intro pool caller moment r next hold hcall _ hguard hdraws
  obtain ⟨-, -, hallowed⟩ := hguard
  obtain ⟨hrow, hsends⟩ := settled_step hold.inv hallowed hold.row hfinal
  refine ⟨hold.inv.step hmax hcall hallowed hdraws, ?_, ?_⟩
  · rw [step_request hcall]
    exact hrow
  · grind [step_request, hold.count]

end

/-- At most one row has ever been added for an event and a subscription. -/
def OneRowEach (pool : OutboxPool) : Prop :=
  (pool.trace.filterMap enqueuedRow).Pairwise Differ ∧
    ∀ id id' row row', pool.store.deliveries.lookup id = some row → pool.store.deliveries.lookup id' = some row' →
      row.eventID = row'.eventID → row.subscriptionID = row'.subscriptionID → id = id'

/-- No two callers hold the same row, and none holds it twice. -/
def HeldByOne (pool : OutboxPool) : Prop :=
  (∀ i j d d', d ∈ holding (Pool.own pool.trace i) → d' ∈ holding (Pool.own pool.trace j) → d.id = d'.id → i = j) ∧
    ∀ i, ((holding (Pool.own pool.trace i)).map Delivery.id).Nodup

/-- A row that is settled stays as it is and is not sent again. -/
def StaysSettled (pool final : OutboxPool) : Prop :=
  ∀ id row, pool.store.deliveries.lookup id = some row → row.status ≠ .pending →
    final.store.deliveries.lookup id = some row ∧ final.trace.countP (sends id) = pool.trace.countP (sends id)

/-- A row that is about to be sent at a time is pending and due. -/
def SentWhenDue (pool : OutboxPool) (time : Int) : Prop :=
  ∀ caller d, pool.pending caller = some (.deliver d) →
    pool.store.deliveries.lookup d.id = some d ∧ d.status = .pending ∧ d.nextAttemptAt ≤ time

/-- Any interleaving of emitting and of workers that give up after `maxAttempts` attempts:
    what holds after `earlier`, and from there to the end of `later`. -/
theorem deliveries_claimed_once (maxAttempts : Int) (hmax : 1 ≤ maxAttempts) (subs : GoMap String Subscription)
    (tasks : List OutboxTask) (hpolicy : ∀ task ∈ tasks, task.GivesUpAt maxAttempts) (earlier later :
      List (Nat × Moment))
    (hclock : (earlier ++ later).Pairwise fun turn next => turn.2.time ≤ next.2.time)
    (hdraws : (newPool subs tasks).Along handle DrawsFresh (earlier ++ later)) :
    let pool := (newPool subs tasks).run handle earlier
    OneRowEach pool ∧ HeldByOne pool ∧ (∀ id, (pool.trace.countP (sends id) : Int) ≤ maxAttempts) ∧
      StaysSettled pool (pool.run handle later) ∧
      ∀ time, (∀ turn ∈ earlier, turn.2.time ≤ time) → SentWhenDue pool time := by
  intro pool
  obtain ⟨hearlier, hlater, hbetween⟩ := List.pairwise_append.mp hclock
  obtain ⟨halong, halong'⟩ := Pool.along_append.mp hdraws
  have hkeep : (newPool subs tasks).Keep (TaskGuard maxAttempts tasks) (TaskPost tasks) :=
    Pool.keep_start_of_mem (fun _ htask caller => OutboxTask.program_keeps (hpolicy _ htask) caller) _
  obtain ⟨first, last, hle, hbounds⟩ := Pool.exists_bounds Moment.time (earlier ++ later)
  have hin : ∀ turn ∈ earlier, first ≤ turn.2.time ∧ turn.2.time ≤ last :=
    fun turn hturn => hbounds turn (List.mem_append_left _ hturn)
  have hinv : ∀ time, (∀ turn ∈ earlier, turn.2.time ≤ time) → OutboxInv maxAttempts time pool :=
    fun time hto => OutboxInv.run hmax hkeep earlier halong hearlier
      (fun turn hturn => Int.le_trans (Int.min_le_left ..) (hin turn hturn).1) hto (Int.min_le_right ..)
      (newPool_inv hmax subs (min first time))
  have hnow := hinv last fun turn hturn => (hin turn hturn).2
  refine ⟨⟨hnow.indexed.once, fun id id' row row' hrow hrow' hevent hsub => ?_⟩, ⟨hnow.books.apart, hnow.books.nodup⟩,
    hnow.books.bounded, fun id row hrow hfinal => ?_, fun time hto caller d hpending => ?_⟩
  · grind
  · cases later with
    | nil => exact ⟨hrow, rfl⟩
    | cons turn rest =>
      -- the rest of the run starts at the time of its first step
      have hfrom := (List.pairwise_cons.mp hlater).1
      have hmid := hinv turn.2.time fun old hold => hbetween old hold turn (.head _)
      have hsettled := SettledInv.run hmax (hkeep.run earlier) (turn :: rest) halong' hlater
        (fun other hother => (List.mem_cons.mp hother).elim (fun heq => heq ▸ Int.le_refl _) (hfrom other))
        (fun other hother => (hbounds other (List.mem_append_right _ hother)).2)
        (hbounds turn (List.mem_append_right _ (.head _))).2 hfinal ⟨hmid, hrow, rfl⟩
      exact ⟨hsettled.row, hsettled.count⟩
  obtain ⟨next, hcall⟩ := Pool.request_of_pending hpending
  obtain ⟨-, -, hallowed⟩ := (hkeep.run earlier caller _ hcall).1
  obtain ⟨hheld, -, hstatus, hdue⟩ := (hinv time hto).books.row caller d (List.mem_of_mem_head? hallowed.1)
  exact ⟨hheld, hstatus, hdue⟩

def sampleEvent : LifecycleEvent where
  id := "event-1"
  type := .userCreated
  projectID := "project-1"
  occurredAt := some 1700000000000000000
  user := { id := "user-1", email := "u@example.com" }

def sampleSubs : GoMap String Subscription :=
  (∅ : GoMap String Subscription).insert "sub-1"
    { id := "sub-1", projectID := "project-1", url := "https://hook.example" }

def samplePublisher : OutboxPublisher where
  marshal e := .ok ("\x7b\"id\":\"" ++ e.id ++ "\"\x7d")

/-- One event, emitted twice, and two workers that try twice. -/
def sampleTasks : List OutboxTask :=
  [.emit samplePublisher sampleEvent, .emit samplePublisher sampleEvent, .processOnce (newWorker ⟨2, 10, 100⟩ 0),
    .processOnce (newWorker ⟨2, 10, 100⟩ 0)]

def sampleMoment (time : Int) (answer : Option String := none) : Moment := ⟨time, "row-" ++ toString time, answer⟩

/-- Both emit calls, then the first worker claims and fails to deliver. -/
def sampleEarlier : List (Nat × Moment) :=
  [(0, sampleMoment 1), (1, sampleMoment 2), (0, sampleMoment 3), (1, sampleMoment 4), (0, sampleMoment 5),
    (1, sampleMoment 6), (0, sampleMoment 7), (1, sampleMoment 8), (2, sampleMoment 9), (2, sampleMoment 10),
    (2, sampleMoment 11 (some "events: non-2xx response: 500")), (2, sampleMoment 12), (2, sampleMoment 13)]

/-- The second worker claims the row when it is due again and delivers it. -/
def sampleLater : List (Nat × Moment) :=
  [(3, sampleMoment 30), (3, sampleMoment 31), (3, sampleMoment 32), (3, sampleMoment 33), (3, sampleMoment 34)]

/-- One row, sent twice and delivered. -/
theorem sample_delivered_once :
    let pool := (newPool sampleSubs sampleTasks).run handle (sampleEarlier ++ sampleLater)
    pool.store.deliveries.keys.length = 1 ∧ pool.trace.countP (sends "row-5") = 2 ∧
      pool.store.deliveries.rows.map Delivery.status = [.delivered] ∧ OneRowEach pool ∧ HeldByOne pool := by
  have hall := deliveries_claimed_once 2 (by decide) sampleSubs sampleTasks
    (by simp [sampleTasks, OutboxTask.GivesUpAt, newWorker])
    (sampleEarlier ++ sampleLater) [] (by decide +kernel) (by decide +kernel)
  exact ⟨by decide +kernel, by decide +kernel, by decide +kernel, hall.1, hall.2.1⟩

end identity.events
