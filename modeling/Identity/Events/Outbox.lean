import Mathlib.Data.List.Sort
import Identity.GoMap.Basic
import Identity.Interleaving.Condition
import Identity.Service.LoginPolicy

/-! `pkg/events`: the outbox in memory, emitting an event into it, and the worker that drains it.
Times are nanoseconds since the epoch. -/

open identity.service (int64Mul)
namespace identity.events

inductive EventType where
  | userCreated
  | userUpdated
  | userDeactivated
  | userDeleted
  | userMerged
  /-- Any other wire name. -/
  | unknown (name : String)
deriving DecidableEq

def EventType.valid : EventType → Bool
  | unknown _ => false
  | _ => true

def EventType.name : EventType → String
  | userCreated => "user.created"
  | userUpdated => "user.updated"
  | userDeactivated => "user.deactivated"
  | userDeleted => "user.deleted"
  | userMerged => "user.merged"
  | unknown name => name

/-- The user of an event, as subscribers see it. -/
structure User where
  id : String
  email : String
  name : String := ""
  status : String := ""
  emailVerified : Bool := false
  mergedIntoUserID : String := ""
  kind : String := ""
  ownerUserID : String := ""
  pendingOwnerUserID : String := ""

/-- An `Event` of the source. No time is Go's zero time. -/
structure LifecycleEvent where
  id : String
  type : EventType
  projectID : String
  tenantID : String := ""
  occurredAt : Option Int := none
  user : User

inductive DeliveryStatus where
  | pending
  | delivered
  | failed
deriving DecidableEq

structure Subscription where
  id : String
  projectID : String
  tenantID : String := ""
  url : String := ""
  secret : String := ""
  /-- No types are all types. -/
  eventTypes : List EventType := []
  active : Bool := true

def Subscription.matches (s : Subscription) (e : LifecycleEvent) : Bool :=
  if s.active = false ∨ s.projectID ≠ e.projectID then false
  else if s.tenantID ≠ "" ∧ e.tenantID ≠ "" ∧ s.tenantID ≠ e.tenantID then false
  else s.eventTypes.isEmpty || s.eventTypes.contains e.type

/-- One event bound to one subscription, with the account of its attempts. -/
structure Delivery where
  id : String
  eventID : String
  subscriptionID : String
  url : String
  secret : String
  payload : String
  status : DeliveryStatus
  attempts : Int
  lastError : String
  nextAttemptAt : Int
  createdAt : Int
  updatedAt : Int
deriving DecidableEq

structure MemoryOutbox where
  deliveries : GoMap String Delivery := ∅
  dedupe : GoMap String String := ∅
  claimed : GoMap String Bool := ∅
  subs : GoMap String Subscription := ∅

def errDeliveryExists : String := "events: delivery already enqueued for this event/subscription"

def dedupeKey (eventID subID : String) : String := eventID ++ "\x00" ++ subID

/-- Older next attempt first, then by id. -/
def dueBefore (d d' : Delivery) : Bool :=
  if d.nextAttemptAt = d'.nextAttemptAt then decide (d.id ≤ d'.id) else decide (d.nextAttemptAt < d'.nextAttemptAt)

namespace MemoryOutbox
variable (m : MemoryOutbox)

def isClaimed (id : String) : Bool := (m.claimed.lookup id).getD false

def enqueueDelivery (d : Delivery) : Except String Unit × MemoryOutbox :=
  let key := dedupeKey d.eventID d.subscriptionID
  match m.dedupe.lookup key with
  | some _ => (.error errDeliveryExists, m)
  | none => (.ok (), { m with deliveries := m.deliveries.insert d.id d, dedupe := m.dedupe.insert key d.id })

/-- The pending rows that nobody works on and whose time has come. -/
def due (now : Int) : List Delivery :=
  (m.deliveries.entries.filter fun entry =>
    decide (entry.2.status = .pending) && !m.isClaimed entry.1 && decide (entry.2.nextAttemptAt ≤ now)).map
      fun entry => entry.2

def claim (batch : List Delivery) : MemoryOutbox :=
  { m with claimed := batch.foldl (fun claimed d => claimed.insert d.id true) m.claimed }

def claimDue (now limit : Int) : Except String (List Delivery) × MemoryOutbox :=
  if limit ≤ 0 then (.error "events: ClaimDue: limit must be > 0", m)
  else
    let batch := ((m.due now).insertionSort fun d d' => dueBefore d d' = true).take limit.toNat
    (.ok batch, m.claim batch)

/-- Record the outcome of an attempt on a row and give it up. -/
def record (what id : String) (f : Delivery → Delivery) : Except String Unit × MemoryOutbox :=
  match m.deliveries.lookup id with
  | none => (.error ("events: " ++ what ++ ": unknown delivery"), m)
  | some d => (.ok (), { m with deliveries := m.deliveries.insert id (f d), claimed := m.claimed.erase id })

def markDelivered (id : String) (at' : Int) : Except String Unit × MemoryOutbox :=
  m.record "MarkDelivered" id fun d => { d with status := .delivered, updatedAt := at' }

def reschedule (id : String) (attempts : Int) (lastErr : String) (nextAttemptAt : Int) :
    Except String Unit × MemoryOutbox :=
  m.record "Reschedule" id fun d =>
    { d with status := .pending, attempts := attempts, lastError := lastErr, nextAttemptAt := nextAttemptAt,
             updatedAt := nextAttemptAt }

def markFailed (id : String) (attempts : Int) (lastErr : String) : Except String Unit × MemoryOutbox :=
  m.record "MarkFailed" id fun d => { d with status := .failed, attempts := attempts, lastError := lastErr }

def listActiveSubscriptions (projectID : String) : List Subscription :=
  (m.subs.rows.filter fun s => s.active && s.projectID == projectID).insertionSort fun s s' => s.id ≤ s'.id

end MemoryOutbox

lemma enqueueDelivery_cases (m : MemoryOutbox) (d : Delivery) :
    (∃ id, m.dedupe.lookup (dedupeKey d.eventID d.subscriptionID) = some id ∧
      m.enqueueDelivery d = (.error errDeliveryExists, m)) ∨
    m.dedupe.lookup (dedupeKey d.eventID d.subscriptionID) = none ∧ m.enqueueDelivery d = (.ok (), { m with
        deliveries := m.deliveries.insert d.id d
        dedupe := m.dedupe.insert (dedupeKey d.eventID d.subscriptionID) d.id }) := by
  unfold MemoryOutbox.enqueueDelivery
  cases hseen : m.dedupe.lookup (dedupeKey d.eventID d.subscriptionID) with
  | some id => exact .inl ⟨id, rfl, by simp only [hseen]⟩
  | none => exact .inr ⟨rfl, by simp only [hseen]⟩

/-- The atomic steps of emitting and of delivering. Sending is a step of its own: the
    receiver answers while others move. -/
inductive Request where
  | now
  | newID
  | listActiveSubscriptions (projectID : String)
  | enqueueDelivery (d : Delivery)
  | claimDue (now limit : Int)
  | deliver (d : Delivery)
  | markDelivered (id : String) (at' : Int)
  | reschedule (id : String) (attempts : Int) (lastErr : String) (nextAttemptAt : Int)
  | markFailed (id : String) (attempts : Int) (lastErr : String)

@[reducible] def Request.Response : Request → Type
  | now => Int
  | newID => String
  | listActiveSubscriptions _ => List Subscription
  | enqueueDelivery _ => Except String Unit
  | claimDue _ _ => Except String (List Delivery)
  | deliver _ => Option String
  | markDelivered _ _ => Except String Unit
  | reschedule _ _ _ _ => Except String Unit
  | markFailed _ _ _ => Except String Unit

/-- The steps of a run, the latest first. -/
abbrev CallTrace : Type := List (Event Request.Response)

/-- What a step meets: the time, the id that is drawn and the receiver's answer, none when
    it acknowledges. -/
structure Moment where
  time : Int
  id : String := ""
  answer : Option String := none

def handle : Handler Request.Response Moment MemoryOutbox
  | .now, moment, m => (moment.time, m)
  | .newID, moment, m => (moment.id, m)
  | .listActiveSubscriptions projectID, _, m => (m.listActiveSubscriptions projectID, m)
  | .enqueueDelivery d, _, m => m.enqueueDelivery d
  | .claimDue now limit, _, m => m.claimDue now limit
  | .deliver _, moment, m => (moment.answer, m)
  | .markDelivered id at', _, m => m.markDelivered id at'
  | .reschedule id attempts lastErr nextAttemptAt, _, m => m.reschedule id attempts lastErr nextAttemptAt
  | .markFailed id attempts lastErr, _, m => m.markFailed id attempts lastErr

abbrev OutboxCall (α : Type) := Call Request.Response α

def readClock : OutboxCall Int := Call.ask Request.now

def newID : OutboxCall String := Call.ask Request.newID

/-- `json.Marshal` of an event. -/
structure OutboxPublisher where
  marshal : LifecycleEvent → Except String String

/-- The row of an event for one subscription. -/
def newDelivery (id : String) (e : LifecycleEvent) (s : Subscription) (payload : String) (now : Int) : Delivery where
  id := id
  eventID := e.id
  subscriptionID := s.id
  url := s.url
  secret := s.secret
  payload := payload
  status := .pending
  attempts := 0
  lastError := ""
  nextAttemptAt := now
  createdAt := now
  updatedAt := now

/-- One row per subscription that matches; a row that is there already is skipped. -/
def fanOut (e : LifecycleEvent) (payload : String) (now : Int) : List Subscription → OutboxCall (Except String Unit)
  | [] => return .ok ()
  | s :: rest => do
    if s.matches e = false then fanOut e payload now rest
    else
      let id ← newID
      match ← Call.ask (Request.enqueueDelivery (newDelivery id e s payload now)) with
      | .ok () => fanOut e payload now rest
      | .error err =>
        if err = errDeliveryExists then fanOut e payload now rest
        else return .error ("events: Emit: enqueue delivery: " ++ err)

def dateEvent (e : LifecycleEvent) : OutboxCall LifecycleEvent := do
  match e.occurredAt with
  | some _ => return e
  | none =>
    let now ← readClock
    return { e with occurredAt := some now }

def OutboxPublisher.emit (p : OutboxPublisher) (e : LifecycleEvent) : OutboxCall (Except String Unit) := do
  if e.id = "" then return .error "events: Emit: event id is required for idempotency"
  else if e.type.valid = false then return .error ("events: Emit: unknown event type \"" ++ e.type.name ++ "\"")
  else
    let dated ← dateEvent e
    match p.marshal dated with
    | .error err => return .error ("events: Emit: marshal event: " ++ err)
    | .ok payload =>
      let subs ← Call.ask (Request.listActiveSubscriptions dated.projectID)
      let now ← readClock
      fanOut dated payload now subs

structure RetryPolicy where
  maxAttempts : Int
  baseDelay : Int
  maxDelay : Int

def defaultRetryPolicy : RetryPolicy := ⟨6, 2 * 1000000000, 300 * 1000000000⟩

/-- The delay before the retry of an attempt, counted from 1: it doubles up to the maximum. -/
def RetryPolicy.backoff (rp : RetryPolicy) (attempt : Int) : Int :=
  let shift := max attempt 1 - 1
  if shift > 30 then rp.maxDelay
  else
    let d := int64Mul rp.baseDelay (2 ^ shift.toNat)
    if d ≤ 0 ∨ d > rp.maxDelay then rp.maxDelay else d

structure Worker where
  policy : RetryPolicy
  batch : Int

/-- The defaults of settings that are left out. -/
def newWorker (policy : RetryPolicy) (batch : Int) : Worker where
  policy := if policy.maxAttempts = 0 then defaultRetryPolicy else policy
  batch := if batch ≤ 0 then 50 else batch

namespace Worker
variable (w : Worker)

/-- Send the row and record the outcome. An error of the recording is only logged. -/
def attempt (d : Delivery) : OutboxCall Unit := do
  match ← Call.ask (Request.deliver d) with
  | none =>
    let now ← readClock
    let _ ← Call.ask (Request.markDelivered d.id now)
  | some err =>
    if d.attempts + 1 ≥ w.policy.maxAttempts then
      let _ ← Call.ask (Request.markFailed d.id (d.attempts + 1) err)
    else
      let now ← readClock
      let _ ← Call.ask (Request.reschedule d.id (d.attempts + 1) err (now + w.policy.backoff (d.attempts + 1)))

def attemptAll : List Delivery → OutboxCall Unit
  | [] => return ()
  | d :: rest => do
    w.attempt d
    attemptAll rest

def processOnce : OutboxCall (Except String Unit) := do
  let now ← readClock
  match ← Call.ask (Request.claimDue now w.batch) with
  | .error err => return .error ("events: worker: claim due: " ++ err)
  | .ok due =>
    w.attemptAll due
    return .ok ()

end Worker

/-- The calls of a run: emitting an event, and one pass of a worker. -/
inductive OutboxTask where
  | emit (p : OutboxPublisher) (e : LifecycleEvent)
  | processOnce (w : Worker)

def OutboxTask.program : OutboxTask → OutboxCall (Except String Unit)
  | emit p e => p.emit e
  | processOnce w => w.processOnce

abbrev OutboxPool := Pool Request.Response MemoryOutbox (Except String Unit)

end identity.events
