import Mathlib.Order.Basic
import Mathlib.Algebra.Order.Ring.Int
import Identity.GoMap.Basic
import Identity.Interleaving.Condition

namespace identity.middleware
open Event (mk req)
open List (mem_cons)

structure TenantStatusKey where
  project : String
  tenant : String
deriving DecidableEq

structure TenantStatusEntry where
  status : String
  deadline : Int
deriving DecidableEq

/-- The settings of a cache. -/
structure TenantStatusCache where
  ttl : Int
  maxEntries : Nat

/-- A status as the inner store was given it. -/
structure StatusWrite where
  time : Int
  status : String
deriving DecidableEq

/-- The cache's entries and the inner store: what was written of each tenant's status, the
    newest first. Nothing has been swept before `lastSweep` is set. -/
structure TenantStatuses where
  entries : GoMap TenantStatusKey TenantStatusEntry := ∅
  lastSweep : Option Int := none
  written : TenantStatusKey → List StatusWrite

/-- What a step meets: the time, a fault of the inner store, and the entry that a loop over
    the map comes to first. -/
structure Moment where
  now : Int
  fault : Option String := none
  victim : Nat := 0

inductive TenantRequest where
  | clock
  | cached (key : TenantStatusKey)
  | source (key : TenantStatusKey)
  | store (key : TenantStatusKey) (entry : TenantStatusEntry)
  | write (key : TenantStatusKey) (status : String)
deriving DecidableEq

def TenantRequest.Response : TenantRequest → Type
  | clock => Int
  | cached _ => Option TenantStatusEntry
  | source _ => Except String String
  | store _ _ => Unit
  | write _ _ => Unit

namespace TenantStatuses
variable (w : TenantStatuses)

/-- The status now. -/
def current (key : TenantStatusKey) : Option String := (w.written key).head?.map StatusWrite.status

def read (fault : Option String) (key : TenantStatusKey) : Except String String :=
  match fault, w.current key with
  | some err, _ => .error err
  | none, none => .error "tenant not found"
  | none, some status => .ok status

def write (now : Int) (key : TenantStatusKey) (status : String) : TenantStatuses :=
  { w with written := fun other => if other = key then ⟨now, status⟩ :: w.written other else w.written other }

end TenantStatuses

namespace TenantStatusCache
variable (c : TenantStatusCache)

/-- Every expired entry goes, at most once per lifetime. -/
def sweep (now : Int) (w : TenantStatuses) : TenantStatuses :=
  if w.lastSweep.all fun last => now - last ≥ c.ttl then
    { w with lastSweep := some now, entries := w.entries.keep fun entry => now < entry.deadline }
  else w

/-- One arbitrary entry goes. -/
def dropOne (victim : Nat) (w : TenantStatuses) : TenantStatuses :=
  match w.entries.keys[victim % w.entries.keys.length]? with
  | none => w
  | some key => { w with entries := w.entries.erase key }

def makeRoom (m : Moment) (key : TenantStatusKey) (w : TenantStatuses) : TenantStatuses :=
  if w.entries.lookup key = none ∧ w.entries.keys.length ≥ c.maxEntries then
    let swept := c.sweep m.now w
    if swept.entries.keys.length ≥ c.maxEntries then dropOne m.victim swept else swept
  else w

/-- Record the entry, making room first when the cache is full. -/
def store (m : Moment) (key : TenantStatusKey) (entry : TenantStatusEntry) (w : TenantStatuses) : TenantStatuses :=
  let roomy := c.makeRoom m key w
  { roomy with entries := roomy.entries.insert key entry }

def handle : Handler TenantRequest.Response Moment TenantStatuses
  | .clock, m, w => (m.now, w)
  | .cached key, _, w => (w.entries.lookup key, w)
  | .source key, m, w => (w.read m.fault key, w)
  | .store key entry, m, w => ((), c.store m key entry w)
  | .write key status, m, w => ((), w.write m.now key status)

abbrev StatusCall (α : Type) := Call TenantRequest.Response α

def readClock : StatusCall Int := Call.ask TenantRequest.clock

def lookUp (key : TenantStatusKey) : StatusCall (Option TenantStatusEntry) := Call.ask (TenantRequest.cached key)

def readSource (key : TenantStatusKey) : StatusCall (Except String String) := Call.ask (TenantRequest.source key)

def record (key : TenantStatusKey) (entry : TenantStatusEntry) : StatusCall Unit :=
  Call.ask (TenantRequest.store key entry)

def fetch (key : TenantStatusKey) : StatusCall (Except String String) := do
  match ← readSource key with
  | .error err => return .error err
  | .ok status =>
    let now ← readClock
    record key ⟨status, now + c.ttl⟩
    return .ok status

/-- A fresh cached status without I/O, otherwise the source's answer, cached until the
    lifetime passes when it succeeded. -/
def serve (key : TenantStatusKey) (start : Int) : StatusCall (Except String String) := do
  match ← lookUp key with
  | some entry => if start < entry.deadline then return .ok entry.status else c.fetch key
  | none => c.fetch key

/-- Without a lifetime every lookup reads the source. -/
def getTenantStatus (key : TenantStatusKey) : StatusCall (Except String String) := do
  let start ← readClock
  if c.ttl ≤ 0 then readSource key else c.serve key start

end TenantStatusCache

/-- The calls of a run: lookups of a status, and writes of one. -/
inductive TenantCall where
  | get (key : TenantStatusKey)
  | set (key : TenantStatusKey) (status : String)

/-- A write answers nothing. -/
def TenantCall.program (c : TenantStatusCache) : TenantCall →
    TenantStatusCache.StatusCall (Option (Except String String))
  | .get key => c.getTenantStatus key >>= fun answer => pure (some answer)
  | .set key status =>
    (Call.ask (TenantRequest.write key status) : TenantStatusCache.StatusCall Unit) >>= fun _ => pure none

abbrev TenantPool := Pool TenantRequest.Response TenantStatuses (Option (Except String String))

/-- The status was the tenant's at some moment at `time` or later: a status stands until
    the next write. -/
def HeldSince (time : Int) (status : String) : List StatusWrite → Prop
  | [] => False
  | write :: older => write.status = status ∨ (time ≤ write.time ∧ HeldSince time status older)

lemma HeldSince.mono (hheld : HeldSince time status log) (hle : time' ≤ time) : HeldSince time' status log := by
  induction log with
  | nil => exact hheld
  | cons write older ih => exact hheld.imp_right fun h => ⟨le_trans hle h.1, ih h.2⟩

lemma HeldSince.write (hheld : HeldSince time status log) (hlate : time ≤ new.time) :
    HeldSince time status (new :: log) := .inr ⟨hlate, hheld⟩

variable {w : TenantStatuses}

lemma heldSince_current (hcurrent : w.current key = some status) (time : Int) :
    HeldSince time status (w.written key) := by
  unfold TenantStatuses.current at hcurrent
  cases hlog : w.written key with
  | nil => rw [hlog] at hcurrent; cases hcurrent
  | cons write older =>
    rw [hlog] at hcurrent
    exact .inl (Option.some.inj hcurrent)

lemma read_ok (hread : w.read fault key = .ok status) : w.current key = some status := by
  unfold TenantStatuses.read at hread
  split at hread
  · cases hread
  · cases hread
  · cases hread
    assumption

section Store
variable {c : TenantStatusCache} {m : Moment}

@[simp] lemma sweep_written : (c.sweep m.now w).written = w.written := by
  unfold TenantStatusCache.sweep
  split <;> rfl

@[simp] lemma dropOne_written : (TenantStatusCache.dropOne m.victim w).written = w.written := by
  unfold TenantStatusCache.dropOne
  split <;> rfl

lemma makeRoom_written : (c.makeRoom m key w).written = w.written := by
  unfold TenantStatusCache.makeRoom
  split
  · dsimp only
    split <;> simp
  · rfl

lemma sweep_lookup (hentry : (c.sweep m.now w).entries.lookup key = some entry) :
    w.entries.lookup key = some entry := by
  unfold TenantStatusCache.sweep at hentry
  split at hentry
  · exact (GoMap.lookup_keep_eq_some.mp hentry).1
  · exact hentry

lemma dropOne_lookup (hentry : (TenantStatusCache.dropOne victim w).entries.lookup key = some entry) :
    w.entries.lookup key = some entry := by
  unfold TenantStatusCache.dropOne at hentry
  split at hentry
  · exact hentry
  · grind

lemma store_lookup (hentry : (c.store m new row w).entries.lookup key = some entry) :
    (key = new ∧ entry = row) ∨ w.entries.lookup key = some entry := by
  have hinsert : ((c.makeRoom m new w).entries.insert new row).lookup key = some entry := hentry
  rw [GoMap.lookup_insert_eq] at hinsert
  split at hinsert
  · grind
  · -- room is made by deleting entries only
    unfold TenantStatusCache.makeRoom at hinsert
    split at hinsert
    · grind [sweep_lookup, dropOne_lookup]
    · exact .inr hinsert

end Store

def clockRead (caller : Nat) (now : Int) : Event TenantRequest.Response := ⟨caller, .clock, now⟩

def cacheHit (caller : Nat) (key : TenantStatusKey) (entry : TenantStatusEntry) : Event TenantRequest.Response :=
  ⟨caller, .cached key, some entry⟩

@[grind =]
def sourceRead (caller : Nat) (key : TenantStatusKey) (status : String) : Event TenantRequest.Response :=
  ⟨caller, .source key, .ok status⟩

/-- What a call may ask: an entry records a status the call has read, until a lifetime after
    a time the call has read. -/
def StatusGuard (c : TenantStatusCache) (caller : Nat) (own : List (Event TenantRequest.Response)) :
    TenantRequest → Prop
  | .store key entry => ∃ now, clockRead caller now ∈ own ∧ sourceRead caller key entry.status ∈ own ∧
      entry.deadline = now + c.ttl
  | _ => True

/-- Where an answer comes from: an entry that had not expired when the call began, or the
    inner store. -/
def Answered (c : TenantStatusCache) (call : TenantCall) (caller : Nat) (own : List (Event TenantRequest.Response))
    (result : Option (Except String String)) : Prop :=
  ∀ key status, call = .get key → result = some (.ok status) → ∃ start, own.getLast? = some (clockRead caller start) ∧
    ((0 < c.ttl ∧ ∃ entry, cacheHit caller key entry ∈ own ∧ start < entry.deadline ∧ entry.status = status) ∨
      sourceRead caller key status ∈ own)

section
variable (c : TenantStatusCache) (key : TenantStatusKey)

lemma fetch_keeps (hstart : own.getLast? = some (clockRead caller start)) :
    (c.fetch key).Keeps caller (StatusGuard c caller)
      (fun own' result => Answered c (.get key) caller own' (some result)) own := by
  refine ⟨trivial, fun answer => ?_⟩
  cases answer with
  | error err => exact fun _ _ _ hresult => by cases hresult
  | ok status =>
    refine ⟨trivial, fun now => ⟨⟨now, by simp [clockRead], by simp [sourceRead], rfl⟩, fun _ => ?_⟩⟩
    rintro key' status' hcall hresult
    grind

lemma serve_keeps (hlives : 0 < c.ttl)
    (hstart : own.getLast? = some (clockRead caller start)) : (c.serve key start).Keeps caller (StatusGuard c caller)
      (fun own' result => Answered c (.get key) caller own' (some result)) own := by
  have hkept : ∀ event : Event TenantRequest.Response, (event :: own).getLast? = some (clockRead caller start) := by
    intro event
    rw [List.getLast?_cons, hstart]
    rfl
  refine ⟨trivial, fun found => ?_⟩
  cases found with
  | none => exact fetch_keeps c key (hkept _)
  | some entry =>
    have hserved : (if start < entry.deadline then pure (.ok entry.status) else c.fetch key :
        TenantStatusCache.StatusCall (Except String String)).Keeps caller (StatusGuard c caller)
        (fun own' result => Answered c (.get key) caller own' (some result)) (cacheHit caller key entry :: own) := by
      split
      · rename_i hfresh
        intro key' status hcall hresult
        grind
      · exact fetch_keeps c key (hkept _)
    exact hserved

end

lemma program_keeps (c : TenantStatusCache) (call : TenantCall) (caller : Nat) :
    (call.program c).Keeps caller (StatusGuard c caller) (Answered c call caller) [] := by
  cases call with
  | set key status => exact ⟨trivial, fun _ _ _ hcall => by cases hcall⟩
  | get key =>
    refine Call.keeps_bind.mpr ⟨trivial, fun (start : Int) => ?_⟩
    have hrest : (if c.ttl ≤ 0 then TenantStatusCache.readSource key else c.serve key start).Keeps caller
        (StatusGuard c caller) (fun own' result => Answered c (.get key) caller own' (some result))
        [clockRead caller start] := by
      split
      · refine ⟨trivial, fun answer key' status hcall hresult => ?_⟩
        cases hcall
        cases hresult
        exact ⟨start, rfl, .inr (.head _)⟩
      · grind [serve_keeps]
    exact hrest

/-- The status a step read from the inner store. -/
def statusRead : Event TenantRequest.Response → Option (TenantStatusKey × String)
  | ⟨_, .source key, .ok status⟩ => some (key, status)
  | _ => none

/-- When a call reads the clock after the inner store, the status it has read still stands. -/
def StillStands (pool : TenantPool) (caller : Nat) (_ : Moment) : TenantRequest → Prop
  | .clock => ∀ event ∈ Pool.own pool.trace caller, ∀ found ∈ statusRead event,
      pool.store.current found.1 = some found.2
  | _ => True

instance (pool : TenantPool) (caller : Nat) (m : Moment) (q : TenantRequest) :
    Decidable (StillStands pool caller m q) := by
  unfold StillStands
  split <;> infer_instance

section Run
variable {w : TenantStatuses} {m : Moment}

/-- A run so far: every entry, and every one that was served, holds a status that stood when
    its lifetime began; every status that was read stood at all the times its call has read. -/
structure StatusRun (c : TenantStatusCache) (time : Int) (w : TenantStatuses) (trace :
    List (Event TenantRequest.Response)) :
    Prop where
  clocked : ∀ d now, clockRead d now ∈ trace → now ≤ time
  entries : ∀ key entry, w.entries.lookup key = some entry →
    entry.deadline - c.ttl ≤ time ∧ HeldSince (entry.deadline - c.ttl) entry.status (w.written key)
  hits : ∀ d key entry, cacheHit d key entry ∈ trace →
    entry.deadline - c.ttl ≤ time ∧ HeldSince (entry.deadline - c.ttl) entry.status (w.written key)
  reads : ∀ d now key status, clockRead d now ∈ trace → sourceRead d key status ∈ trace →
    HeldSince now status (w.written key)

lemma StatusRun.later (hrun : StatusRun c time w trace) (hle : time ≤ time') : StatusRun c time' w trace where
  clocked d now hmem := (hrun.clocked d now hmem).trans hle
  entries key entry hentry := ⟨(hrun.entries key entry hentry).1.trans hle, (hrun.entries key entry hentry).2⟩
  hits d key entry hmem := ⟨(hrun.hits d key entry hmem).1.trans hle, (hrun.hits d key entry hmem).2⟩
  reads := hrun.reads

/-- A write leaves what was held held. -/
lemma heldSince_write (hheld : HeldSince since status (w.written other)) (hle : since ≤ time) :
    HeldSince since status ((w.write time key new).written other) := by
  unfold TenantStatuses.write
  dsimp only
  split
  · exact hheld.write hle
  · exact hheld

section
variable (hrun : StatusRun c m.now w trace)
include hrun

lemma StatusRun.write (caller : Nat) (key : TenantStatusKey) (status : String) :
    StatusRun c m.now (w.write m.now key status) (⟨caller, .write key status, ()⟩ :: trace) where
  clocked d now hmem := by
    rcases mem_cons.mp hmem with heq | hold
    · cases congrArg req heq
    · exact hrun.clocked d now hold
  entries other entry hentry := by
    obtain ⟨hle, hheld⟩ := hrun.entries other entry hentry
    exact ⟨hle, heldSince_write hheld hle⟩
  hits d other entry hmem := by
    rcases mem_cons.mp hmem with heq | hold
    · cases congrArg req heq
    · obtain ⟨hle, hheld⟩ := hrun.hits d other entry hold
      exact ⟨hle, heldSince_write hheld hle⟩
  reads d now other status' hclock hread := by
    rcases mem_cons.mp hclock with heq | hclock
    · cases congrArg req heq
    rcases mem_cons.mp hread with heq | hread
    · cases congrArg req heq
    exact heldSince_write (hrun.reads d now other status' hclock hread) (hrun.clocked d now hclock)

lemma StatusRun.clock
    (hstands : ∀ event ∈ Pool.own trace caller, ∀ found ∈ statusRead event, w.current found.1 = some found.2) :
    StatusRun c m.now w (clockRead caller m.now :: trace) where
  clocked d now hmem := by
    rcases mem_cons.mp hmem with heq | hold
    · obtain ⟨-, -, hresp⟩ := mk.inj heq
      obtain rfl : now = m.now := eq_of_heq hresp
      exact le_refl _
    · exact hrun.clocked d now hold
  entries := hrun.entries
  hits d key entry hmem := by
    rcases mem_cons.mp hmem with heq | hold
    · cases congrArg req heq
    · exact hrun.hits d key entry hold
  reads d now key status hclock hread := by
    rcases mem_cons.mp hread with heq | hfound
    · cases congrArg req heq
    rcases mem_cons.mp hclock with heq | hclock
    · obtain ⟨rfl, -, hresp⟩ := mk.inj heq
      exact heldSince_current (hstands (sourceRead d key status) (Pool.mem_own hfound) (key, status) rfl) now
    · exact hrun.reads d now key status hclock hfound

/-- A step that reads neither the clock nor a status: what it finds in the cache is an entry. -/
lemma StatusRun.read (hclock : q ≠ .clock)
    (hwrite : ∀ key entry, q ≠ .store key entry) (hset : ∀ key status, q ≠ .write key status) :
    StatusRun c m.now (c.handle q m w).2 (⟨caller, q, (c.handle q m w).1⟩ :: trace) := by
  have hstore : (c.handle q m w).2 = w := by
    cases q with
    | store key entry => exact absurd rfl (hwrite key entry)
    | write key status => exact absurd rfl (hset key status)
    | _ => rfl
  have hold : ∀ d now, clockRead d now ∈ (⟨caller, q, (c.handle q m w).1⟩ :: trace :
    List (Event TenantRequest.Response)) →
      clockRead d now ∈ trace := by
    intro d now hmem
    rcases mem_cons.mp hmem with heq | hold
    · exact absurd (congrArg req heq).symm hclock
    · exact hold
  rw [hstore]
  refine ⟨fun d now hmem => hrun.clocked d now (hold d now hmem), hrun.entries, ?_, ?_⟩
  · intro d key entry hmem
    rcases mem_cons.mp hmem with heq | hmem
    · obtain ⟨rfl, rfl, hresp⟩ := mk.inj heq
      exact hrun.entries key entry (eq_of_heq hresp).symm
    · exact hrun.hits d key entry hmem
  intro d now key status hnow hread
  rcases mem_cons.mp hread with heq | hread
  · obtain ⟨rfl, rfl, hresp⟩ := mk.inj heq
    exact heldSince_current (read_ok (eq_of_heq hresp).symm) now
  · exact hrun.reads d now key status (hold d now hnow) hread

lemma StatusRun.store (hguard : StatusGuard c caller (Pool.own trace caller) (.store key entry)) :
    StatusRun c m.now (c.store m key entry w) (⟨caller, .store key entry, ()⟩ :: trace) := by
  obtain ⟨now, hclock, hread, hdeadline⟩ := hguard
  have hclock := (Pool.mem_trace hclock)
  have hread := (Pool.mem_trace hread)
  have hwritten : (c.store m key entry w).written = w.written := makeRoom_written
  refine ⟨?_, ?_, ?_, ?_⟩
  · intro d now hmem
    rcases mem_cons.mp hmem with heq | hold
    · cases congrArg req heq
    · exact hrun.clocked d now hold
  · intro other row hrow
    rw [hwritten]
    rcases store_lookup hrow with ⟨rfl, rfl⟩ | hrow
    · have hbegan : row.deadline - c.ttl = now := by omega
      rw [hbegan]
      exact ⟨hrun.clocked caller now hclock, hrun.reads caller now other row.status hclock hread⟩
    · exact hrun.entries other row hrow
  · intro d other row hmem
    rw [hwritten]
    rcases mem_cons.mp hmem with heq | hold
    · cases congrArg req heq
    · exact hrun.hits d other row hold
  intro d now' other status hclock' hread'
  rw [hwritten]
  rcases mem_cons.mp hclock' with heq | hclock'
  · cases congrArg req heq
  grind [hrun.reads]

end

lemma StatusRun.step (hrun : StatusRun c m.now pool.store pool.trace)
    (hcall : pool.Awaits caller q next) (hguard : StatusGuard c caller (Pool.own pool.trace caller) q)
    (hstands : StillStands pool caller m q) :
    StatusRun c m.now (pool.step c.handle caller m).store (pool.step c.handle caller m).trace := by
  rw [Pool.step_request hcall]
  cases q with
  | clock => exact hrun.clock hstands
  | cached | source => exact hrun.read nofun nofun nofun
  | store key entry => exact hrun.store hguard
  | write key status => exact hrun.write caller key status

end Run

/-- The calls, before any of them has moved, over an empty cache. -/
def statusStart (c : TenantStatusCache) (written : TenantStatusKey → List StatusWrite) (calls : List TenantCall) :
    TenantPool :=
  Pool.start { written } (calls.map (TenantCall.program c))

/-- Any number of lookups and writes of statuses, in any interleaving under a clock that
    does not go back: the status a call answers stood at some moment at most one lifetime
    before the call began, or since then. -/
theorem tenant_status_fresh (c : TenantStatusCache) (written : TenantStatusKey → List StatusWrite)
    (calls : List TenantCall)
    (schedule : List (Nat × Moment)) (hclock : schedule.Pairwise fun turn next => turn.2.now ≤ next.2.now)
    (hstands : Pool.Along c.handle StillStands (statusStart c written calls) schedule) :
    let pool := (statusStart c written calls).run c.handle schedule
    ∀ caller key status start, calls[caller]? = some (.get key) → pool.result caller = some (some (.ok status)) →
      (Pool.own pool.trace caller).getLast? = some (clockRead caller start) →
      HeldSince (start - max c.ttl 0) status (pool.store.written key) := by
  intro pool caller key status start hget hresult hfirst
  have hkeep : (statusStart c written calls).Keep _ _ :=
    Pool.keep_start (fun call caller => program_keeps c call caller) _
  obtain ⟨time, hrun⟩ : ∃ time, StatusRun c time pool.store pool.trace := by
    refine Pool.along_clocked_start Moment.now (fun time pool => StatusRun c time pool.store pool.trace)
      (fun _ _ _ hrun hle => hrun.later hle) (fun pool d m q next hrun hcall _ hguard hcond => ?_) hkeep
        (fun time => ?_)
      schedule hstands hclock
    · grind [hrun.step]
    · exact ⟨fun _ _ => nofun, fun _ _ => nofun, fun _ _ _ => nofun, fun _ _ _ _ => nofun⟩
  obtain ⟨call, hcall, hanswered⟩ := (hkeep.run schedule).result hresult
  cases hget.symm.trans hcall
  obtain ⟨start', hfirst', hsource⟩ := hanswered key status rfl rfl
  obtain ⟨-, -, hresp⟩ := Event.mk.inj (Option.some.inj (hfirst.symm.trans hfirst'))
  obtain rfl : start = start' := eq_of_heq hresp
  rcases hsource with ⟨hlives, entry, hhit, hfresh, rfl⟩ | hread
  · -- served: the entry's lifetime had begun less than a lifetime before the call
    exact (hrun.hits caller key entry (Pool.mem_trace hhit)).2.mono (by omega)
  · have hbegan := (Pool.mem_of_mem_own (List.mem_of_getLast? hfirst)).1
    exact (hrun.reads caller start key status hbegan (Pool.mem_trace hread)).mono (by omega)

def sampleTenant : TenantStatusKey := ⟨"shop", "acme"⟩

/-- A cache that keeps a status for ten ticks of the clock. -/
def sampleStatusCache : TenantStatusCache := ⟨10, 10000⟩

/-- Two lookups, and a suspension. -/
def sampleStatusCalls : List TenantCall := [.get sampleTenant, .set sampleTenant "suspended", .get sampleTenant]

def sampleStatusStart : TenantPool := statusStart sampleStatusCache (fun _ => [⟨0, "active"⟩]) sampleStatusCalls

/-- Which call moves when. -/
def sampleMoments (turns : List (Nat × Int)) : List (Nat × Moment) := turns.map fun turn => (turn.1, { now := turn.2 })

/-- A suspension between two lookups. -/
def sampleQuickRead : List (Nat × Int) := [(0, 0), (0, 0), (0, 0), (0, 0), (0, 0), (1, 5), (2, 8), (2, 8)]

/-- The first lookup reads the status at once and goes on a long time after the suspension. -/
def sampleSlowRead : List (Nat × Int) := [(0, 0), (0, 0), (0, 0), (1, 1), (0, 100), (0, 100), (2, 105), (2, 105)]

/-- The second lookup is served a status that was replaced three ticks before it began. -/
theorem tenant_status_fresh_served :
    (sampleStatusStart.run sampleStatusCache.handle (sampleMoments sampleQuickRead)).result 2 =
      some (some (.ok "active")) ∧
      HeldSince (8 - 10) "active"
        ((sampleStatusStart.run sampleStatusCache.handle (sampleMoments sampleQuickRead)).store.written
          sampleTenant) :=
  ⟨rfl, tenant_status_fresh sampleStatusCache (fun _ => [⟨0, "active"⟩]) sampleStatusCalls
    (sampleMoments sampleQuickRead)
    (by decide) (by decide) 2 sampleTenant "active" 8 rfl rfl rfl⟩

/-- A status that was read before a suspension is stored a hundred ticks later, and served
    for a lifetime from then on. -/
theorem slow_read_outlives_suspension :
    let pool := sampleStatusStart.run sampleStatusCache.handle (sampleMoments sampleSlowRead)
    pool.result 2 = some (some (.ok "active")) ∧ (Pool.own pool.trace 2).getLast? = some (clockRead 2 105) ∧
      ¬ HeldSince (105 - max sampleStatusCache.ttl 0) "active" (pool.store.written sampleTenant) := by
  refine ⟨rfl, rfl, ?_⟩
  have hlog : (sampleStatusStart.run sampleStatusCache.handle (sampleMoments sampleSlowRead)).store.written
    sampleTenant =
    [⟨1, "suspended"⟩, ⟨0, "active"⟩] := rfl
  rw [hlog]
  simp [HeldSince, sampleStatusCache]

end identity.middleware
