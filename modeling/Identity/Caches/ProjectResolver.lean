import Mathlib.Algebra.Order.Ring.Int
import Identity.Caches.Lru
import Identity.Interleaving.Condition

namespace identity.service
open Lru List
open List (mem_cons)

inductive ResolutionKind where
  | byCredential
  | byHostname
deriving DecidableEq

structure ResolutionKey where
  kind : ResolutionKind
  id : String
deriving DecidableEq

/-- A memoized resolution. A clean miss is cached too, as no project. -/
structure CachedResolution (π : Type) where
  project : Option π
  expireAt : Int
deriving DecidableEq

/-- The settings of a cache. -/
structure CachingProjectResolver where
  ttl : Int
  maxEntries : Nat
deriving DecidableEq

/-- A lookup of the inner resolver, as it finished. -/
structure InnerLookup (π : Type) where
  time : Int
  key : ResolutionKey
  answer : Except String (Option π)

/-- The cache, and the lookups the inner resolver has finished, the newest first. -/
structure Resolutions (π : Type) where
  cache : Lru ResolutionKey (CachedResolution π) := {}
  finished : List (InnerLookup π) := []

/-- What a step meets: the time, and whatever the inner resolver answers. -/
structure ResolverInput (π : Type) where
  now : Int
  answer : Except String (Option π)

inductive ResolverRequest (π : Type) where
  | clock
  | load (key : ResolutionKey) (now : Int)
  | fetch (key : ResolutionKey)
  | store (key : ResolutionKey) (val : CachedResolution π)

def ResolverRequest.Response (π : Type) : ResolverRequest π → Type
  | clock => Int
  | load _ _ => Option (CachedResolution π)
  | fetch _ => Except String (Option π)
  | store _ _ => Unit

namespace CachingProjectResolver
variable {π : Type} (c : CachingProjectResolver)

/-- The cached resolution when present and unexpired, now the most recently used. An expired
    entry is dropped. -/
def load (key : ResolutionKey) (now : Int) (cache : Lru ResolutionKey (CachedResolution π)) :
    Option (CachedResolution π) × Lru ResolutionKey (CachedResolution π) :=
  match cache.get key with
  | none => (none, cache)
  | some el => if el.val.expireAt ≤ now then (none, cache.removeElement el) else (some el.val, cache.moveToFront el)

/-- Drop the least recently used element when the bound is exceeded. -/
def evict (cache : Lru ResolutionKey (CachedResolution π)) : Lru ResolutionKey (CachedResolution π) :=
  if cache.list.length > c.maxEntries then
    match cache.list.getLast? with
    | none => cache
    | some el => cache.removeElement el
  else cache

/-- Insert or refresh. -/
def store (key : ResolutionKey) (val : CachedResolution π) (cache : Lru ResolutionKey (CachedResolution π)) :
    Lru ResolutionKey (CachedResolution π) :=
  match cache.get key with
  | some el => cache.refresh el val
  | none => c.evict (cache.pushFront key val)

/-- The lock sections are steps, and so is the end of an inner lookup. -/
def handle : Handler (ResolverRequest.Response π) (ResolverInput π) (Resolutions π)
  | .clock, input, s => (input.now, s)
  | .load key now, _, s => ((load key now s.cache).1, { s with cache := (load key now s.cache).2 })
  | .fetch key, input, s => (input.answer, { s with finished := ⟨input.now, key, input.answer⟩ :: s.finished })
  | .store key val, _, s => ((), { s with cache := c.store key val s.cache })

abbrev ResolverCall (π α : Type) := Call (ResolverRequest.Response π) α

def readClock : ResolverCall π Int := Call.ask ResolverRequest.clock

def loadEntry (key : ResolutionKey) (now : Int) : ResolverCall π (Option (CachedResolution π)) :=
  Call.ask (ResolverRequest.load key now)

def fetchInner (key : ResolutionKey) : ResolverCall π (Except String (Option π)) :=
  Call.ask (ResolverRequest.fetch key)

def storeEntry (key : ResolutionKey) (val : CachedResolution π) : ResolverCall π Unit :=
  Call.ask (ResolverRequest.store key val)

/-- An error of the inner resolver is not cached. -/
def fetch (key : ResolutionKey) (now : Int) : ResolverCall π (Except String (Option π)) := do
  match ← fetchInner key with
  | .error err => return .error err
  | .ok project =>
    storeEntry key ⟨project, now + c.ttl⟩
    return .ok project

def resolve (key : ResolutionKey) : ResolverCall π (Except String (Option π)) := do
  let now ← readClock
  match ← loadEntry key now with
  | some hit => return .ok hit.project
  | none => c.fetch key now

end CachingProjectResolver

section Cache
variable {π : Type} {c : CachingProjectResolver}

/-- A load moves an element to the front, drops one or does nothing. -/
lemma load_cases (key : ResolutionKey) (now : Int) (cache : Lru ResolutionKey (CachedResolution π)) :
    CachingProjectResolver.load key now cache = (none, cache) ∨ ∃ el, cache.get key = some el ∧
        (el.val.expireAt ≤ now ∧ CachingProjectResolver.load key now cache = (none, cache.removeElement el) ∨
          now < el.val.expireAt ∧ CachingProjectResolver.load key now cache =
            (some el.val, cache.moveToFront el)) := by
  unfold CachingProjectResolver.load
  split
  · exact .inl rfl
  · grind

lemma load_inStep (hstep : cache.InStep) : (CachingProjectResolver.load key now cache).2.InStep := by
  rcases load_cases key now cache with hnone | ⟨el, hget, ⟨-, hload⟩ | ⟨-, hload⟩⟩
  · rwa [hnone]
  · rw [hload]
    exact hstep.removeElement (get_some hget).1
  · rw [hload]
    exact hstep.refresh (get_some hget).1 el.val

lemma load_mem (hmem : el ∈ (CachingProjectResolver.load key now cache).2.list) : el ∈ cache.list := by
  rcases load_cases key now cache with hnone | ⟨front, hget, ⟨-, hload⟩ | ⟨-, hload⟩⟩
  · rwa [hnone] at hmem
  · rw [hload] at hmem
    exact (mem_without.mp hmem).1
  rw [hload] at hmem
  rcases mem_cons.mp hmem with rfl | hmem
  · exact (get_some hget).1
  · exact (mem_without.mp hmem).1

lemma load_length (hstep : cache.InStep) :
    (CachingProjectResolver.load key now cache).2.list.length ≤ cache.list.length := by
  rcases load_cases key now cache with hnone | ⟨el, hget, ⟨-, hload⟩ | ⟨-, hload⟩⟩
  · rw [hnone]
  · rw [hload]
    exact length_filter_le _ _
  · rw [hload]
    exact (hstep.length_without (get_some hget).1).le

/-- What a hit serves is an element of its key that had not expired. -/
lemma load_some (hstep : cache.InStep) (hload : (CachingProjectResolver.load key now cache).1 = some val) :
    ∃ el ∈ cache.list, el.key = key ∧ el.val = val ∧ cache.get key = some el ∧ now < val.expireAt := by
  rcases load_cases key now cache with hnone | ⟨el, hget, ⟨-, hload'⟩ | ⟨hfresh, hload'⟩⟩
  · rw [hnone] at hload
    cases hload
  · rw [hload'] at hload
    cases hload
  rw [hload'] at hload
  cases hload
  exact ⟨el, (get_some hget).1, hstep.key_of_get hget, rfl, hget, hfresh⟩

lemma evict_inStep (hstep : cache.InStep) : (c.evict cache).InStep := by
  unfold CachingProjectResolver.evict
  grind [hstep.removeElement]

lemma evict_mem (hmem : el ∈ (c.evict cache).list) : el ∈ cache.list := by
  unfold CachingProjectResolver.evict at hmem
  split at hmem
  · split at hmem
    · exact hmem
    · exact (mem_without.mp hmem).1
  · exact hmem

/-- One element over the bound, and the eviction restores it. -/
lemma evict_length (hstep : cache.InStep) (hover : cache.list.length ≤ c.maxEntries + 1) :
    (c.evict cache).list.length ≤ c.maxEntries := by
  unfold CachingProjectResolver.evict
  split
  · rename_i hfull
    split
    · grind
    rename_i el hlast
    have hone := hstep.length_without (mem_of_getLast? hlast)
    have hlist : (cache.removeElement el).list = cache.without el := rfl
    rw [hlist]
    omega
  · rename_i hroom
    omega

lemma store_inStep (hstep : cache.InStep) : (c.store key val cache).InStep := by
  unfold CachingProjectResolver.store
  split
  · rename_i el hget
    exact hstep.refresh (get_some hget).1 val
  · rename_i hget
    exact evict_inStep (hstep.pushFront (hstep.lookup_of_get_none hget) val)

lemma store_mem (hstep : cache.InStep) (hmem : el ∈ (c.store key val cache).list) :
    el ∈ cache.list ∨ (el.key = key ∧ el.val = val) := by
  unfold CachingProjectResolver.store at hmem
  split at hmem
  · rename_i front hget
    rcases mem_cons.mp hmem with rfl | hmem
    · grind [hstep.key_of_get]
    · exact .inl (mem_without.mp hmem).1
  rcases mem_cons.mp (evict_mem hmem) with rfl | hmem
  · exact .inr ⟨rfl, rfl⟩
  · exact .inl hmem

lemma store_length (hstep : cache.InStep) (hbounded : cache.list.length ≤ c.maxEntries) :
    (c.store key val cache).list.length ≤ c.maxEntries := by
  unfold CachingProjectResolver.store
  split
  · rename_i el hget
    exact (hstep.length_without (get_some hget).1).le.trans hbounded
  · rename_i hget
    exact evict_length (hstep.pushFront (hstep.lookup_of_get_none hget) val) (Nat.succ_le_succ hbounded)

end Cache

section Calls
variable {π : Type}

def resolverClock (caller : Nat) (now : Int) : Event (ResolverRequest.Response π) := ⟨caller, .clock, now⟩

@[grind =]
def innerAnswered (caller : Nat) (key : ResolutionKey) (project : Option π) : Event (ResolverRequest.Response π) :=
  ⟨caller, .fetch key, .ok project⟩

/-- What a call may ask: it reads the clock first; it stores what the inner resolver has
    answered it, until a lifetime after that reading. -/
def ResolverGuard (c : CachingProjectResolver) (caller : Nat) (own : List (Event (ResolverRequest.Response π))) :
    ResolverRequest π → Prop
  | .clock => own = []
  | .store key val => ∃ now, resolverClock caller now ∈ own ∧ innerAnswered caller key val.project ∈ own ∧
      val.expireAt = now + c.ttl
  | _ => True

lemma resolve_keeps (c : CachingProjectResolver) (key : ResolutionKey) (caller : Nat) :
    (c.resolve key : CachingProjectResolver.ResolverCall π _).Asks caller (ResolverGuard c caller) [] := by
  refine ⟨rfl, fun now => ⟨trivial, fun found => ?_⟩⟩
  cases found with
  | some hit => trivial
  | none =>
    refine ⟨trivial, fun answer => ?_⟩
    cases answer with
    | error err => trivial
    | ok project =>
      refine ⟨⟨now, ?_, .head _, rfl⟩, fun _ => trivial⟩
      exact .tail _ (.tail _ (.head _))

end Calls

abbrev ResolverPool (π : Type) := Pool (ResolverRequest.Response π) (Resolutions π) (Except String (Option π))

/-- An entry that had not expired when a call read the clock has not expired when the call
    loads it. -/
def LoadedInTime {π : Type} (pool : ResolverPool π) (_ : Nat) (input : ResolverInput π) : ResolverRequest π → Prop
  | .load key now => ∀ el ∈ pool.store.cache.get key, now < el.val.expireAt → input.now < el.val.expireAt
  | _ => True

instance {π : Type} (pool : ResolverPool π) (caller : Nat) (input : ResolverInput π) (q : ResolverRequest π) :
    Decidable (LoadedInTime pool caller input q) := by
  unfold LoadedInTime
  split <;> infer_instance

section Run
variable {π : Type} {input : ResolverInput π}

/-- The inner resolver has finished a lookup of the key with this answer at `since` or later. -/
@[grind =]
def Finished (s : Resolutions π) (key : ResolutionKey) (project : Option π) (since : Int) : Prop :=
  ∃ lookup ∈ s.finished, lookup.key = key ∧ lookup.answer = .ok project ∧ since ≤ lookup.time

/-- A run so far. -/
@[grind]
structure ResolverRun (c : CachingProjectResolver) (time : Int) (s : Resolutions π)
    (trace : List (Event (ResolverRequest.Response π))) : Prop where
  inStep : s.cache.InStep
  bounded : s.cache.list.length ≤ c.maxEntries
  clocked : ∀ d now, resolverClock d now ∈ trace → now ≤ time
  answered : ∀ d now key project, resolverClock d now ∈ trace → innerAnswered d key project ∈ trace →
    Finished s key project now
  cached : ∀ el ∈ s.cache.list, Finished s el.key el.val.project (el.val.expireAt - c.ttl)

lemma ResolverRun.later (hrun : ResolverRun c time s trace) (hle : time ≤ time') : ResolverRun c time' s trace :=
  { hrun with clocked := fun d now hmem => (hrun.clocked d now hmem).trans hle }

/-- A step of the cache that asks neither the clock nor the inner resolver. -/
lemma ResolverRun.cacheStep (hrun : ResolverRun c time s trace)
    (resp : ResolverRequest.Response π q) (hclock : q ≠ .clock) (hfetch : ∀ key, q ≠ .fetch key)
    (hinStep : cache.InStep) (hbounded : cache.list.length ≤ c.maxEntries)
    (hcached : ∀ el ∈ cache.list, Finished s el.key el.val.project (el.val.expireAt - c.ttl)) :
    ResolverRun c time { s with cache } (⟨caller, q, resp⟩ :: trace) where
  inStep := hinStep
  bounded := hbounded
  clocked d now hmem := by
    rcases mem_cons.mp hmem with heq | hold
    · exact absurd (congrArg Event.req heq).symm hclock
    · exact hrun.clocked d now hold
  answered d now key project hnow hanswer := by
    rcases mem_cons.mp hnow with heq | hnow
    · exact absurd (congrArg Event.req heq).symm hclock
    grind
  cached := hcached

lemma ResolverRun.clock (hrun : ResolverRun c input.now s trace) (hfirst : Pool.own trace caller = []) :
    ResolverRun c input.now s (resolverClock caller input.now :: trace) where
  inStep := hrun.inStep
  bounded := hrun.bounded
  clocked d now hmem := by grind [resolverClock]
  answered d now key project hnow hanswer := by
    rcases mem_cons.mp hanswer with heq | hfound
    · cases congrArg Event.req heq
    rcases mem_cons.mp hnow with heq | hnow
    · -- nobody has been answered before reading the clock
      obtain ⟨rfl, -, -⟩ := Event.mk.inj heq
      have hown := Pool.mem_own hfound
      grind
    · exact hrun.answered d now key project hnow hfound
  cached := hrun.cached

lemma ResolverRun.fetch (hrun : ResolverRun c input.now s trace) (key : ResolutionKey) :
    ResolverRun c input.now { s with finished := ⟨input.now, key, input.answer⟩ :: s.finished }
      (⟨caller, .fetch key, input.answer⟩ :: trace) := by
  have hkept : ∀ {key' project since}, Finished s key' project since →
      Finished { s with finished := ⟨input.now, key, input.answer⟩ :: s.finished } key' project since := by
    rintro key' project since ⟨lookup, hmem, hlookup⟩
    exact ⟨lookup, .tail _ hmem, hlookup⟩
  refine ⟨hrun.inStep, hrun.bounded, ?_, ?_, fun el hel => hkept (hrun.cached el hel)⟩
  · intro d now hmem
    rcases mem_cons.mp hmem with heq | hold
    · cases congrArg Event.req heq
    · exact hrun.clocked d now hold
  intro d now key' project hnow hanswer
  rcases mem_cons.mp hnow with heq | hbegan
  · cases congrArg Event.req heq
  grind [mem_cons_self]

lemma ResolverRun.store (hrun : ResolverRun c time s trace)
    (hguard : ResolverGuard c caller (Pool.own trace caller) (.store key val)) :
    ResolverRun c time { s with cache := c.store key val s.cache } (⟨caller, .store key val, ()⟩ :: trace) := by
  obtain ⟨now, hclock, hanswer, hexpire⟩ := hguard
  refine hrun.cacheStep _
    nofun nofun (store_inStep hrun.inStep) (store_length hrun.inStep hrun.bounded) fun el hel => ?_
  rcases store_mem hrun.inStep hel with hel | ⟨rfl, rfl⟩
  · exact hrun.cached el hel
  · grind

lemma ResolverRun.step {pool : ResolverPool π} (hrun : ResolverRun c input.now pool.store pool.trace)
    {next : ResolverRequest.Response π q → CachingProjectResolver.ResolverCall π (Except String (Option π))}
    (hcall : pool.Awaits caller q next) (hguard : ResolverGuard c caller (Pool.own pool.trace caller) q) :
    ResolverRun c input.now (pool.step c.handle caller input).store (pool.step c.handle caller input).trace := by
  rw [Pool.step_request hcall]
  cases q with
  | clock => exact hrun.clock hguard
  | load key now =>
    exact hrun.cacheStep _ nofun nofun (load_inStep hrun.inStep) ((load_length hrun.inStep).trans hrun.bounded)
      fun el hel => hrun.cached el (load_mem hel)
  | fetch key => exact hrun.fetch key
  | store key val => exact hrun.store hguard

end Run

/-- Resolve calls, before any of them has moved, over an empty cache. -/
def resolverStart {π : Type} (c : CachingProjectResolver) (keys : List ResolutionKey) : ResolverPool π :=
  Pool.start {} (keys.map c.resolve)

lemma resolverStart_run (c : CachingProjectResolver) (keys : List ResolutionKey)
    {schedule : List (Nat × ResolverInput π)} (hclock : schedule.Pairwise fun turn next => turn.2.now ≤ next.2.now) :
    ∃ time, ResolverRun c time ((resolverStart c keys).run c.handle schedule).store
      ((resolverStart c keys).run c.handle schedule).trace := by
  have hkeep : (resolverStart c keys : ResolverPool π).Keep
      (fun caller own q => ∃ key, keys[caller]? = some key ∧ ResolverGuard c caller own q)
      (fun caller _ _ => ∃ key, keys[caller]? = some key ∧ True) :=
    Pool.keep_start (fun key caller => resolve_keeps c key caller) _
  refine Pool.along_clocked_start ResolverInput.now (fun time pool => ResolverRun c time pool.store pool.trace)
    (fun _ _ _ hrun hle => hrun.later hle) (fun pool d input q next hrun hcall _ hguard _ => ?_) hkeep (fun time => ?_)
    schedule (Pool.along_of_forall (fun _ _ _ _ => trivial) _ _) hclock
  · grind [hrun.step]
  · refine ⟨⟨nodup_nil, nofun, fun key addr => ⟨nofun, nofun⟩⟩, Nat.zero_le _, fun _ _ => nofun,
      fun _ _ _ _ => nofun, nofun⟩

/-- Any number of resolve calls, in any interleaving under a clock that does not go back and
    with an inner resolver that answers anything: the cache stays bounded, its index and its
    recency list stay in step, it holds answers of the inner resolver and no error, and what
    a load serves that runs in time was answered less than one lifetime before. -/
theorem resolver_cache_bounded_and_fresh {π : Type} (c : CachingProjectResolver) (keys : List ResolutionKey)
    (schedule : List (Nat × ResolverInput π)) (hclock : schedule.Pairwise fun turn next => turn.2.now ≤ next.2.now) :
    let pool := (resolverStart c keys).run c.handle schedule
    pool.store.cache.entries.keys.length ≤ c.maxEntries ∧
      pool.store.cache.entries.keys.length = pool.store.cache.list.length ∧
      (∀ el ∈ pool.store.cache.list, ∀ key, pool.store.cache.entries.lookup key = some el.addr ↔ key = el.key) ∧
      (∀ el ∈ pool.store.cache.list, ∃ lookup ∈ pool.store.finished,
        lookup.key = el.key ∧ lookup.answer = .ok el.val.project) ∧
      ∀ caller input key now next val, pool.calls[caller]? = some (.request (.load key now) next) →
        LoadedInTime pool caller input (.load key now) → (c.handle (.load key now) input pool.store).1 = some val →
        ∃ lookup ∈ pool.store.finished, lookup.key = key ∧ lookup.answer = .ok val.project ∧
          input.now < lookup.time + c.ttl := by
  obtain ⟨time, hrun⟩ := resolverStart_run c keys hclock
  have hlength := hrun.inStep.length
  refine ⟨hlength.trans_le hrun.bounded, hlength, fun el hel key => ?_, fun el hel => ?_, ?_⟩
  · grind [hrun.inStep.eq_of_addr]
  · grind
  intro caller input key now next val _ hintime hserved
  obtain ⟨el, hel, rfl, rfl, hget, hfresh⟩ := load_some hrun.inStep hserved
  grind [LoadedInTime]

def sampleResolver : CachingProjectResolver := ⟨10, 2⟩

def sampleHost : ResolutionKey := ⟨.byHostname, "shop.example"⟩

/-- Which call moves when; the inner resolver answers the shop's project throughout. -/
def sampleResolverTurns (turns : List (Nat × Int)) : List (Nat × ResolverInput String) :=
  turns.map fun turn => (turn.1, ⟨turn.2, .ok (some "shop")⟩)

def sampleResolved (turns : List (Nat × Int)) : ResolverPool String :=
  (resolverStart sampleResolver [sampleHost, sampleHost]).run sampleResolver.handle (sampleResolverTurns turns)

/-- The second call has read the clock at 105, after the first one has stored its answer. -/
def samplePrompt : List (Nat × Int) := [(0, 100), (0, 100), (0, 101), (0, 101), (1, 105)]

/-- The second call has read the clock at 100, before the first one begins. -/
def samplePaused : List (Nat × Int) := [(1, 100), (0, 100), (0, 100), (0, 101), (0, 101)]

/-- The second call loads at 106 what the inner resolver answered at 101. -/
theorem resolver_cache_serves_fresh :
    (sampleResolver.handle (.load sampleHost 105) ⟨106, .error ""⟩ (sampleResolved samplePrompt).store).1 =
        some ⟨some "shop", 110⟩ ∧
      ∃ lookup ∈ (sampleResolved samplePrompt).store.finished, lookup.key = sampleHost ∧
        lookup.answer = .ok (some "shop") ∧ 106 < lookup.time + 10 := by
  have hserved : (sampleResolver.handle (.load sampleHost 105) ⟨106, .error ""⟩
    (sampleResolved samplePrompt).store).1 =
    some ⟨some "shop", 110⟩ := rfl
  refine ⟨hserved, ?_⟩
  refine (resolver_cache_bounded_and_fresh sampleResolver [sampleHost, sampleHost] (sampleResolverTurns samplePrompt)
    (by decide)).2.2.2.2 1 ⟨106, .error ""⟩ sampleHost 105 _ _ rfl ?_ hserved
  decide

/-- A call that is held up between its clock reading and its load is served an entry that
    expired long before. -/
theorem paused_load_serves_expired :
    let pool := sampleResolved samplePaused
    (∃ next, pool.calls[1]? = some (.request (.load sampleHost 100) next)) ∧
      (sampleResolver.handle (.load sampleHost 100) ⟨1000, .error ""⟩ pool.store).1 = some ⟨some "shop", 110⟩ ∧
      ∀ lookup ∈ pool.store.finished, ¬ 1000 < lookup.time + sampleResolver.ttl := by
  refine ⟨⟨_, rfl⟩, rfl, ?_⟩
  have hfinished : (sampleResolved samplePaused).store.finished = [⟨101, sampleHost, .ok (some "shop")⟩] := rfl
  intro lookup hmem
  rw [hfinished, mem_singleton] at hmem
  rw [hmem]
  decide

end identity.service
