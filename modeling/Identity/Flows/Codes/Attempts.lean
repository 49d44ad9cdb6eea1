import Identity.Flows.Codes.History

open identity.repository identity.memory
namespace identity.service
open Pool
open Event (mk)
open List (mem_cons)

/-- The call that found a code of the holder in this step. -/
def codeReader (channel : CodeChannel) (holder : String) : StoreEvent → Option Nat
  | ⟨reader, .signIn (.findCode other owner), some _⟩ =>
    if other = channel ∧ owner = holder then some reader else none
  | _ => none

/-- The call has read a code of the holder and has not returned. -/
@[grind =]
def InWindow (channel : CodeChannel) (holder : String) (pool : CodePool) (caller : Nat) : Prop :=
  caller ∈ pool.trace.filterMap (codeReader channel holder) ∧ pool.result caller = none

/-- No verify call that has read a code of the holder is running. -/
@[grind =]
def NoneInWindow (channel : CodeChannel) (holder : String) (pool : CodePool) : Prop :=
  ∀ caller ∈ pool.trace.filterMap (codeReader channel holder), (pool.result caller).isSome = true

instance (channel : CodeChannel) (holder : String) (pool : CodePool) : Decidable (NoneInWindow channel holder pool) :=
  inferInstanceAs (Decidable (∀ caller ∈ pool.trace.filterMap (codeReader channel holder), _))

/-- No code is stored for the holder while a verify call that has read one is running. -/
def SendsApart (channel : CodeChannel) (holder : String) (pool : CodePool) (_ : Nat) (_ : Tick) (q : Request) : Prop :=
  match q with
  | .signIn (.upsertCode other rec) => other = channel → rec.holder = holder → NoneInWindow channel holder pool
  | _ => True

instance (channel : CodeChannel) (holder : String) (pool : CodePool) (caller : Nat) (tick : Tick) (q : Request) :
    Decidable (SendsApart channel holder pool caller tick q) := by
  unfold SendsApart
  split <;> infer_instance

abbrev codeRead (caller : Nat) (channel : CodeChannel) (holder : String) (s : OneTimeCodeRecord) : StoreEvent :=
  ⟨caller, .signIn (.findCode channel holder), some s⟩

lemma mem_readers {trace : Trace} : caller ∈ trace.filterMap (codeReader channel holder) ↔
      ∃ s, codeRead caller channel holder s ∈ trace := by
  rw [List.mem_filterMap]
  constructor
  · rintro ⟨event, hmem, hreader⟩
    unfold codeReader at hreader
    grind
  · rintro ⟨s, hmem⟩
    exact ⟨_, hmem, by simp [codeReader]⟩

lemma NoneInWindow.not
    (hnone : NoneInWindow channel holder pool) (caller : Nat) : ¬ InWindow channel holder pool caller := by
  rintro ⟨hread, hrunning⟩
  have hreturned := hnone caller hread
  rw [hrunning] at hreturned
  cases hreturned

/-- What a verify call that has read the holder's code can rely on: the record is there
    while the call is running, so its own writes are about that record. -/
@[grind]
structure WindowsKept (channel : CodeChannel) (holder : String) (pool : CodePool) : Prop where
  present : ∀ caller s, (⟨caller, .signIn (.findCode channel holder), some s⟩ : StoreEvent) ∈ pool.trace →
    pool.result caller = none → ∃ c, (pool.store.codes channel).lookup s.nodeID = some c
  consumes : ∀ caller atMs rec s,
    (⟨caller, .signIn (.consumeCode channel holder atMs), .ok rec⟩ : StoreEvent) ∈ pool.trace →
    (⟨caller, .signIn (.findCode channel holder), some s⟩ : StoreEvent) ∈ pool.trace → SameCode s rec
  settles : ∀ caller atMs answer s,
    (⟨caller, .signIn (.consumeCode channel holder atMs), answer⟩ : StoreEvent) ∈ pool.trace →
    (⟨caller, .signIn (.findCode channel holder), some s⟩ : StoreEvent) ∈ pool.trace →
    ∀ c, (pool.store.codes channel).lookup s.nodeID = some c → c.consumedAt ≠ 0 ∨ c.expiresAt ≤ atMs
  increments : ∀ caller answer s,
    (⟨caller, .signIn (.incrementCodeAttempts channel s.nodeID), answer⟩ : StoreEvent) ∈ pool.trace →
    (⟨caller, .signIn (.findCode channel holder), some s⟩ : StoreEvent) ∈ pool.trace → answer = .ok ()

lemma windowsKept_start (channel : CodeChannel) (holder : String) (r : Repo)
    (calls : List (Call Request.Response CodeResult)) : WindowsKept channel holder (start r calls) where
  present := fun _ _ hmem => nomatch hmem
  consumes := fun _ _ _ _ hmem => nomatch hmem
  settles := fun _ _ _ _ hmem => nomatch hmem
  increments := fun _ _ _ hmem => nomatch hmem

section
variable {holder : String} {pool : CodePool} {q : Request} {next : q.Response → Call Request.Response CodeResult}

/-- The row a running verify call has read survives every step but a send's. -/
lemma CodeEffect.row_stays (heffect : CodeEffect channel r q r') (hkept : CodesKept channel r)
    (hc : (r.codes channel).lookup key = some c)
    (hapart : ∀ rec, q = .signIn (.upsertCode channel rec) → c.holder ≠ rec.holder) :
    ∃ c', (r'.codes channel).lookup key = some c' := by
  cases heffect with
  | quiet q r' hseq hcodes => exact ⟨c, hcodes ▸ hc⟩
  | upsert rec => grind [lookup_upsertCode]
  | count | consume => grind [codes_setCodes]

/-- A call that writes after a step had read the record before it. -/
lemma CodeHistory.read_before (hhistory : CodeHistory channel pool.store pool.trace)
    (hguard : CodeGuard i (Pool.own pool.trace caller) q)
    (hfound : codeRead writer channel holder s ∈ ⟨caller, q, answer⟩ :: pool.trace)
    (hwritten : (∃ nodeID done, (⟨writer, .signIn (.incrementCodeAttempts channel nodeID), done⟩ :
        StoreEvent) ∈ (⟨caller, q, answer⟩ :: pool.trace : Trace)) ∨
      ∃ owner atMs done, (⟨writer, .signIn (.consumeCode channel owner atMs), done⟩ : StoreEvent) ∈
        (⟨caller, q, answer⟩ :: pool.trace : Trace)) :
    codeRead writer channel holder s ∈ pool.trace := by
  rcases mem_cons.mp hfound with heq | hread
  · -- the call reads now, so it has read nothing before, and written nothing either
    obtain ⟨rfl, rfl, -⟩ := mk.inj heq
    obtain ⟨hunread, -⟩ := hguard
    rcases hwritten with ⟨nodeID, done, hmem⟩ | ⟨owner, atMs, done, hmem⟩
    · rcases mem_cons.mp hmem with heq | hold
      · cases heq
      · obtain ⟨owner, s, hread⟩ := hhistory.countRead writer nodeID done hold
        exact absurd (mem_own hread) (hunread _ _ _ _)
    rcases mem_cons.mp hmem with heq | hold
    · cases heq
    · obtain ⟨⟨s, hread⟩, -⟩ := hhistory.consumeRead writer owner atMs done hold
      exact absurd (mem_own hread) (hunread _ _ _ _)
  · exact hread

variable (hwindows : WindowsKept channel holder pool) (hhistory : CodeHistory channel pool.store pool.trace)
  (hcall : pool.Awaits caller q next) (hguard : CodeGuard i (Pool.own pool.trace caller) q)

include hwindows hhistory

/-- The record a running call has read, as the store has it now. -/
lemma WindowsKept.row (hfound : codeRead reader channel holder s ∈ pool.trace)
    (hrunning : pool.result reader = none) :
    ∃ c, (pool.store.codes channel).lookup s.nodeID = some c ∧ SameCode s c ∧ c.holder = holder := by
  obtain ⟨c, hc⟩ := hwindows.present reader s hfound hrunning
  have hsame := hhistory.same s (.inl ⟨reader, holder, hfound⟩) c hc
  exact ⟨c, hc, hsame, hsame.holder.trans (hhistory.holder reader holder s hfound)⟩

include hcall hguard

lemma WindowsKept.present_step (hapart : SendsApart channel holder pool caller tick q)
    (hfound : codeRead reader channel holder s ∈
      (pool.step (handle p) caller tick).trace)
    (hrunning : (pool.step (handle p) caller tick).result reader = none) :
    ∃ c, ((pool.step (handle p) caller tick).store.codes channel).lookup s.nodeID = some c := by
  have hbefore := unfinished_of_step hrunning
  rw [step_request hcall] at hfound ⊢
  rcases mem_cons.mp hfound with heq | hold
  · obtain ⟨-, rfl, hresp⟩ := mk.inj heq
    rw [handle_findCode] at hresp ⊢
    exact ⟨s, (hhistory.kept.found (eq_of_heq hresp).symm).1⟩
  obtain ⟨c, hc, -, hholder⟩ := hwindows.row hhistory hold hbefore
  have heffect : CodeEffect channel pool.store q (handle p q tick pool.store).2 := hguard.effect hhistory.kept
  grind [heffect.row_stays, mem_readers, SendsApart]

/-- The consume step of a call: it is about the record the call has read. -/
lemma WindowsKept.consume_step (hq : q = .signIn (.consumeCode channel holder atMs))
    (hfound : codeRead caller channel holder s ∈ pool.trace) :
    ∃ c, (pool.store.codes channel).lookup s.nodeID = some c ∧ SameCode s c ∧
      ((pool.store.consumeCode channel holder atMs = (.ok { c with consumedAt := atMs },
          pool.store.setCodes channel ((pool.store.codes channel).insert c.nodeID { c with consumedAt := atMs })) ∧
        atMs ≠ 0) ∨
      ((∃ err, pool.store.consumeCode channel holder atMs = (.error err, pool.store)) ∧
        (c.consumedAt ≠ 0 ∨ c.expiresAt ≤ atMs))) := by
  subst hq
  obtain ⟨c, hc, hsame, hholder⟩ := hwindows.row hhistory hfound (unfinished_of_request hcall)
  refine ⟨c, hc, hsame, ?_⟩
  rcases hhistory.kept.consumeCode_cases holder atMs with ⟨d, hd, howner, -, heq⟩ | ⟨herr, hclosed⟩
  · have hname : d.nodeID = s.nodeID := hhistory.kept.single _ _ d c hd hc (howner.trans hholder.symm)
    obtain ⟨g, _, reader, -, -, -, -, hclock⟩ := hguard
    grind
  · exact .inr ⟨herr, hclosed _ c hc hholder⟩

lemma WindowsKept.step (hapart : SendsApart channel holder pool caller tick q) :
    WindowsKept channel holder (pool.step (handle p) caller tick) := by
  have heffect : CodeEffect channel pool.store q (handle p q tick pool.store).2 := hguard.effect hhistory.kept
  obtain ⟨-, hstep⟩ := heffect.kept hhistory.kept hguard hhistory.clocked
  refine ⟨fun reader s => hwindows.present_step hhistory hcall hguard hapart, ?_, ?_, ?_⟩
  all_goals rw [step_request hcall]
  · intro writer atMs rec s hconsumed hfound
    have hread := hhistory.read_before hguard hfound (.inr ⟨holder, atMs, _, hconsumed⟩)
    rcases mem_cons.mp hconsumed with heq | hold
    · obtain ⟨rfl, hq, hresp⟩ := mk.inj heq
      obtain ⟨c, -, hsame, hcases⟩ := hwindows.consume_step hhistory hcall hguard hq.symm hread
      subst hq
      rw [handle_consumeCode] at hresp
      grind
    · exact hwindows.consumes writer atMs rec s hold hread
  · intro writer atMs answer s hconsumed hfound
    have hread := hhistory.read_before hguard hfound (.inr ⟨holder, atMs, answer, hconsumed⟩)
    rcases mem_cons.mp hconsumed with heq | hold
    · obtain ⟨rfl, hq, -⟩ := mk.inj heq
      obtain ⟨c, hc, hsame, hcases⟩ := hwindows.consume_step hhistory hcall hguard hq.symm hread
      subst hq
      rw [handle_consumeCode]
      grind [codes_setCodes]
    · grind
  intro writer answer s hcounted hfound
  have hread := hhistory.read_before hguard hfound (.inl ⟨s.nodeID, answer, hcounted⟩)
  rcases mem_cons.mp hcounted with heq | hold
  · obtain ⟨rfl, rfl, hresp⟩ := mk.inj heq
    obtain ⟨c, hc⟩ := hwindows.present writer s hread (unfinished_of_request hcall)
    obtain ⟨operation, hhandle⟩ := handle_incrementCodeAttempts p channel pool.store tick s.nodeID
    rw [hhandle] at hresp
    rcases incrementCodeAttempts_cases channel pool.store operation s.nodeID with ⟨_, -, hok⟩ | ⟨hnone, -⟩
    · rw [hok] at hresp
      exact eq_of_heq hresp
    · rw [hc] at hnone
      cases hnone
  · exact hwindows.increments writer answer s hold hread

end

/-- No verify call reads the holder's code while another one that has read it is running. -/
def VerifiesAlone (channel : CodeChannel) (holder : String) (pool : CodePool) (_ : Nat) (_ : Tick)
    (q : Request) : Prop :=
  match q with
  | .signIn (.findCode other owner) => other = channel → owner = holder → NoneInWindow channel holder pool
  | _ => True

def clockReading : StoreEvent → Option Int
  | ⟨_, .clock, now⟩ => some now
  | _ => none

/-- The clock does not go back. -/
def ClockForward (pool : CodePool) (_ : Nat) (tick : Tick) (_ : Request) : Prop :=
  ∀ now ∈ pool.trace.filterMap clockReading, now ≤ tick.now

/-- The windows of the verify calls on a holder's code exclude each other and every
    send to that holder, and the clock does not go back. -/
def WindowsExclusive (channel : CodeChannel) (holder : String) (pool : CodePool) (caller : Nat) (tick : Tick)
    (q : Request) : Prop :=
  SendsApart channel holder pool caller tick q ∧ VerifiesAlone channel holder pool caller tick q ∧
    ClockForward pool caller tick q

instance (channel : CodeChannel) (holder : String) (pool : CodePool) (caller : Nat) (tick : Tick) (q : Request) :
    Decidable (WindowsExclusive channel holder pool caller tick q) := by
  unfold WindowsExclusive VerifiesAlone ClockForward
  split <;> infer_instance

/-- The verify call has compared its guess against the record. -/
@[grind =]
def ComparedBy (calls : List CodeInvocation) (channel : CodeChannel) (holder : String) (pool : CodePool) (caller : Nat)
    (s : OneTimeCodeRecord) : Prop :=
  ∃ i g, calls[caller]? = some i ∧ i.call.guess = some g ∧ g.channel = channel ∧ g.holder = holder ∧
    Compared g (Pool.own pool.trace caller) s

/-- One verify call at a time: what it has just read is what the store has, and the
    comparisons against a record stay within its maximum. -/
structure AttemptsKept (calls : List CodeInvocation) (channel : CodeChannel) (holder : String) (pool : CodePool) :
    Prop where
  alone : ∀ caller₁ caller₂, InWindow channel holder pool caller₁ → InWindow channel holder pool caller₂ →
    caller₁ = caller₂
  fresh : ∀ caller s before, Pool.own pool.trace caller = ⟨caller, .signIn (.findCode channel holder), some s⟩ ::
    before →
    pool.result caller = none → (pool.store.codes channel).lookup s.nodeID = some s
  bounded : ∀ (nodeID : String) (max : Int) (callers : List Nat), 0 < max → callers.Nodup →
    (∀ caller ∈ callers, ∃ s, ComparedBy calls channel holder pool caller s ∧ s.nodeID = nodeID ∧
      s.maxAttempts = max) →
    (callers.length : Int) ≤ max

lemma attemptsKept_start (calls : List CodeInvocation) (channel : CodeChannel) (holder : String) (r : Repo)
    (programs : List (Call Request.Response CodeResult)) :
    AttemptsKept calls channel holder (start r programs) where
  alone := fun _ _ hwindow => absurd hwindow.1 List.not_mem_nil
  fresh := fun _ _ _ hown => nomatch hown
  bounded := by
    intro nodeID max callers hmax hnodup hcompared
    cases callers with
    | nil => exact Int.le_of_lt hmax
    | cons caller rest =>
      obtain ⟨s, ⟨i, g, -, -, -, -, hcompared⟩, -⟩ := hcompared caller (.head _)
      exact absurd hcompared.found_own List.not_mem_nil

section
variable {p : Platform} {calls : List CodeInvocation} {holder : String} {q : Request}
  {next : q.Response → Call Request.Response CodeResult}

/-- A row no other running call has read is as it was. -/
lemma CodeEffect.row_unchanged (heffect : CodeEffect channel r q r') (hkept : CodesKept channel r)
    (hc : (r.codes channel).lookup key = some c)
    (hsend : ∀ rec, q = .signIn (.upsertCode channel rec) → c.holder ≠ rec.holder)
    (hcount : q ≠ .signIn (.incrementCodeAttempts channel key))
    (hconsume : ∀ atMs, q ≠ .signIn (.consumeCode channel c.holder atMs)) :
    (r'.codes channel).lookup key = some c := by
  cases heffect with
  | quiet q r' hseq hcodes => exact hcodes ▸ hc
  | upsert rec => grind [lookup_upsertCode]
  | count | consume => grind [codes_setCodes]

variable (hattempts : AttemptsKept calls channel holder pool) (hhistory : CodeHistory channel pool.store pool.trace)
  (hcall : pool.Awaits caller q next) (hguard : CodeGuard i (Pool.own pool.trace caller) q)

/-- A call in its window after a step was there before it, or reads now. -/
lemma InWindow.of_step (hwindow : InWindow channel holder (pool.step (handle p) caller tick) reader)
    (hcall : pool.Awaits caller q next) :
    InWindow channel holder pool reader ∨ (reader = caller ∧ q = .signIn (.findCode channel holder)) := by
  obtain ⟨hread, hrunning⟩ := hwindow
  obtain ⟨s, hfound⟩ := mem_readers.mp hread
  rw [step_request hcall] at hfound
  rcases mem_cons.mp hfound with heq | hold
  · grind
  · exact .inl ⟨mem_readers.mpr ⟨s, hold⟩, unfinished_of_step hrunning⟩

include hattempts hcall in
lemma AttemptsKept.alone_step (hfirst : VerifiesAlone channel holder pool caller tick q)
    (h1 : InWindow channel holder (pool.step (handle p) caller tick) reader1)
    (h2 : InWindow channel holder (pool.step (handle p) caller tick) reader2) : reader1 = reader2 := by
  rcases h1.of_step hcall with hold1 | ⟨rfl, hq1⟩
  · grind [h2.of_step, hattempts.alone, VerifiesAlone]
  · grind [h2.of_step, VerifiesAlone]

/-- A call about to write has read the holder's code and is running. -/
lemma CodeHistory.writer_inWindow (hhistory : CodeHistory channel pool.store pool.trace) (hcall :
    pool.Awaits caller q next) (hchannel : g.channel = channel)
    (hcompared : Compared g (Pool.own pool.trace caller) s)
    (hc : (pool.store.codes channel).lookup s.nodeID = some c) (hholder : c.holder = holder) :
    InWindow channel holder pool caller := by
  subst hchannel
  have hfound := hcompared.found_own
  have hsame := hhistory.same s (.inl ⟨caller, g.holder, hfound⟩) c hc
  have howner : g.holder = holder :=
    (hhistory.holder caller g.holder s hfound).symm.trans (hsame.holder.symm.trans hholder)
  exact ⟨mem_readers.mpr ⟨s, howner ▸ hfound⟩, unfinished_of_request hcall⟩

include hattempts hhistory hcall hguard in
lemma AttemptsKept.fresh_step (hapart : SendsApart channel holder pool caller tick q)
    (hown : Pool.own (pool.step (handle p) caller tick).trace reader =
      codeRead reader channel holder s :: before)
    (hrunning : (pool.step (handle p) caller tick).result reader = none) :
    ((pool.step (handle p) caller tick).store.codes channel).lookup s.nodeID = some s := by
  have hbefore := unfinished_of_step hrunning
  rw [step_request hcall] at hown ⊢
  by_cases hreader : caller = reader
  · subst hreader
    rw [own_cons_self] at hown
    obtain ⟨hhead, -⟩ := List.cons.inj hown
    obtain ⟨-, rfl, hresp⟩ := mk.inj hhead
    rw [handle_findCode] at hresp ⊢
    exact (hhistory.kept.found (eq_of_heq hresp)).1
  rw [own_cons_ne hreader] at hown
  have hrow := hattempts.fresh reader s before hown hbefore
  have hfound : codeRead reader channel holder s ∈ pool.trace :=
    (mem_of_mem_own (hown ▸ List.mem_cons_self)).1
  have hholder := hhistory.holder reader holder s hfound
  have hwindow : InWindow channel holder pool reader := ⟨mem_readers.mpr ⟨s, hfound⟩, hbefore⟩
  have heffect : CodeEffect channel pool.store q (handle p q tick pool.store).2 := hguard.effect hhistory.kept
  refine heffect.row_unchanged hhistory.kept hrow ?_ ?_ ?_
  · rintro rec rfl hsend
    exact (hapart rfl (hsend.symm.trans hholder)).not reader hwindow
  · rintro rfl
    obtain ⟨g, s', -, hchannel, hcompared, hname⟩ := hguard
    have hother := hhistory.writer_inWindow hcall hchannel hcompared (hname ▸ hrow) hholder
    exact hreader (hattempts.alone caller reader hother hwindow)
  rintro atMs rfl
  obtain ⟨g, s', _, -, rfl, howner, hcompared, -⟩ := hguard
  have hfound' := hcompared.found_own
  rw [howner, hholder] at hfound'
  exact hreader (hattempts.alone caller reader
    ⟨mem_readers.mpr ⟨s', hfound'⟩, unfinished_of_request hcall⟩ hwindow)

/-- A new comparison is made by the call that reads the clock right after the record. -/
lemma ComparedBy.of_step (hcompared : ComparedBy calls channel holder (pool.step (handle p) caller tick) reader s)
    (hcall : pool.Awaits caller q next) :
    ComparedBy calls channel holder pool reader s ∨ (reader = caller ∧ (∃ before, Pool.own pool.trace caller =
      codeRead caller channel holder s :: before) ∧ ∃ g, AdmitsGuess g s tick.now) := by
  obtain ⟨i, g, hi, hguess, rfl, rfl, hcompared⟩ := hcompared
  rw [step_request hcall] at hcompared
  by_cases hreader : caller = reader
  · subst hreader
    rw [own_cons_self] at hcompared
    rcases compared_cons.mp hcompared with ⟨_, now, before, hevent, hown, hadmits⟩ | hold
    · obtain ⟨rfl, rfl, hresp⟩ := mk.inj hevent
      obtain rfl : tick.now = now := eq_of_heq hresp
      exact .inr ⟨rfl, ⟨before, hown⟩, g, hadmits⟩
    · exact .inl ⟨i, g, hi, hguess, rfl, rfl, hold⟩
  · grind [own_cons_ne]

variable (calls) in
def CodeCallsGuard (caller : Nat) (own : Trace) (q : Request) : Prop :=
  ∃ i, calls[caller]? = some i ∧ CodeGuard i own q

variable (p calls) in
def CodeCallsPost (caller : Nat) (own : Trace) (result : CodeResult) : Prop :=
  ∃ i, calls[caller]? = some i ∧ CodePost p i own result

/-- A call that has compared against a record which is still open, and has returned, was
    counted. -/
lemma WindowsKept.counted_of_open (hwindows : WindowsKept channel holder pool)
    (hhistory : CodeHistory channel pool.store pool.trace)
    (hkeep : pool.Keep (CodeCallsGuard calls) (CodeCallsPost p calls))
    (hcompared : ComparedBy calls channel holder pool reader s) (hreturned : pool.result reader ≠ none)
    (hc : (pool.store.codes channel).lookup s.nodeID = some c) (hunconsumed : c.consumedAt = 0)
    (hunexpired : ∀ reader (now : Int), (⟨reader, .clock, now⟩ : StoreEvent) ∈ pool.trace → now < c.expiresAt) :
    ∃ event ∈ pool.trace, event.caller = reader ∧ counts channel s.nodeID event = true := by
  obtain ⟨i, g, hi, hguess, rfl, rfl, hcompared⟩ := hcompared
  obtain ⟨result, hresult⟩ := Option.ne_none_iff_exists'.mp hreturned
  obtain ⟨i', hi', hpost⟩ := hkeep.result hresult
  rw [hi] at hi'
  cases hi'
  have hfound := hcompared.found_own
  rcases (hpost g hguess).1 s hcompared with ⟨writer, answer, hmem⟩ | ⟨writer, atMs, answer, hmem⟩
  · obtain ⟨hstep, hwriter⟩ := mem_of_mem_own hmem
    subst hwriter
    obtain rfl := hwindows.increments writer answer s hstep hfound
    exact ⟨_, hstep, rfl, by simp [counts, Except.toBool]⟩
  · grind

/-- The comparison that comes last: every earlier one was counted, and the record it
    found had attempts left. -/
lemma AttemptsKept.bounded_step (hattempts : AttemptsKept calls channel holder pool)
    (hwindows : WindowsKept channel holder pool) (hhistory : CodeHistory channel pool.store pool.trace)
    (hkeep : pool.Keep (CodeCallsGuard calls) (CodeCallsPost p calls))
    (hcall : pool.Awaits caller q next) (hforward : ClockForward pool caller tick q) {max : Int}
    {callers : List Nat} (hmax : 0 < max) (hnodup : callers.Nodup)
    (hcompared : ∀ reader ∈ callers, ∃ s, ComparedBy calls channel holder (pool.step (handle p) caller tick) reader s ∧
      s.nodeID = nodeID ∧ s.maxAttempts = max) : (callers.length : Int) ≤ max := by
  by_cases hnew : ∃ s before g, caller ∈ callers ∧ s.nodeID = nodeID ∧ s.maxAttempts = max ∧
      Pool.own pool.trace caller = codeRead caller channel holder s :: before ∧ AdmitsGuess g s tick.now
  · obtain ⟨s, before, g, hmem, rfl, rfl, hown, hadmits⟩ := hnew
    have hrunning := unfinished_of_request hcall
    have hrow := hattempts.fresh caller s before hown hrunning
    have hfound : codeRead caller channel holder s ∈ pool.trace :=
      (mem_of_mem_own (hown ▸ List.mem_cons_self)).1
    have hothers : ∀ reader ∈ callers.erase caller,
        ∃ event ∈ pool.trace, event.caller = reader ∧ counts channel s.nodeID event = true := by
      intro reader hreader
      obtain ⟨hne, hreader⟩ := hnodup.mem_erase_iff.mp hreader
      obtain ⟨s', hby, hname, -⟩ := hcompared reader hreader
      rcases hby.of_step hcall with hold | ⟨heq, -⟩
      · have hreturned : pool.result reader ≠ none := by
          intro hstill
          obtain ⟨i', g', -, -, rfl, rfl, hcomp⟩ := hold
          exact hne (hattempts.alone reader caller ⟨mem_readers.mpr ⟨s', hcomp.found_own⟩, hstill⟩
            ⟨mem_readers.mpr ⟨s, hfound⟩, hrunning⟩)
        rw [← hname]
        refine hwindows.counted_of_open hhistory hkeep hold hreturned (hname ▸ hrow) hadmits.unconsumed ?_
        exact fun clockReader now hclock =>
          Int.lt_of_le_of_lt (hforward now (List.mem_filterMap.mpr ⟨_, hclock, rfl⟩)) hadmits.unexpired
      · exact absurd heq hne
    have hcount := Event.length_le_countP (hnodup.erase caller) hothers
    grind
  refine hattempts.bounded nodeID max callers hmax hnodup fun reader hreader => ?_
  obtain ⟨s, hby, hname, hcap⟩ := hcompared reader hreader
  grind [hby.of_step]

end
end identity.service
