import Identity.Interleaving.Condition

namespace Pool
open Pool
variable {Req : Type} {Resp : Req → Type} {ι σ α : Type}

/-- The call has taken a step of some kind. -/
@[grind =]
def Took (kind : Event Resp → Prop) (trace : List (Event Resp)) (caller : Nat) : Prop :=
  ∃ event ∈ trace, event.caller = caller ∧ kind event

variable {kind : Event Resp → Prop} {trace : List (Event Resp)} {event : Event Resp} {caller other : Nat}

lemma Took.cons (htook : Took kind trace caller) (event : Event Resp) : Took kind (event :: trace) caller := by
  obtain ⟨taken, hmem, hrest⟩ := htook
  exact ⟨taken, List.mem_cons_of_mem event hmem, hrest⟩

lemma took_cons (htook : Took kind (event :: trace) caller) : (event.caller = caller ∧ kind event) ∨
    Took kind trace caller := by
  obtain ⟨taken, hmem, hrest⟩ := htook
  rcases List.mem_cons.mp hmem with rfl | hold
  · exact .inl hrest
  · exact .inr ⟨taken, hold, hrest⟩

lemma took_own : Took kind (own trace caller) caller ↔ Took kind trace caller := by
  constructor
  · grind
  · grind [mem_own]

/-- Whether a call has made a request of some kind. -/
def asked (kind : Req → Bool) (trace : List (Event Resp)) (caller : Nat) : Bool :=
  trace.any fun event => event.caller == caller && kind event.req

lemma asked_iff {kind : Req → Bool} :
    asked kind trace caller = true ↔ Took (fun event => kind event.req = true) trace caller := by
  simp [asked, Took]

/-- A call looks something up only while every other call that has looked it up has
    finished or has settled it. -/
@[grind =]
def Apart (asks settles : Req → Bool) (pool : Pool Resp σ α) (caller : Nat) (_ : ι) (r : Req) : Prop :=
  asks r = true → ∀ other, other < pool.calls.length → other ≠ caller → asked asks pool.trace other = true →
    (pool.result other).isSome = true ∨ asked settles pool.trace other = true

instance (asks settles : Req → Bool) (pool : Pool Resp σ α) (caller : Nat) (input : ι) (r : Req) :
    Decidable (Apart asks settles pool caller input r) :=
  inferInstanceAs (Decidable (_ → _))

/-- Something that is to be acted on once, but is looked up, acted on and settled in
    separate steps: what the calls' texts and the store say about the steps that find
    it unspent, act on it and settle it. `told` is what the store's answers have in
    common throughout. -/
@[grind]
structure OneShot (h : Handler Resp ι σ) (guard : Nat → List (Event Resp) → Req → Prop)
    (post : Nat → List (Event Resp) → α → Prop) (inv spent : σ → Prop) (told opens acts : Event Resp → Prop)
    (asks settles : Req → Bool) : Prop where
  kept : ∀ s caller own r input, inv s → (∀ event ∈ own, told event) → guard caller own r → inv (h r input s).2
  answers : ∀ s caller r input, inv s → told ⟨caller, r, (h r input s).1⟩
  opened : ∀ s caller r input, inv s → opens ⟨caller, r, (h r input s).1⟩ → asks r = true ∧ ¬ spent s
  stays : ∀ s caller own r input, inv s → (∀ event ∈ own, told event) → guard caller own r → spent s →
    spent (h r input s).2
  settled : ∀ s caller own r input, inv s → (∀ event ∈ own, told event) → guard caller own r → settles r = true →
    spent (h r input s).2
  acted : ∀ caller own r resp, (∀ event ∈ own, told event) → guard caller own r → acts ⟨caller, r, resp⟩ →
    Took opens own caller
  finished : ∀ caller own result, (∀ event ∈ own, told event) → post caller own result → Took acts own caller →
    Took (fun event => settles event.req = true) own caller

variable {h : Handler Resp ι σ} {guard : Nat → List (Event Resp) → Req → Prop}
  {post : Nat → List (Event Resp) → α → Prop} {inv spent : σ → Prop} {told opens acts : Event Resp → Prop}
  {asks settles : Req → Bool} {pool : Pool Resp σ α} {r : Req} {next : Resp r → Call Resp α} {input : ι}

/-- The call has returned without acting. -/
@[grind =]
def Idle (acts : Event Resp → Prop) (pool : Pool Resp σ α) (caller : Nat) : Prop :=
  (∃ result, pool.result caller = some result) ∧ ¬ Took acts pool.trace caller

/-- A call that has returned takes no further step. -/
lemma Idle.step (hidle : Idle acts pool caller) (mover : Nat) (input : ι) :
    Idle acts (pool.step h mover input) caller := by
  obtain ⟨⟨result, hresult⟩, hnot⟩ := hidle
  refine ⟨⟨result, result_step hresult mover input⟩, fun htook => hnot ?_⟩
  unfold Pool.step at htook
  split at htook
  · grind [unfinished_of_request]
  · exact htook

variable (inv spent told opens acts asks settles) in
/-- Of two calls that have found it unspent one is over and has not acted. -/
@[grind]
structure Settling (pool : Pool Resp σ α) : Prop where
  holds : inv pool.store
  told : ∀ event ∈ pool.trace, told event
  spends : ∀ caller, Took (fun event => settles event.req = true) pool.trace caller → spent pool.store
  looked : ∀ caller, Took opens pool.trace caller → asked asks pool.trace caller = true
  bounded : ∀ caller, Took opens pool.trace caller → caller < pool.calls.length
  alone : ∀ caller₁ caller₂, caller₁ ≠ caller₂ → Took opens pool.trace caller₁ → Took opens pool.trace caller₂ →
    Idle acts pool caller₁ ∨ Idle acts pool caller₂

lemma Settling.own_told (hsettling : Settling inv spent told opens acts asks settles pool) (caller : Nat) :
    ∀ event ∈ own pool.trace caller, told event :=
  fun event hmem => hsettling.told event (mem_trace hmem)

namespace OneShot
variable (hshot : OneShot h guard post inv spent told opens acts asks settles)
include hshot
section
variable {pool : Pool Resp σ α} (hsettling : Settling inv spent told opens acts asks settles pool)
  (hkeep : pool.Keep guard post)
include hsettling hkeep

/-- A call that returned and did not settle it has not acted. -/
lemma idle {result : α} (hresult : pool.result caller = some result)
    (hnot : ¬ Took (fun event => settles event.req = true) pool.trace caller) : Idle acts pool caller := by
  refine ⟨⟨result, hresult⟩, fun hacted => hnot ?_⟩
  exact took_own.mp (hshot.finished caller _ result (hsettling.own_told caller) (hkeep.result hresult)
    (took_own.mpr hacted))

/-- The call that looks it up, with every other one that has done so. -/
lemma alone_self (hcall : pool.Awaits caller r next) (hapart : Apart asks settles pool caller input r)
    (hne : other ≠ caller) (hother : Took opens pool.trace other)
    (hself : Took opens (⟨caller, r, (h r input pool.store).1⟩ :: pool.trace) caller) :
    Idle acts pool other := by
  rcases took_cons hself with ⟨-, hopens⟩ | hbefore
  · -- it has just found it unspent, so no other call has settled it
    grind [Option.isSome_iff_exists, hshot.idle, asked_iff]
  · grind [unfinished_of_request]

lemma step (hcall : pool.Awaits caller r next) (hapart : Apart asks settles pool caller input r) :
    Settling inv spent told opens acts asks settles (pool.step h caller input) := by
  have hguard := (hkeep caller _ hcall).1
  have hself := fun other (hne : other ≠ caller) (hother : Took opens pool.trace other) hopened =>
    (hshot.alone_self hsettling hkeep hcall hapart hne hother hopened).step (h := h) caller input
  have htrace := trace_step hcall (rfl : (h r input pool.store).1 = _)
  have hstore : (pool.step h caller input).store = (h r input pool.store).2 := by rw [step_request hcall]
  refine ⟨?_, ?_, fun other => ?_, fun other => ?_, fun other => ?_, fun caller₁ caller₂ hne => ?_⟩
  · grind
  · grind
  · rw [htrace, hstore]
    intro htook
    rcases took_cons htook with ⟨-, hsettles⟩ | hold
    · exact hshot.settled _ _ _ r input hsettling.holds (hsettling.own_told caller) hguard hsettles
    · exact hshot.stays _ _ _ r input hsettling.holds (hsettling.own_told caller) hguard (hsettling.spends other hold)
  · rw [htrace]
    intro htook
    rcases took_cons htook with ⟨heq, hopens⟩ | hold
    · exact asked_iff.mpr ⟨_, .head _, heq, (hshot.opened _ caller r input hsettling.holds hopens).1⟩
    · exact asked_iff.mpr ((asked_iff.mp (hsettling.looked other hold)).cons _)
  · rw [htrace, length_step]
    intro htook
    rcases took_cons htook with ⟨rfl, -⟩ | hold
    · exact (List.getElem?_eq_some_iff.mp hcall).1
    · exact hsettling.bounded other hold
  rw [htrace]
  intro htook1 htook2
  -- at most one of the two is the call that moves
  by_cases h1 : caller₁ = caller
  · grind
  by_cases h2 : caller₂ = caller
  · grind
  rcases took_cons htook1 with ⟨heq, -⟩ | hold1
  · exact absurd heq.symm h1
  rcases took_cons htook2 with ⟨heq, -⟩ | hold2
  · exact absurd heq.symm h2
  · exact (hsettling.alone caller₁ caller₂ hne hold1 hold2).imp (·.step caller input) (·.step caller input)

/-- A step of acting is preceded by finding it unspent. -/
lemma took_opens (hacted : ∀ caller, Took acts pool.trace caller → Took opens pool.trace caller)
    (hcall : pool.Awaits caller r next) (other : Nat)
    (htook : Took acts (pool.step h caller input).trace other) :
    Took opens (pool.step h caller input).trace other := by
  rw [trace_step hcall rfl] at htook ⊢
  rcases took_cons htook with ⟨rfl, hacts⟩ | hold
  · exact (took_own.mp (hshot.acted caller _ r _ (hsettling.own_told caller) (hkeep caller _ hcall).1 hacts)).cons _
  · exact (hacted other hold).cons _

end

lemma run {store : σ} {calls : List (Call Resp α)} (hkeep : (start store calls).Keep guard post)
    (hinv : inv store) (schedule : List (Nat × ι))
    (hapart : Along h (Apart asks settles) (start store calls) schedule) :
    Settling inv spent told opens acts asks settles ((start store calls).run h schedule) ∧
      ∀ caller, Took acts ((start store calls).run h schedule).trace caller →
        Took opens ((start store calls).run h schedule).trace caller := by
  refine along_invariant (fun pool caller input r next (hinv : Settling inv spent told opens acts asks settles pool ∧
      ∀ caller, Took acts pool.trace caller → Took opens pool.trace caller) hcall hkeep _ hapart =>
    ⟨hshot.step hinv.1 hkeep hcall hapart, hshot.took_opens hinv.1 hkeep hinv.2 hcall⟩) hkeep ?_ schedule hapart
  have hnone : ∀ (kind : Event Resp → Prop) (caller : Nat), ¬ Took kind [] caller :=
    fun kind caller ⟨_, hmem, _⟩ => List.not_mem_nil hmem
  exact ⟨⟨hinv, List.forall_mem_nil _, fun caller h => absurd h (hnone _ caller),
    fun caller h => absurd h (hnone _ caller),
    fun caller h => absurd h (hnone _ caller), fun caller₁ _ _ h => absurd h (hnone _ caller₁)⟩,
    fun caller h => absurd h (hnone _ caller)⟩

/-- In a run whose lookups keep apart, at most one call acts. -/
lemma once {caller₁ caller₂ : Nat} {store : σ} {calls : List (Call Resp α)}
    (hkeep : (start store calls).Keep guard post) (hinv : inv store) (schedule : List (Nat × ι))
    (hapart : Along h (Apart asks settles) (start store calls) schedule)
    (hacts1 : Took acts ((start store calls).run h schedule).trace caller₁)
    (hacts2 : Took acts ((start store calls).run h schedule).trace caller₂) : caller₁ = caller₂ := by
  obtain ⟨hsettling, hopened⟩ := hshot.run hkeep hinv schedule hapart
  by_contra hne
  rcases hsettling.alone caller₁ caller₂ hne (hopened caller₁ hacts1) (hopened caller₂ hacts2) with hidle | hidle
  · exact hidle.2 hacts1
  · exact hidle.2 hacts2

end OneShot
end Pool
