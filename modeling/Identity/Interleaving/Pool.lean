import Mathlib.Data.Stream.Defs
import Mathlib.Data.List.Basic

/-- A call of a service, as the sequence of requests it makes of its store:
    it has finished with a result, or it waits for the answer to one request
    and goes on with that answer. Each request is one atomic step of the store;
    anything may happen between two requests of one call. -/
inductive Call {Req : Type} (Resp : Req → Type) (α : Type) : Type where
  | done (result : α) : Call Resp α
  | request (r : Req) (next : Resp r → Call Resp α) : Call Resp α

/-- What the store does with a request: the answer and the state after it. The
    input of type `ι` is what the environment supplies at that step, such as the
    clock reading or fresh random bytes. -/
abbrev Handler {Req : Type} (Resp : Req → Type) (ι σ : Type) : Type :=
  (r : Req) → ι → σ → Resp r × σ

namespace Call
variable {Req : Type} {Resp : Req → Type} {α β : Type}

/-- Run one call, then another that depends on its result. -/
def bind : Call Resp α → (α → Call Resp β) → Call Resp β
  | done result, next => next result
  | request r rest, next => request r fun resp => (rest resp).bind next

instance : Monad (Call Resp) where
  pure := done
  bind := bind

/-- The call that makes one request and returns the answer. -/
def ask (r : Req) : Call Resp (Resp r) := request r done

end Call

namespace Call
variable {Req : Type} {Resp : Req → Type} {ι σ α β : Type}

/-- Execute a call with no other call in between. The stream gives the
    environment's input at each of its steps; what is left of it is returned. -/
def exec (h : Handler Resp ι σ) : Call Resp α → Stream' ι → σ → α × Stream' ι × σ
  | done result, inputs, s => (result, inputs, s)
  | request r next, inputs, s =>
    (next (h r inputs.head s).1).exec h inputs.tail (h r inputs.head s).2

variable {h : Handler Resp ι σ} {guard : σ → Req → Prop}
variable (h guard) in
/-- A fact about a call that nobody else's writes disturb: each request it makes
    satisfies `guard` at the store it finds, and its result and the store it leaves
    satisfy `post`. -/
def Runs : Call Resp α → (α → σ → Prop) → σ → Prop
  | done result, post, s => post result s
  | request r next, post, s => guard s r ∧ ∀ input, (next (h r input s).1).Runs post (h r input s).2

variable {call : Call Resp α} {next : α → Call Resp β} {post : β → σ → Prop} {s : σ}

lemma runs_bind : (call >>= next).Runs h guard post s ↔
      call.Runs h guard (fun result s' => (next result).Runs h guard post s') s := by
  induction call generalizing s with
  | done result => exact Iff.rfl
  | request r rest ih => exact and_congr_right fun _ => forall_congr' fun input => ih _

lemma Runs.bind (hcall : call.Runs h guard (fun result s' => (next result).Runs h guard post s') s) :
    (call >>= next).Runs h guard post s := runs_bind.mpr hcall

variable {guard' : σ → Req → Prop} {post post' : α → σ → Prop}

lemma Runs.imp (hcall : call.Runs h guard post s) (hguard : ∀ s' r, guard s' r → guard' s' r)
    (hpost : ∀ result s', post result s' → post' result s') : call.Runs h guard' post' s := by
  induction call generalizing s with
  | done result => exact hpost result s hcall
  | request r rest ih => exact ⟨hguard s r hcall.1, fun input => ih _ (hcall.2 input)⟩

lemma Runs.mono (hcall : call.Runs h guard post s)
    (hpost : ∀ result s', post result s' → post' result s') : call.Runs h guard post' s :=
  hcall.imp (fun _ _ hguard => hguard) hpost

/-- The postcondition holds of every execution, whatever the environment supplies. -/
lemma Runs.exec (hcall : call.Runs h guard post s)
    (inputs : Stream' ι) : post (call.exec h inputs s).1 (call.exec h inputs s).2.2 := by
  induction call generalizing s inputs with
  | done result => exact hcall
  | request r rest ih => exact ih _ (hcall.2 inputs.head) inputs.tail

end Call

/-- One atomic step that has been taken: which call took it, what it asked and
    what the store answered. -/
structure Event {Req : Type} (Resp : Req → Type) where
  caller : Nat
  req : Req
  resp : Resp req

/-- A step with another request than the last one was taken before it. -/
lemma Event.mem_of_mem_cons {Req : Type} {Resp : Req → Type} {own : List (Event Resp)} {req told : Req}
    {resp : Resp req} {answer : Resp told} {i j : Nat} (hne : told ≠ req)
    (hmem : (⟨i, told, answer⟩ : Event Resp) ∈ ⟨j, req, resp⟩ :: own) : (⟨i, told, answer⟩ : Event Resp) ∈ own := by
  rcases List.mem_cons.mp hmem with heq | hold
  · injection heq with _ hsame _
    exact absurd hsame hne
  · exact hold

/-- What was there before stays there when a step is taken. -/
lemma List.IsSuffix.later {α : Type} {l l' : List α} {a : α} (hsuffix : l <:+ l') : l <:+ a :: l' :=
  hsuffix.trans (suffix_cons a l')

/-- Calls in progress over one shared store, with the steps taken so far, the
    most recent first. A call is named by its position in the list. -/
structure Pool {Req : Type} (Resp : Req → Type) (σ α : Type) where
  store : σ
  calls : List (Call Resp α)
  trace : List (Event Resp)

namespace Call
variable {Req : Type} {Resp : Req → Type} {α β : Type}

/-- A fact about the text of a call: whatever it is answered, each request it makes
    satisfies `guard` and its result satisfies `post`, both read against the steps
    the call itself has taken so far. The store is not mentioned. -/
def Keeps (caller : Nat) (guard : List (Event Resp) → Req → Prop) (post : List (Event Resp) → α → Prop) :
    List (Event Resp) → Call Resp α → Prop
  | own, done result => post own result
  | own, request r next => guard own r ∧ ∀ resp, Keeps caller guard post (⟨caller, r, resp⟩ :: own) (next resp)

/-- Facts about the requests of a call only. -/
abbrev Asks (caller : Nat) (guard : List (Event Resp) → Req → Prop) (own : List (Event Resp))
    (call : Call Resp α) : Prop :=
  call.Keeps caller guard (fun _ _ => True) own

variable {guard : List (Event Resp) → Req → Prop} {call : Call Resp α} {next : α → Call Resp β} {caller : Nat}
  {own : List (Event Resp)}

/-- Sequencing: the second call starts from the steps the first one has taken. -/
lemma keeps_bind {post : List (Event Resp) → β → Prop} : (call >>= next).Keeps caller guard post own ↔
      call.Keeps caller guard (fun own' result => (next result).Keeps caller guard post own') own := by
  induction call generalizing own with
  | done result => exact Iff.rfl
  | request r rest ih => exact and_congr_right fun _ => forall_congr' fun resp => ih resp

variable {post post' : List (Event Resp) → α → Prop} {guard' : List (Event Resp) → Req → Prop}

lemma Keeps.imp (hcall : call.Keeps caller guard post own)
    (hguard : ∀ own' r, guard own' r → guard' own' r) (hpost : ∀ own' result, post own' result → post' own' result) :
    call.Keeps caller guard' post' own := by
  induction call generalizing own with
  | done result => exact hpost own result hcall
  | request r rest ih => exact ⟨hguard own r hcall.1, fun resp => ih resp (hcall.2 resp)⟩

lemma Keeps.mono
    (hcall : call.Keeps caller guard post own) (hpost : ∀ own' result, post own' result → post' own' result) :
    call.Keeps caller guard post' own :=
  hcall.imp (fun _ _ hguard => hguard) hpost

variable {post : List (Event Resp) → α → Prop}

/-- The steps taken before a call are still there throughout it. -/
lemma Keeps.since (hcall : call.Keeps caller guard post own) :
    call.Keeps caller (fun own' r => own <:+ own' ∧ guard own' r) (fun own' result => own <:+ own' ∧ post own' result)
      own := by
  induction call generalizing own with
  | done result => exact ⟨List.suffix_refl own, hcall⟩
  | request r rest ih =>
    refine ⟨⟨List.suffix_refl own, hcall.1⟩, fun resp => (ih resp (hcall.2 resp)).imp ?_ ?_⟩
    · exact fun own' r' hguard => ⟨(List.suffix_cons _ own).trans hguard.1, hguard.2⟩
    · exact fun own' result hpost => ⟨(List.suffix_cons _ own).trans hpost.1, hpost.2⟩

lemma Keeps.suffix (hcall : call.Keeps caller guard post own) :
    call.Keeps caller guard (fun own' result => own <:+ own' ∧ post own' result) own :=
  hcall.since.imp (fun _ _ hguard => hguard.2) fun _ _ hpost => hpost

lemma Keeps.and (hcall : call.Keeps caller guard post own) (hcall' : call.Keeps caller guard' post' own) :
    call.Keeps caller (fun own' r => guard own' r ∧ guard' own' r) (fun own' result => post own' result ∧
      post' own' result)
      own := by
  induction call generalizing own with
  | done result => exact ⟨hcall, hcall'⟩
  | request r rest ih => exact ⟨⟨hcall.1, hcall'.1⟩, fun resp => ih resp (hcall.2 resp) (hcall'.2 resp)⟩

/-- A fact about the steps taken so far that each guarded step leaves alone. -/
lemma Keeps.lasting {guard : Req → Prop} {P : List (Event Resp) → Prop}
    (hcall : call.Asks caller (fun _ r => guard r) own) (hP : P own)
    (hlasts : ∀ own' r resp, P own' → guard r → P (⟨caller, r, resp⟩ :: own')) :
    call.Keeps caller (fun own' r => P own' ∧ guard r) (fun own' _ => P own') own := by
  induction call generalizing own with
  | done result => exact hP
  | request r rest ih =>
    exact ⟨⟨hP, hcall.1⟩, fun resp => ih resp (hcall.2 resp) (hlasts own r resp hP hcall.1)⟩

lemma Keeps.bind {post : List (Event Resp) → β → Prop}
    (hcall : call.Keeps caller guard (fun own' result => (next result).Keeps caller guard post own') own) :
    (call >>= next).Keeps caller guard post own := keeps_bind.mpr hcall

lemma Keeps.ask {r : Req} {next : Resp r → Call Resp β} {post : List (Event Resp) → β → Prop} (hguard : guard own r)
    (hnext : ∀ resp, (next resp).Keeps caller guard post (⟨caller, r, resp⟩ :: own)) :
    (Call.ask r >>= next).Keeps caller guard post own := ⟨hguard, hnext⟩

end Call

namespace Pool
variable {Req : Type} {Resp : Req → Type} {ι σ α : Type}

/-- A pool in which no call has taken a step yet. -/
def start (store : σ) (calls : List (Call Resp α)) : Pool Resp σ α := ⟨store, calls, []⟩

/-- The call waits for the answer to a request. -/
abbrev Awaits (pool : Pool Resp σ α) (caller : Nat) (r : Req) (next : Resp r → Call Resp α) : Prop :=
  pool.calls[caller]? = some (.request r next)

/-- Let one call take its next step. A call that has finished, or that does not
    exist, takes none. -/
def step (h : Handler Resp ι σ) (pool : Pool Resp σ α) (caller : Nat) (input : ι) : Pool Resp σ α :=
  match pool.calls[caller]? with
  | some (.request r next) =>
    { store := (h r input pool.store).2
      calls := pool.calls.set caller (next (h r input pool.store).1)
      trace := ⟨caller, r, (h r input pool.store).1⟩ :: pool.trace }
  | _ => pool

/-- Run a schedule: which call moves at each moment, and the environment's
    input to that step. -/
def run (h : Handler Resp ι σ) (pool : Pool Resp σ α) (schedule : List (Nat × ι)) : Pool Resp σ α :=
  schedule.foldl (fun pool' turn => pool'.step h turn.1 turn.2) pool

/-- The result of a call that has finished. -/
def result (pool : Pool Resp σ α) (caller : Nat) : Option α :=
  match pool.calls[caller]? with
  | some (.done result) => some result
  | _ => none

/-- The steps of one call. -/
def own (trace : List (Event Resp)) (caller : Nat) : List (Event Resp) :=
  trace.filter fun event => event.caller == caller

variable {h : Handler Resp ι σ} {trace trace' : List (Event Resp)} {event : Event Resp} {caller other : Nat}

@[grind =]
lemma own_cons_self (trace : List (Event Resp)) (caller : Nat) (r : Req) (resp : Resp r) :
    own (⟨caller, r, resp⟩ :: trace) caller = ⟨caller, r, resp⟩ :: own trace caller := by
  simp [own]

lemma own_cons_ne (hne : caller ≠ other) (trace : List (Event Resp)) (r : Req)
    (resp : Resp r) : own (⟨caller, r, resp⟩ :: trace) other = own trace other := by
  simp [own, hne]

@[grind →]
lemma mem_of_mem_own (hmem : event ∈ own trace caller) : event ∈ trace ∧ event.caller = caller := by
  simpa [own] using hmem

lemma mem_trace (hmem : event ∈ own trace caller) : event ∈ trace := (mem_of_mem_own hmem).1

lemma mem_own (hmem : event ∈ trace) : event ∈ own trace event.caller := by
  simpa [own] using hmem

lemma own_suffix (hsuffix : trace <:+ trace') (caller : Nat) :
    own trace caller <:+ own trace' caller :=
  hsuffix.filter _

section
variable {guard : Nat → List (Event Resp) → Req → Prop} {post : Nat → List (Event Resp) → α → Prop}
variable (guard post) in
/-- Every call of the pool keeps to its guard and its postcondition from where it is. -/
@[grind =]
def Keep (pool : Pool Resp σ α) : Prop :=
  ∀ (caller : Nat) (call : Call Resp α), pool.calls[caller]? = some call →
    call.Keeps caller (guard caller) (post caller) (own pool.trace caller)

variable {pool : Pool Resp σ α}
section
variable (hkeep : pool.Keep guard post)
include hkeep

lemma Keep.step (caller : Nat)
    (input : ι) : (pool.step h caller input).Keep guard post := by
  unfold Pool.step
  split
  · rename_i r next hcall
    intro other call hother
    have hbound := (List.getElem?_eq_some_iff.mp hcall).1
    by_cases hsame : caller = other
    · subst hsame
      rw [List.getElem?_set_self hbound] at hother
      cases hother
      rw [own_cons_self]
      exact (hkeep caller _ hcall).2 _
    · grind [own_cons_ne]
  · exact hkeep

lemma Keep.run (schedule : List (Nat × ι)) : (pool.run h schedule).Keep guard post := by
  induction schedule generalizing pool with
  | nil => exact hkeep
  | cons turn rest ih => exact ih (hkeep.step turn.1 turn.2)

/-- A finished call's result satisfies its postcondition. -/
lemma Keep.result {result : α}
    (hresult : pool.result caller = some result) : post caller (own pool.trace caller) result := by
  unfold Pool.result at hresult
  split at hresult
  · rename_i finished hcall
    cases hresult
    exact hkeep caller _ hcall
  · cases hresult

end

variable {inv : σ → List (Event Resp) → Prop}

lemma step_invariant (hinv : inv pool.store pool.trace) (caller : Nat) (input : ι)
    (hstep : ∀ r next, pool.Awaits caller r next →
      inv (h r input pool.store).2 (⟨caller, r, (h r input pool.store).1⟩ :: pool.trace)) :
    inv (pool.step h caller input).store (pool.step h caller input).trace := by
  unfold step
  split
  · rename_i r next hcall
    exact hstep r next hcall
  · exact hinv

/-- The induction over a schedule: a fact about the store and the trace that every
    guarded step preserves holds throughout the run. -/
lemma run_invariant (hstep : ∀ s trace caller r input, inv s trace → guard caller (own trace caller) r →
      inv (h r input s).2 (⟨caller, r, (h r input s).1⟩ :: trace))
    (hkeep : pool.Keep guard post) (hinv : inv pool.store pool.trace)
    (schedule : List (Nat × ι)) : inv (pool.run h schedule).store (pool.run h schedule).trace := by
  induction schedule generalizing pool with
  | nil => exact hinv
  | cons turn rest ih =>
    refine ih (hkeep.step turn.1 turn.2) (step_invariant hinv turn.1 turn.2 fun r next hcall => ?_)
    exact hstep _ _ _ _ _ hinv (hkeep turn.1 _ hcall).1

end
end Pool
