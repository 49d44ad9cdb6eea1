import Mathlib.Data.List.Perm.Subperm
import Identity.Interleaving.Pool

instance Option.decidableForallSome {α : Type} {P : α → Prop} [DecidablePred P] :
    (found : Option α) → Decidable (∀ value, found = some value → P value)
  | some value => decidable_of_iff (P value) (by simp)
  | none => isTrue nofun

/-- Steps of a kind that can be taken once: taking one spends what the store had to
    offer, so all of them in a trace are one caller's. -/
@[grind]
structure Spends {Req : Type} {Resp : Req → Type} {σ : Type} (spends : Event Resp → Prop) (spent : σ → Prop)
    (s : σ) (trace : List (Event Resp)) : Prop where
  spent : ∀ event ∈ trace, spends event → spent s
  once : ∀ first ∈ trace, ∀ second ∈ trace, spends first → spends second → first.caller = second.caller

section
variable {Req : Type} {Resp : Req → Type} {σ : Type} {spends : Event Resp → Prop} {spent : σ → Prop} {s s' : σ}
  {event : Event Resp} {trace : List (Event Resp)}

lemma Spends.nil (s : σ) : Spends spends spent s [] where
  spent := List.forall_mem_nil _
  once := List.forall_mem_nil _

/-- One more step: what is spent stays spent, and a step that spends finds it unspent. -/
lemma Spends.cons (hspends : Spends spends spent s trace)
    (hstays : spent s → spent s') (hnew : spends event → ¬ spent s ∧ spent s') :
    Spends spends spent s' (event :: trace) where
  spent := by grind
  once := by grind

/-- Calls that have each taken a step of some kind are no more than those steps. -/
lemma Event.length_le_countP {kind : Event Resp → Bool} {callers : List Nat} (hnodup : callers.Nodup)
    (htook : ∀ caller ∈ callers, ∃ event ∈ trace, event.caller = caller ∧ kind event = true) :
    callers.length ≤ trace.countP kind := by
  have hsubset : callers ⊆ (trace.filter kind).map caller := by grind
  have hle := (hnodup.subperm hsubset).length_le
  rwa [List.length_map, ← List.countP_eq_length_filter] at hle

end

namespace Pool
open Pool (step)
variable {Req : Type} {Resp : Req → Type} {ι σ α κ : Type} {pool : Pool Resp σ α} {h : Handler Resp ι σ} {input : ι}
  {caller other : Nat} {r : Req} {next : Resp r → Call Resp α}

section
variable {items : List κ} {program : κ → Call Resp α} {guard : κ → Nat → List (Event Resp) → Req → Prop}
  {post : κ → Nat → List (Event Resp) → α → Prop}

/-- Calls of a list of given kinds, none of which has moved: each keeps to its own
    kind's guard and postcondition. -/
lemma keep_start_of_mem
    (hkeeps : ∀ item ∈ items, ∀ caller, (program item).Keeps caller (guard item caller) (post item caller) [])
    (store : σ) : (Pool.start store (items.map program)).Keep
      (fun caller own r => ∃ item, items[caller]? = some item ∧ guard item caller own r)
      (fun caller own result => ∃ item, items[caller]? = some item ∧ post item caller own result) := by
  intro caller call hcall
  rw [start, List.getElem?_map, Option.map_eq_some_iff] at hcall
  obtain ⟨item, hitem, rfl⟩ := hcall
  have hkeep := hkeeps item (List.mem_of_getElem? hitem) caller
  exact hkeep.imp (fun _ _ hguard => ⟨item, hitem, hguard⟩) fun _ _ hpost => ⟨item, hitem, hpost⟩

lemma keep_start
    (hkeeps : ∀ item caller, (program item).Keeps caller (guard item caller) (post item caller) []) (store : σ) :
    (Pool.start store (items.map program)).Keep
      (fun caller own r => ∃ item, items[caller]? = some item ∧ guard item caller own r)
      (fun caller own result => ∃ item, items[caller]? = some item ∧ post item caller own result) :=
  keep_start_of_mem (fun item _ => hkeeps item) store

end

lemma step_request (hcall : pool.Awaits caller r next) (input : ι) : pool.step h caller input =
      { store := (h r input pool.store).2
        calls := pool.calls.set caller (next (h r input pool.store).1)
        trace := ⟨caller, r, (h r input pool.store).1⟩ :: pool.trace } := by
  unfold step
  rw [hcall]

/-- Where the moving call is after its step. -/
lemma calls_step_self {resp : Resp r} (hcall : pool.Awaits caller r next)
    (hanswer : (h r input pool.store).1 = resp) : (pool.step h caller input).calls[caller]? = some (next resp) := by
  rw [step_request hcall, ← hanswer]
  exact List.getElem?_set_self (List.getElem?_eq_some_iff.mp hcall).1

lemma trace_step {resp : Resp r} (hcall : pool.Awaits caller r next) (hanswer : (h r input pool.store).1 = resp) :
    (pool.step h caller input).trace = ⟨caller, r, resp⟩ :: pool.trace := by
  rw [step_request hcall, ← hanswer]

/-- A call that has not finished is about to take a step. -/
lemma request_of_unfinished (hbound : caller < pool.calls.length) (hunfinished : pool.result caller = none) :
    ∃ r next, pool.Awaits caller r next := by
  unfold result at hunfinished
  rw [List.getElem?_eq_getElem hbound] at hunfinished
  cases hcall : pool.calls[caller] with
  | done result => rw [hcall] at hunfinished; cases hunfinished
  | request r next => exact ⟨r, next, (List.getElem?_eq_getElem hbound).trans (congrArg some hcall)⟩

lemma length_step (caller : Nat) (input : ι) : (pool.step h caller input).calls.length = pool.calls.length := by
  unfold step
  split
  · exact List.length_set
  · rfl

lemma length_run (schedule : List (Nat × ι)) : (pool.run h schedule).calls.length = pool.calls.length := by
  induction schedule generalizing pool with
  | nil => rfl
  | cons turn rest ih => exact ih.trans (length_step turn.1 turn.2)

/-- A finished call stays finished, with the same result. -/
lemma result_step {result : α} (hresult : pool.result caller = some result) (mover : Nat)
    (input : ι) : (pool.step h mover input).result caller = some result := by
  unfold step
  split
  · rename_i r next hcall
    have hne : mover ≠ caller := by
      rintro rfl
      simp [Pool.result, hcall] at hresult
    unfold Pool.result
    rw [List.getElem?_set_ne hne]
    exact hresult
  · exact hresult

/-- A call that has not finished after a step had not finished before it. -/
lemma unfinished_of_step {mover : Nat} (hafter : (pool.step h mover input).result caller = none) :
    pool.result caller = none := by
  by_contra hfinished
  obtain ⟨result, hresult⟩ := Option.ne_none_iff_exists'.mp hfinished
  rw [result_step hresult] at hafter
  cases hafter

lemma unfinished_of_request (hcall : pool.Awaits caller r next) : pool.result caller = none := by
  rw [result, hcall]

lemma result_run {result : α} (hresult : pool.result caller = some result)
    (schedule : List (Nat × ι)) : (pool.run h schedule).result caller = some result := by
  induction schedule generalizing pool with
  | nil => exact hresult
  | cons turn rest ih => exact ih (result_step hresult turn.1 turn.2)

lemma trace_step_suffix (mover : Nat) (input : ι) : pool.trace <:+ (pool.step h mover input).trace := by
  unfold step
  split
  · exact List.suffix_cons _ _
  · exact List.suffix_refl _

lemma trace_run_suffix (schedule : List (Nat × ι)) : pool.trace <:+ (pool.run h schedule).trace := by
  induction schedule generalizing pool with
  | nil => exact List.suffix_refl _
  | cons turn rest ih => exact (trace_step_suffix turn.1 turn.2).trans ih

section
variable (hbounded : ∀ event ∈ pool.trace, event.caller < pool.calls.length)
include hbounded

lemma bound_step (caller : Nat) (input : ι) :
    ∀ event ∈ (pool.step h caller input).trace, event.caller < pool.calls.length := by
  unfold step
  split
  · grind
  · exact hbounded

/-- Every step of a run is a step of one of its calls. -/
lemma bound_run (schedule : List (Nat × ι)) :
    ∀ event ∈ (pool.run h schedule).trace, event.caller < pool.calls.length := by
  induction schedule generalizing pool with
  | nil => exact hbounded
  | cons turn rest ih =>
    have hlength : (pool.step h turn.1 turn.2).calls.length = pool.calls.length := length_step turn.1 turn.2
    have hstep := bound_step hbounded turn.1 turn.2 (h := h)
    rw [← hlength] at hstep ⊢
    exact ih hstep

end

lemma bound_of_result {result : α} (hresult : pool.result caller = some result) : caller < pool.calls.length := by
  unfold Pool.result at hresult
  split at hresult
  · rename_i hcall
    exact (List.getElem?_eq_some_iff.mp hcall).1
  · cases hresult

variable {cond : Pool Resp σ α → Nat → ι → Req → Prop} {schedule later : List (Nat × ι)}

/-- The request a call is about to make. -/
def pending (pool : Pool Resp σ α) (caller : Nat) : Option Req :=
  match pool.calls[caller]? with
  | some (.request r _) => some r
  | _ => none

lemma pending_of_request (hcall : pool.Awaits caller r next) : pool.pending caller = some r := by
  rw [pending, hcall]

lemma request_of_pending (hpending : pool.pending caller = some r) : ∃ next, pool.Awaits caller r next := by
  unfold pending at hpending
  split at hpending
  · rename_i hcall
    cases hpending
    exact ⟨_, hcall⟩
  · cases hpending

lemma lt_length_of_pending (hpending : (pool.pending caller).isSome = true) : caller < pool.calls.length := by
  obtain ⟨r, hr⟩ := Option.isSome_iff_exists.mp hpending
  obtain ⟨next, hcall⟩ := request_of_pending hr
  exact (List.getElem?_eq_some_iff.mp hcall).1

/-- A call that is not about to make a request stays where it is. -/
lemma step_of_pending_none (hpending : pool.pending caller = none) (input : ι) : pool.step h caller input = pool := by
  unfold step
  split
  · rename_i r next hcall
    rw [pending_of_request hcall] at hpending
    cases hpending
  · rfl

lemma store_step (hcall : pool.Awaits caller r next) (input : ι) :
    (pool.step h caller input).store = (h r input pool.store).2 := by
  rw [step_request hcall]

lemma own_step_self (hcall : pool.Awaits caller r next) (input : ι) :
    own (pool.step h caller input).trace caller = ⟨caller, r, (h r input pool.store).1⟩ :: own pool.trace caller := by
  rw [step_request hcall]
  exact own_cons_self _ _ _ _

/-- The other calls do not move. -/
lemma own_step_ne (hne : other ≠ caller) (input : ι) :
    own (pool.step h caller input).trace other = own pool.trace other := by
  unfold step
  split
  · exact own_cons_ne (Ne.symm hne) _ _ _
  · rfl

lemma pending_step_ne (hne : other ≠ caller) (input : ι) :
    (pool.step h caller input).pending other = pool.pending other := by
  unfold step
  split
  · simp only [pending, List.getElem?_set_ne (Ne.symm hne)]
  · rfl

variable (h cond) in
/-- Along the run, every step that is taken meets a condition on the moment before it,
    the call that takes it, the environment's input and the request. -/
def Along : Pool Resp σ α → List (Nat × ι) → Prop
  | _, [] => True
  | pool, turn :: rest =>
    (∀ r, pool.pending turn.1 = some r → cond pool turn.1 turn.2 r) ∧ Along (pool.step h turn.1 turn.2) rest

variable (h cond) in
def decideAlong [∀ pool caller input r, Decidable (cond pool caller input r)] :
    ∀ (pool : Pool Resp σ α) (schedule : List (Nat × ι)), Decidable (Along h cond pool schedule)
  | _, [] => isTrue trivial
  | pool, turn :: rest =>
    have := decideAlong (pool.step h turn.1 turn.2) rest
    instDecidableAnd

instance [∀ pool caller input r, Decidable (cond pool caller input r)] (pool : Pool Resp σ α)
    (schedule : List (Nat × ι)) : Decidable (Along h cond pool schedule) :=
  decideAlong h cond pool schedule

lemma run_append (pool : Pool Resp σ α) (schedule later : List (Nat × ι)) :
    pool.run h (schedule ++ later) = (pool.run h schedule).run h later := List.foldl_append

lemma along_append :
    Along h cond pool (schedule ++ later) ↔ Along h cond pool schedule ∧ Along h cond (pool.run h schedule) later := by
  induction schedule generalizing pool with
  | nil => exact (true_and _).symm.to_iff
  | cons turn rest ih => exact (and_congr_right fun _ => ih).trans and_assoc.symm

lemma along_of_forall (hcond : ∀ pool caller input r, cond pool caller input r) (pool : Pool Resp σ α)
    (schedule : List (Nat × ι)) : Along h cond pool schedule := by
  induction schedule generalizing pool with
  | nil => trivial
  | cons turn rest ih => exact ⟨fun r _ => hcond _ _ _ r, ih _⟩

variable {cond' : Pool Resp σ α → Nat → ι → Req → Prop}

lemma Along.mono (halong : Along h cond pool schedule)
    (hcond : ∀ pool caller input r, cond pool caller input r → cond' pool caller input r) :
    Along h cond' pool schedule := by
  induction schedule generalizing pool with
  | nil => trivial
  | cons turn rest ih => exact ⟨fun r hr => hcond _ _ _ _ (halong.1 r hr), ih halong.2⟩

lemma Along.and (halong : Along h cond pool schedule) (halong' : Along h cond' pool schedule) :
    Along h (fun pool caller input r => cond pool caller input r ∧ cond' pool caller input r) pool schedule := by
  induction schedule generalizing pool with
  | nil => trivial
  | cons turn rest ih => exact ⟨fun r hr => ⟨halong.1 r hr, halong'.1 r hr⟩, ih halong.2 halong'.2⟩

section
variable {guard : Nat → List (Event Resp) → Req → Prop} {post : Nat → List (Event Resp) → α → Prop}
  {inv : Pool Resp σ α → Prop} {pool : Pool Resp σ α}

/-- One turn: a call that is not about to make a request stays where it is. -/
lemma along_step {turn : Nat × ι} {rest : List (Nat × ι)} (hkeep : pool.Keep guard post) (hinv : inv pool)
    (halong : Along h cond pool (turn :: rest))
    (hstep : ∀ r next, pool.calls[turn.1]? = some (.request r next) → guard turn.1 (own pool.trace turn.1) r →
      cond pool turn.1 turn.2 r → inv (pool.step h turn.1 turn.2)) :
    inv (pool.step h turn.1 turn.2) := by
  cases hcall : pool.calls[turn.1]? with
  | none => simpa only [step, hcall] using hinv
  | some call =>
    cases call with
    | done result => simpa only [step, hcall] using hinv
    | request r next => exact hstep r next hcall (hkeep turn.1 _ hcall).1 (halong.1 r (pending_of_request hcall))

section
variable (hstep : ∀ pool caller input r next, inv pool → pool.Awaits caller r next →
    pool.Keep guard post → guard caller (own pool.trace caller) r → cond pool caller input r →
    inv (pool.step h caller input))
include hstep

/-- The induction over a schedule, for runs whose steps all meet the condition. -/
lemma along_invariant (hkeep : pool.Keep guard post) (hinv : inv pool) (schedule : List (Nat × ι))
    (halong : Along h cond pool schedule) : inv (pool.run h schedule) := by
  induction schedule generalizing pool with
  | nil => exact hinv
  | cons turn rest ih =>
    refine ih (hkeep.step turn.1 turn.2) (along_step hkeep hinv halong fun r next hcall => ?_) halong.2
    exact hstep _ _ _ _ _ hinv hcall hkeep

/-- What an invariant says of the moment before a step holds along the run. -/
lemma along_conclude (hconclude : ∀ pool caller input r next, inv pool → pool.Awaits caller r next →
      guard caller (own pool.trace caller) r → cond pool caller input r → cond' pool caller input r)
    (hkeep : pool.Keep guard post) (hinv : inv pool) (schedule : List (Nat × ι))
    (halong : Along h cond pool schedule) : Along h cond' pool schedule := by
  induction schedule generalizing pool with
  | nil => trivial
  | cons turn rest ih =>
    refine ⟨fun r hr => ?_, ih (hkeep.step turn.1 turn.2) (along_step hkeep hinv halong fun r next hcall =>
      hstep _ _ _ _ _ hinv hcall hkeep) halong.2⟩
    obtain ⟨next, hcall⟩ := request_of_pending hr
    exact hconclude pool turn.1 turn.2 r next hinv hcall (hkeep turn.1 _ hcall).1 (halong.1 r hr)

end

variable (h) in
/-- How many steps of the run are of a kind. -/
def tally (kind : Pool Resp σ α → Nat → Req → Bool) : Pool Resp σ α → List (Nat × ι) → Nat
  | _, [] => 0
  | pool, turn :: rest =>
    (if (pool.pending turn.1).any (kind pool turn.1) then 1 else 0) + tally kind (pool.step h turn.1 turn.2) rest

/-- The induction over a schedule, for an invariant that speaks of how many steps of a kind
    have been taken. -/
lemma tally_invariant {kind : Pool Resp σ α → Nat → Req → Bool} {inv : Nat → Pool Resp σ α → Prop} {n : Nat}
    (hstep : ∀ n pool caller input r next, inv n pool → pool.Awaits caller r next →
      guard caller (own pool.trace caller) r → inv (n + if kind pool caller r then 1 else 0)
        (pool.step h caller input))
    (hkeep : pool.Keep guard post) (hinv : inv n pool) (schedule : List (Nat × ι)) :
    inv (n + tally h kind pool schedule) (pool.run h schedule) := by
  induction schedule generalizing pool n with
  | nil => exact hinv
  | cons turn rest ih =>
    rw [tally, ← Nat.add_assoc]
    refine ih (hkeep.step turn.1 turn.2) ?_
    cases hpending : pool.pending turn.1 with
    | none =>
      rw [step_of_pending_none hpending]
      exact hinv
    | some r =>
      obtain ⟨next, hcall⟩ := request_of_pending hpending
      exact hstep _ _ _ _ r next hinv hcall (hkeep turn.1 _ hcall).1

variable (clock : ι → Int)

/-- The times of a schedule lie between two bounds. -/
lemma exists_bounds (schedule : List (Nat × ι)) :
    ∃ first last, first ≤ last ∧ ∀ turn ∈ schedule, first ≤ clock turn.2 ∧ clock turn.2 ≤ last := by
  induction schedule with
  | nil => exact ⟨0, 0, Int.le_refl _, List.forall_mem_nil _⟩
  | cons turn rest ih =>
    obtain ⟨first, last, hle, hrest⟩ := ih
    refine ⟨min first (clock turn.2), max last (clock turn.2), by omega, fun other hmem => ?_⟩
    grind

section
variable (inv : Int → Pool Resp σ α → Prop)
  (hlater : ∀ time time' pool, inv time pool → time ≤ time' → inv time' pool)
  (hstep : ∀ pool caller input r next, inv (clock input) pool → pool.Awaits caller r next →
    pool.Keep guard post → guard caller (own pool.trace caller) r → cond pool caller input r →
    inv (clock input) (pool.step h caller input))
include hlater hstep

/-- The same under a clock that does not go back: the invariant may speak of the time,
    as long as it outlasts it. -/
lemma along_clocked {time time' : Int} (hkeep : pool.Keep guard post) (hinv : inv time pool)
    (schedule : List (Nat × ι)) (halong : Along h cond pool schedule)
    (hclock : schedule.Pairwise fun turn next => clock turn.2 ≤ clock next.2)
    (hfrom : ∀ turn ∈ schedule, time ≤ clock turn.2) (hto : ∀ turn ∈ schedule, clock turn.2 ≤ time')
    (hle : time ≤ time') : inv time' (pool.run h schedule) := by
  induction schedule generalizing pool time with
  | nil => exact hlater _ _ _ hinv hle
  | cons turn rest ih =>
    have hnow := hlater _ _ _ hinv (hfrom turn (.head _))
    obtain ⟨hfirst, hrest⟩ := List.pairwise_cons.mp hclock
    refine ih (hkeep.step turn.1 turn.2) (along_step hkeep hnow halong fun r next hcall => ?_) halong.2 hrest hfirst
      (fun next hnext => hto next (.tail _ hnext)) (hto turn (.head _))
    exact hstep _ _ _ _ _ hnow hcall hkeep

/-- From a state in which the invariant holds at any time. -/
lemma along_clocked_start (hkeep : pool.Keep guard post) (hinv : ∀ time, inv time pool)
    (schedule : List (Nat × ι)) (halong : Along h cond pool schedule)
    (hclock : schedule.Pairwise fun turn next => clock turn.2 ≤ clock next.2) :
    ∃ time, inv time (pool.run h schedule) := by
  obtain ⟨first, last, hle, hbounds⟩ := exists_bounds clock schedule
  exact ⟨last, along_clocked clock inv hlater hstep hkeep (hinv first) schedule halong hclock
    (fun turn hmem => (hbounds turn hmem).1) (fun turn hmem => (hbounds turn hmem).2) hle⟩

end
end
end Pool
