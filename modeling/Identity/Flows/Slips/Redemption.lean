import Identity.Flows.SignIn.Steps
import Identity.Repository.Slips

open identity.repository identity.memory
namespace identity.service
variable {q : Request} {caller : Nat} {own : Trace} {row : SlipRow}

/-- The call has found the slip unspent. -/
def FoundSlip (caller : Nat) (own : Trace) (slip : Slip) (owner secret : String)
    (row : SlipRow) : Prop :=
  ∃ event ∈ own, event.caller = caller ∧ slipFound event.req event.resp = some (slip, owner, secret, row) ∧
    row.spent = false

variable {slip : Slip}

lemma FoundSlip.cons (hfound : FoundSlip caller own slip owner secret row) (event : StoreEvent) :
    FoundSlip caller (event :: own) slip owner secret row := by
  obtain ⟨found, hmem, hrest⟩ := hfound
  exact ⟨found, List.mem_cons_of_mem event hmem, hrest⟩

lemma FoundSlip.suffix (hfound : FoundSlip caller own slip owner secret row) (hsuffix : own <:+ own') :
    FoundSlip caller own' slip owner secret row := by
  obtain ⟨event, hmem, hrest⟩ := hfound
  exact ⟨event, hsuffix.subset hmem, hrest⟩

/-- A lookup that has just found it. -/
lemma FoundSlip.head (hfound : slipFound q resp = some (slip, owner, secret, row))
    (hunspent : row.spent = false) : FoundSlip caller (⟨caller, q, resp⟩ :: own) slip owner secret row :=
  ⟨_, .head _, rfl, hfound, hunspent⟩

/-- What a call may do about slips: leave them alone, or spend one it has found unspent,
    at a time its clock showed. -/
inductive SlipStep (caller : Nat) (own : Trace) : Request → Prop
  | leaves {q : Request} (hleaves : q.leavesSlips = true) : SlipStep caller own q
  | spends {q : Request} {slip : Slip} {owner secret : String} {row : SlipRow}
      (hfound : FoundSlip caller own slip owner secret row) (hspends : spendsSlip slip row.nodeID q = true)
      (hclock : ∀ atMs : Int, atMs ∈ q.timestamps → (⟨caller, .clock, atMs⟩ : StoreEvent) ∈ own) :
      SlipStep caller own q

lemma leavesSlips_of_isRead (hread : q.isRead = true) : q.leavesSlips = true := by
  unfold Request.leavesSlips
  split
  · rfl
  · rfl
  · rfl
  cases q with
  | user q => cases q <;> first | rfl | cases hread
  | session | guardian | agent | clock | random | compare => rfl
  | signIn | credential => simpa [Request.leavesCredentials, Request.leavesSignIns, Request.isRead] using hread

lemma spendsSlip_not_leaves (hspends : spendsSlip slip key q = true) : q.leavesSlips = false := by
  unfold spendsSlip at hspends
  split at hspends <;> first | rfl | cases hspends

/-- A sign-in neither spends a slip nor looks one up. -/
lemma AccountStep.leaves_finds (hstep : AccountStep s accountID email q) : q.leavesSlips = true ∧
    q.findsSlip = false := by
  cases hstep with
  | read hread =>
    refine ⟨leavesSlips_of_isRead (isRead_of_isPlain hread), ?_⟩
    simpa [Request.isPlain] using (Bool.and_eq_true_iff.mp hread).2
  | _ => exact ⟨rfl, rfl⟩

lemma SignInStep.leaves_finds (hstep : SignInStep s accountID email q) : q.leavesSlips = true ∧
    q.findsSlip = false := by
  cases hstep with
  | account hstep => exact hstep.leaves_finds
  | _ => exact ⟨rfl, rfl⟩

/-- What the store's answers have in common: the clock is past the epoch, and a lookup
    finds the slip named `id` exactly when it asks for its owner and secret. -/
structure ToldOfSlip (slip : Slip) (owner secret : String) (id : Option String) (event : StoreEvent) :
    Prop where
  clock : ∀ now : Int, event = ⟨event.caller, .clock, now⟩ → 0 < now
  named : ∀ owner' secret' row, slipFound event.req event.resp = some (slip, owner', secret', row) →
    (id = some row.nodeID ↔ owner' = owner ∧ secret' = secret)

/-- A lookup that finds the slip unspent. -/
def FindsSlip (slip : Slip) (owner secret : String) (event : StoreEvent) : Prop :=
  ∃ row, slipFound event.req event.resp = some (slip, owner, secret, row) ∧ row.spent = false

def settlesSlip (slip : Slip) (id : Option String) (q : Request) : Bool := id.any fun key => spendsSlip slip key q

section
variable {id : Option String}

lemma told_handle (hnamed : SlipNamed slip owner secret id r) (caller : Nat) (q : Request) (tick : Tick) :
    ToldOfSlip slip owner secret id ⟨caller, q, (handle p q tick r).1⟩ where
  clock now heq := by
    obtain ⟨-, rfl, hresp⟩ := Event.mk.inj heq
    rw [← eq_of_heq hresp]
    exact tick.pos
  named owner' secret' row hfound := by
    obtain ⟨hrow, hsame⟩ := slipFound_row hnamed.keyed hfound
    rw [(hnamed _ _ hrow).2, hsame.1, hsame.2.1]

section
variable (hstep : SlipStep caller own q) (htold : ∀ event ∈ own, ToldOfSlip slip owner secret id event)
include hstep htold

lemma SlipStep.follow (tick : Tick)
    (r : Repo) : SlipsFollow r (handle p q tick r).2 := by
  cases hstep with
  | leaves hleaves => exact .of_eq (handle_slips hleaves p tick r)
  | spends hfound hspends hclock =>
    have hpos : ∀ atMs ∈ q.timestamps, 0 < atMs := fun atMs hmem => (htold _ (hclock atMs hmem)).clock atMs rfl
    exact (handle_spends hspends hpos p tick r).follow

lemma SlipStep.spent (hspends : spendsSlip slip key q = true) (tick : Tick) (r : Repo) :
    SpentSlip (handle p q tick r).2 slip key := by
  cases hstep with
  | leaves hleaves =>
    rw [spendsSlip_not_leaves hspends] at hleaves
    cases hleaves
  | spends hfound _ hclock =>
    have hpos : ∀ atMs ∈ q.timestamps, 0 < atMs := fun atMs hmem => (htold _ (hclock atMs hmem)).clock atMs rfl
    exact (handle_spends hspends hpos p tick r).spent

end

/-- Calls whose steps are all slip steps redeem a slip once, if they act on it only after
    finding it and have spent it by the time they return. -/
lemma slip_oneShot {guard : Nat → Trace → Request → Prop}
    (hsteps : ∀ caller own q, guard caller own q → SlipStep caller own q)
    (hacted : ∀ caller own q resp, (∀ event ∈ own, ToldOfSlip slip owner secret id event) → guard caller own q →
      acts ⟨caller, q, resp⟩ → Pool.Took (FindsSlip slip owner secret) own caller)
    (hfinished : ∀ caller own result, (∀ event ∈ own, ToldOfSlip slip owner secret id event) →
      post caller own result → Pool.Took acts own caller →
      Pool.Took (fun event => settlesSlip slip id event.req = true) own caller) :
    Pool.OneShot (handle p) guard post (SlipNamed slip owner secret id) (fun r => ∀ key, id = some key →
      SpentSlip r slip key)
      (ToldOfSlip slip owner secret id) (FindsSlip slip owner secret) acts (asksSlip slip owner secret)
      (settlesSlip slip id) where
  kept r caller own q tick hnamed htold hguard := hnamed.follow ((hsteps caller own q hguard).follow htold tick r)
  answers r caller q tick hnamed := told_handle hnamed caller q tick
  opened := by
    rintro r caller q tick hnamed ⟨row, hfound, hunspent⟩
    obtain ⟨hrow, howner, hsecret, hasks⟩ := slipFound_row hnamed.keyed hfound
    grind
  stays := by
    intro r caller own q tick hnamed htold hguard hspent key hid row' hrow'
    obtain ⟨row, hrow, hfollows⟩ := (hsteps caller own q hguard).follow (p := p) htold tick r slip key row' hrow'
    exact hfollows.spent (hspent key hid row hrow)
  settled := by
    intro r caller own q tick hnamed htold hguard hsettles key hid
    subst hid
    exact (hsteps caller own q hguard).spent htold hsettles tick r
  acted := hacted
  finished := hfinished

end
end identity.service
