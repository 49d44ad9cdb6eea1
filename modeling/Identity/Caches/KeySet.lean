import Identity.Interleaving.Condition

/-! `pkg/oauth`: the cached key set of a provider and the tokens verified against it. -/

namespace identity.oauth
open Pool

/-- The JOSE library: the key id and algorithm of a token's first signature, if it has one,
    the payload that a key verifies, and the lookups in a key set. -/
structure Jose (KeySet Key : Type) where
  parse : String → Except String (Option (String × String))
  verify : String → String → Key → Except String String
  quote : String → String
  len : KeySet → Nat
  lookupKeyID : KeySet → String → Option Key
  key : KeySet → Nat → Option Key

structure JwsError where
  text : String
  keyNotFound : Bool := false

def errKeyNotFound (detail : String) : JwsError := ⟨"key not found in jwks: " ++ detail, true⟩

variable {KeySet Key : Type} (jose : Jose KeySet Key)

/-- Without a key id the first key is tried. -/
def signingKey (kid : String) (set : KeySet) : Except JwsError Key :=
  if kid ≠ "" then
    match jose.lookupKeyID set kid with
    | none => .error (errKeyNotFound ("kid=" ++ jose.quote kid))
    | some key => .ok key
  else if jose.len set = 0 then .error (errKeyNotFound "empty")
  else
    match jose.key set 0 with
    | none => .error (errKeyNotFound "first key missing")
    | some key => .ok key

def verifyJWSWithAlgs (raw : String) (set : KeySet) (allowedAlgs : List String) : Except JwsError String := do
  let some (kid, alg) ← (jose.parse raw).mapError fun e => { text := "parse jws: " ++ e }
    | throw { text := "jws has no signatures" }
  if alg = "" then throw { text := "jws missing alg" }
  if alg ∉ allowedAlgs then throw { text := "unexpected jws alg: " ++ alg }
  let key ← signingKey jose kid set
  (jose.verify raw alg key).mapError fun e => { text := "verify jws: " ++ e }

structure JwksCache (KeySet : Type) where
  set : Option KeySet
  fetchedAt : Int

/-- What a step meets: the time, what a fetch would bring, and the time after it. -/
structure KeyMoment (KeySet : Type) where
  now : Int
  fetched : Except String KeySet
  fetchedAt : Int

def JwksCache.get (ttl : Int) (m : KeyMoment KeySet) (c : JwksCache KeySet) :
    Except String KeySet × JwksCache KeySet :=
  match c.set.filter fun _ => m.now - c.fetchedAt < ttl, m.fetched, c.set with
  | some set, _, _ => (.ok set, c)
  | none, .ok set, _ => (.ok set, ⟨some set, m.fetchedAt⟩)
  | none, .error _, some set => (.ok set, c)
  | none, .error e, none => (.error e, c)

inductive KeyRequest where
  | get
  | invalidate

def KeyRequest.Response (KeySet : Type) : KeyRequest → Type
  | get => Except String KeySet
  | invalidate => Unit

def JwksCache.handle (ttl : Int) : Handler (KeyRequest.Response KeySet) (KeyMoment KeySet) (JwksCache KeySet)
  | .get, m, c => c.get ttl m
  | .invalidate, _, _ => ((), ⟨none, 0⟩)

/-- Every failure is an `ErrIdentityVerification`. -/
def verificationError (text : String) : String := "oauth: identity verification failed: " ++ text

def wrapped : Except JwsError String → Except String String := Except.mapError (verificationError ·.text)

def verifyJWSWithRotation (raw : String) (algs : List String) :
    Call (KeyRequest.Response KeySet) (Except String String) :=
  .request .get fun
    | .error e => .done (.error (verificationError ("jwks: " ++ e)))
    | .ok set =>
      match verifyJWSWithAlgs jose raw set algs with
      | .error ⟨text, true⟩ =>
        -- the key may have come with a rotation: drop the set and try once more
        .request .invalidate fun _ => .request .get fun
          | .error _ => .done (wrapped (.error ⟨text, true⟩))
          | .ok set2 => .done (wrapped (verifyJWSWithAlgs jose raw set2 algs))
      | outcome => .done (wrapped outcome)

abbrev KeyPool (KeySet : Type) := Pool (KeyRequest.Response KeySet) (JwksCache KeySet) (Except String String)

/-- The calls on one cache that holds the last set fetched. -/
def sharing (last : KeySet) (fetchedAt : Int) (calls : List (String × List String)) : KeyPool KeySet :=
  .start ⟨some last, fetchedAt⟩ (calls.map fun call => verifyJWSWithRotation jose call.1 call.2)

/-- The token's key is not in the last set. -/
def Unknown (last : KeySet) (call : String × List String) : Prop :=
  ∃ text, verifyJWSWithAlgs jose call.1 last call.2 = .error ⟨text, true⟩

/-- The last set is in place, and the calls that have had a turn were answered from it. -/
structure Served (last : KeySet) (calls : List (String × List String)) (moved : List Nat) (pool : KeyPool KeySet) :
    Prop where
  set : pool.store.set = some last
  calls : ∀ caller : Nat, pool.calls[caller]? = calls[caller]?.map fun call =>
    if caller ∈ moved then .done (wrapped (verifyJWSWithAlgs jose call.1 last call.2))
    else verifyJWSWithRotation jose call.1 call.2

section
variable {jose} {last : KeySet} {ttl : Int} {m : KeyMoment KeySet} {calls : List (String × List String)}

lemma get_down (hset : c.set = some last) (hdown : m.fetched = .error e) : JwksCache.get ttl m c = (.ok last, c) := by
  unfold JwksCache.get
  cases hfresh : c.set.filter fun _ => m.now - c.fetchedAt < ttl with
  | none => simp only [hset, hdown]
  | some set => grind

section
variable (hknown : ∀ call ∈ calls, ¬ Unknown jose last call)
include hknown

lemma Served.step (hserved : Served jose last calls moved pool) (hdown : m.fetched = .error e) (caller : Nat) :
    Served jose last calls (caller :: moved) (pool.step (JwksCache.handle ttl) caller m) := by
  have hcall := hserved.calls caller
  by_cases hwaits : caller < calls.length ∧ caller ∉ moved
  · rw [List.getElem?_eq_getElem hwaits.1, Option.map_some, if_neg hwaits.2, verifyJWSWithRotation] at hcall
    rw [step_request hcall]
    simp only [JwksCache.handle, get_down hserved.set hdown]
    refine ⟨hserved.set, fun other => ?_⟩
    split
    · exact absurd ⟨_, ‹_›⟩ (hknown _ (List.getElem_mem hwaits.1))
    · by_cases hsame : caller = other
      · subst hsame
        rw [List.getElem?_set_self (List.getElem?_eq_some_iff.mp hcall).1, List.getElem?_eq_getElem hwaits.1,
          Option.map_some, if_pos (.head _)]
      · simp [List.getElem?_set_ne hsame, hserved.calls, Ne.symm hsame]
  · have hstays : pool.step (JwksCache.handle ttl) caller m = pool := by
      unfold Pool.step
      grind
    rw [hstays]
    refine ⟨hserved.set, fun other => (hserved.calls other).trans ?_⟩
    grind

/-- While no token names a key that the last set lacks, no call drops it. -/
lemma Served.run (hserved : Served jose last calls moved pool)
    (hdown : ∀ turn ∈ schedule, ∃ e, turn.2.fetched = .error e) :
    Served jose last calls ((schedule.map Prod.fst).reverse ++ moved) (pool.run (JwksCache.handle ttl) schedule) := by
  induction schedule generalizing pool moved with
  | nil => exact hserved
  | cons turn rest ih =>
    obtain ⟨e, hdown1⟩ := hdown turn (.head _)
    rw [List.map_cons, List.reverse_cons, List.append_assoc]
    exact ih (hserved.step hknown hdown1 turn.1) fun later hlater => hdown later (.tail _ hlater)

end

/-- A token whose key the last set lacks takes the set away from the next caller. -/
lemma unknown_drops (hunknown : Unknown jose last stray) (hstray : calls[i]? = some stray)
    (hcaller : calls[caller]? = some call) (hverifies : verifyJWSWithAlgs jose call.1 last call.2 = .ok payload)
    (hdown : m.fetched = .error e) :
    ((sharing jose last fetchedAt calls).run (JwksCache.handle ttl) [(i, m), (i, m), (caller, m)]).result caller =
      some (.error (verificationError ("jwks: " ++ e))) := by
  obtain ⟨text, hunknown⟩ := hunknown
  obtain ⟨hi, rfl⟩ := List.getElem?_eq_some_iff.mp hstray
  obtain ⟨hlt, rfl⟩ := List.getElem?_eq_some_iff.mp hcaller
  have hne : i ≠ caller := by
    rintro rfl
    cases hverifies.symm.trans hunknown
  have hget : JwksCache.get ttl m ⟨some last, fetchedAt⟩ = (.ok last, ⟨some last, fetchedAt⟩) := get_down rfl hdown
  have hempty : JwksCache.get ttl m ⟨none, 0⟩ = (.error e, ⟨none, 0⟩) := by simp [JwksCache.get, hdown]
  simp [Pool.run, Pool.step, result, sharing, start, verifyJWSWithRotation, JwksCache.handle, hunknown,
    hget, hempty, hne, hi, hlt]

end

/-- Through an outage every call that the last set verifies succeeds on its first turn, exactly
    when no call names a key that set lacks. -/
theorem outage_spares_iff (ttl : Int) (last : KeySet) (fetchedAt : Int) (calls : List (String × List String)) :
    (∀ schedule : List (Nat × KeyMoment KeySet), (∀ turn ∈ schedule, ∃ e, turn.2.fetched = .error e) →
      ∀ caller call payload, calls[caller]? = some call → verifyJWSWithAlgs jose call.1 last call.2 = .ok payload →
        caller ∈ schedule.map Prod.fst →
          ((sharing jose last fetchedAt calls).run (JwksCache.handle ttl) schedule).result caller =
            some (.ok payload)) ↔
      (∀ call ∈ calls, ¬ Unknown jose last call) ∨
        ∀ call ∈ calls, ∀ payload, verifyJWSWithAlgs jose call.1 last call.2 ≠ .ok payload := by
  constructor
  · intro hspares
    by_contra! hboth
    obtain ⟨⟨stray, hstray, hunknown⟩, call, hcall, payload, hverifies⟩ := hboth
    obtain ⟨i, hi⟩ := List.getElem?_of_mem hstray
    obtain ⟨caller, hcaller⟩ := List.getElem?_of_mem hcall
    have hspared := hspares [(i, ⟨0, .error "", 0⟩), (i, ⟨0, .error "", 0⟩), (caller, ⟨0, .error "", 0⟩)]
      (by simp) caller call payload hcaller hverifies (by simp)
    rw [unknown_drops hunknown hi hcaller hverifies rfl] at hspared
    cases hspared
  · rintro (hknown | hnone) schedule hdown caller call payload hcaller hverifies hturn
    · have hstart : Served jose last calls [] (sharing jose last fetchedAt calls) :=
        ⟨rfl, fun caller => by simp [sharing, start]⟩
      rw [result, (hstart.run hknown hdown).calls caller, hcaller, Option.map_some, if_pos (by simpa using hturn),
        hverifies]
      rfl
    · exact absurd hverifies (hnone call (List.mem_of_getElem? hcaller) payload)

/-- A token with a made-up key id, then one that the last set verifies. -/
theorem stray_token_fails_next :
    let jose : Jose (List (String × Unit)) Unit := ⟨fun raw => .ok (some (raw, "RS256")), fun raw _ _ => .ok raw, id,
      List.length, fun set kid => set.lookup kid, fun set i => set[i]?.map Prod.snd⟩
    let down : KeyMoment (List (String × Unit)) := ⟨0, .error "jwks fetch: HTTP 503", 0⟩
    verifyJWSWithAlgs jose "known" [("known", ())] ["RS256"] = .ok "known" ∧
      ((sharing jose [("known", ())] 0 [("stray", ["RS256"]), ("known", ["RS256"])]).run (JwksCache.handle 3600)
        [(0, down), (0, down), (1, down)]).result 1 =
          some (.error "oauth: identity verification failed: jwks: jwks fetch: HTTP 503") := ⟨rfl, rfl⟩

end identity.oauth
