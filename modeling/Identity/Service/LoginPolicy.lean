import Mathlib.Algebra.Order.Ring.Int
import Identity.Service.Errors

namespace identity.service

/-- What a tenant's login policy says about how long a session lasts, in seconds; zero
    sets no limit. -/
structure LoginPolicy where
  sessionIdleTimeoutSeconds : Int
  sessionAbsoluteTimeoutSeconds : Int

/-- Which of a policy's session timeouts a session has passed. -/
inductive SessionTimeoutBreach where
  | noTimeoutBreached
  | absoluteTimeoutBreached
  | idleTimeoutBreached
deriving DecidableEq, Repr

def msPerSecond : Int := 1000

/-- A product of two 64-bit integers, which wraps. -/
def int64Mul (a b : Int) : Int := (a * b).bmod (2 ^ 64)

/-- The absolute timeout is measured from the session's start and the idle one from its
    last use; a zero timestamp passes. -/
def breachedSessionTimeout (p : LoginPolicy) (nowMs sessionStartedAtMs lastUsedAtMs : Int) : SessionTimeoutBreach :=
  if p.sessionAbsoluteTimeoutSeconds > 0 ∧ sessionStartedAtMs > 0 ∧
      nowMs - sessionStartedAtMs > int64Mul p.sessionAbsoluteTimeoutSeconds msPerSecond then .absoluteTimeoutBreached
  else if p.sessionIdleTimeoutSeconds > 0 ∧ lastUsedAtMs > 0 ∧
      nowMs - lastUsedAtMs > int64Mul p.sessionIdleTimeoutSeconds msPerSecond then .idleTimeoutBreached
  else .noTimeoutBreached

/-- Without a policy for the address no session times out. -/
def enforceSessionTimeout (resolveLoginPolicy : String → Option LoginPolicy) (email : String)
    (nowMs sessionStartedAtMs lastUsedAtMs : Int) : Except Err Unit :=
  match resolveLoginPolicy email with
  | none => .ok ()
  | some policy =>
    match breachedSessionTimeout policy nowMs sessionStartedAtMs lastUsedAtMs with
    | .absoluteTimeoutBreached => .error (.wrapped .sessionExpired "session exceeded its maximum lifetime")
    | .idleTimeoutBreached => .error (.wrapped .sessionExpired "session timed out due to inactivity")
    | .noTimeoutBreached => .ok ()

/-- A product that fits in 64 bits is not wrapped. -/
lemma int64Mul_eq (hnonneg : 0 ≤ a * b) (hfits : a * b < 2 ^ 63) : int64Mul a b = a * b := by
  refine Int.bmod_eq_of_le ?_ ?_
  · exact Int.le_trans (by decide) hnonneg
  · exact Int.lt_of_lt_of_le hfits (by decide)

/-- A session past its absolute timeout is not let through. -/
lemma enforceSessionTimeout_expired (hpolicy : resolveLoginPolicy email = some policy)
    (hset : 0 < policy.sessionAbsoluteTimeoutSeconds)
    (hfits : policy.sessionAbsoluteTimeoutSeconds * msPerSecond < 2 ^ 63) (hstarted : 0 < sessionStartedAtMs)
    (hpast : sessionStartedAtMs + policy.sessionAbsoluteTimeoutSeconds * msPerSecond < nowMs) (lastUsedAtMs : Int) :
    enforceSessionTimeout resolveLoginPolicy email nowMs sessionStartedAtMs lastUsedAtMs ≠ .ok () := by
  have hnonneg : 0 ≤ policy.sessionAbsoluteTimeoutSeconds * msPerSecond :=
    Int.mul_nonneg (Int.le_of_lt hset) (by decide)
  have hbreached : breachedSessionTimeout policy nowMs sessionStartedAtMs lastUsedAtMs = .absoluteTimeoutBreached := by
    rw [breachedSessionTimeout, int64Mul_eq hnonneg hfits, if_pos ⟨hset, hstarted, by omega⟩]
  rw [enforceSessionTimeout, hpolicy]
  simp only [hbreached]
  exact nofun

end identity.service
