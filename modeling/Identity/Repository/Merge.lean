import Identity.Repository.Identifiers

/-! A merge moves everything that has to move, or nothing at all. -/

open identity.service identity.memory
namespace identity.repository
open AccountMerge GoMap

/-- What a merge leaves of a store. -/
structure Merged (m : AccountMerge) (r r' : Repo) : Prop where
  retired : ∃ other, r'.users.lookup m.otherID = some other ∧ other.status = statusDeactivated ∧
    other.mergedIntoUserID = m.survivorID
  unlinked : ∀ key link, r'.oauthIdentities.lookup key = some link → link.userID ≠ m.otherID
  links : ∀ key link, r.oauthIdentities.lookup key = some link → link.userID = m.otherID ∨ link.userID = m.survivorID →
    r'.oauthIdentities.lookup key = some { link with userID := m.survivorID }
  tokens : ∀ key token, r'.refreshTokens.lookup key = some token → token.userID ≠ m.otherID
  sessions : ∀ key se, r'.sessions.lookup key = some se → se.userID = m.otherID → se.revokedAtMs ≠ 0
  owners : ∀ key u, r'.users.lookup key = some u → u.ownerUserID ≠ m.otherID ∧ u.pendingOwnerUserID ≠ m.otherID
  offers : ∀ key u u', r.users.lookup key = some u → r'.users.lookup key = some u' →
    u'.ownerUserID ≠ u.ownerUserID ∨ u'.pendingOwnerUserID ≠ u.pendingOwnerUserID →
      u'.pendingOwnerUserID = "" ∨ u'.pendingOwnerUserID ≠ u'.ownerUserID
  unique : IdentifiersUnique r'.users
  revoked : ∀ key u u', r.users.lookup key = some u → r'.users.lookup key = some u' →
    key = m.otherID ∨ u'.ownerUserID ≠ u.ownerUserID → UserRevoked key r'
  others : ∀ key, key ≠ m.survivorID → key ≠ m.otherID →
    r'.users.lookup key = r.users.lookup key ∨ ∃ u owner pending, r.users.lookup key = some u ∧
      (u.ownerUserID = m.otherID ∨ u.pendingOwnerUserID = m.otherID ∨ u.pendingOwnerUserID = m.survivorID) ∧
      r'.users.lookup key = some { u with ownerUserID := owner, pendingOwnerUserID := pending }

/-- Nothing was changed, so nothing is revoked. -/
lemma revokeChangedUsers_self (r : Repo) (atMs : Int) : r.revokeChangedUsers r.users atMs = r := by
  have hloop : ∀ visited : List (Sigma fun _ : String => User),
    (∀ entry ∈ visited, r.users.lookup entry.1 = some entry.2) →
      visited.foldl (fun r' entry => r'.revokeAgentOAuthUserLocked (some entry.2) (r'.users.lookup entry.1) atMs)
        r = r := by
    intro visited hvisited
    induction visited with
    | nil => rfl
    | cons entry rest ih =>
      have hkept : r.revokeAgentOAuthUserLocked (some entry.2) (r.users.lookup entry.1) atMs = r := by
        rw [hvisited entry (.head _)]
        simp [Repo.revokeAgentOAuthUserLocked, authority_kept_self]
      rw [List.foldl_cons, hkept]
      exact ih fun other hother => hvisited other (.tail _ hother)
  exact hloop _ fun entry hentry => AList.mem_lookup_iff.mpr hentry

/-- The columns of a row that the loop over agents writes. -/
lemma applyToAgent_eq (m : AccountMerge) (u : User) : m.applyToAgent u = u ∨
    (u.ownerUserID = m.otherID ∨ u.pendingOwnerUserID = m.otherID ∨ u.pendingOwnerUserID = m.survivorID) ∧
      ∃ owner pending, m.applyToAgent u = { u with ownerUserID := owner, pendingOwnerUserID := pending } := by
  by_cases htouched : u.ownerUserID = m.otherID ∨ u.pendingOwnerUserID = m.otherID ∨
    u.pendingOwnerUserID = m.survivorID
  · refine .inr ⟨htouched, ?_⟩
    unfold applyToAgent
    simp only
    split <;> split <;> exact ⟨_, _, rfl⟩
  · simp only [not_or] at htouched
    simp [applyToAgent, htouched]

lemma mergeRows_merged (hkeyed : KeyedUsers r) (hnamed : r.users.lookup "" = none) (hpos : 0 < m.atMs)
    (hok : m.applyToUsers (r.users.lookup m.survivorID) (r.users.lookup m.otherID) = .ok (survivor, other))
    (hafter : (r.mergeRows m survivor other).revokeChangedUsers r.users m.atMs = r') (hunique' :
      IdentifiersUnique r'.users) :
    Merged m r r' := by
  obtain ⟨s0, o0, hs0, ho0, -, hmergeable, hdiffer, -, -, hstatus, hmerged⟩ := applyToUsers_ok hok
  obtain ⟨creations, hrows⟩ := mergeRows_frame r m survivor other
  have hframe := (revokeChangedUsers_grantsOnly (r.mergeRows m survivor other) r.users m.atMs).frame
  have husers : r'.users = (r.mergeRows m survivor other).users := by rw [← hafter, hframe]
  have hlinks : r'.oauthIdentities =
      r.oauthIdentities.mapRows fun oi => if oi.userID == m.otherID then { oi with userID := m.survivorID }
        else oi := by
    rw [← hafter, hframe, hrows]
    rfl
  have htokens : r'.refreshTokens = deleteByUser r.refreshTokens m.otherID (·.userID) := by
    rw [← hafter, hframe, hrows]
    rfl
  have hsessions : r'.sessions = (r.mergeRows m survivor other).sessions := by rw [← hafter, hframe]
  have hretired : (r.mergeRows m survivor other).users.lookup m.otherID = some (m.applyToAgent other) := by
    rw [mergeRows_lookup_users, if_pos rfl]
    rfl
  refine
    { retired := ⟨m.applyToAgent other, husers ▸ hretired, (applyToAgent_status m other).trans hstatus, ?_⟩
      unlinked := fun key link hlink => ?_
      links := fun key link hlink hheld => ?_
      tokens := fun key token htoken => ?_
      sessions := fun key se hse hheld => ?_
      owners := fun key u' hu' => ?_
      offers := fun key u u' hu hu' htouched => ?_
      unique := hunique'
      revoked := fun key u u' hu hu' hmoved => ?_
      others := fun key hsurvivor hne => ?_ }
  · unfold applyToAgent
    simp only
    split <;> split <;> exact hmerged
  · rw [hlinks, lookup_mapRows, Option.map_eq_some_iff] at hlink
    grind
  · rw [hlinks, lookup_mapRows, hlink, Option.map_some]
    rcases hheld with heq | heq
    · rw [if_pos (beq_iff_eq.mpr heq)]
    · rw [if_neg (by simpa [heq] using hdiffer.symm), ← heq]
  · rw [htokens] at htoken
    simpa using (lookup_keep_eq_some.mp htoken).2
  · rw [hsessions, mergeRows_lookup_sessions, Option.map_eq_some_iff] at hse
    grind
  · obtain ⟨u, v, -, rfl, -, howner, hpending, -⟩ := mergeRows_row hok (husers ▸ hu')
    grind [applyToAgent_owners]
  · obtain ⟨_, v, hv, rfl, -, howner, hpending, -⟩ := mergeRows_row hok (husers ▸ hu')
    grind [applyToAgent_owners]
  · -- the deferred loop compares every row with the one it was
    rw [husers] at hu'
    have hlost : agentOAuthAuthorityLost (some u) (some u') = true := by
      rcases hmoved with rfl | howner
      · obtain rfl := Option.some.inj (hu.symm.trans ho0)
        obtain rfl := Option.some.inj (hu'.symm.trans hretired)
        exact retired_authorityLost hmergeable hstatus
      · exact oauthAuthorityLost_of_owner howner
    have hrevoked := revokeChangedUsers_revokes hpos hu (hu' ▸ hlost)
    rwa [hkeyed key u hu, hafter] at hrevoked
  · rw [husers, mergeRows_lookup_users, if_neg hne, if_neg hsurvivor]
    cases r.users.lookup key with
    | none => exact .inl rfl
    | some u =>
      rcases applyToAgent_eq m u with hsame | ⟨htouched, owner, pending, heq⟩
      · exact .inl (congrArg some hsame)
      · exact .inr ⟨u, owner, pending, rfl, htouched, congrArg some heq⟩

/-- A merge at a time the store can record is complete when it succeeds, and a refused one
    changes nothing. -/
theorem account_merge_complete (r : Repo) (hkeyed : KeyedUsers r) (hnamed : r.users.lookup "" = none)
    (hunique : IdentifiersUnique r.users) (m : AccountMerge) (hpos : 0 < m.atMs) :
    (∀ err, (r.applyAccountMerge m).1 = .error err → (r.applyAccountMerge m).2 = r) ∧
      ((r.applyAccountMerge m).1 = .ok () → Merged m r (r.applyAccountMerge m).2) := by
  have hunique' := applyAccountMerge_unique hunique m
  unfold Repo.applyAccountMerge at hunique' ⊢
  cases hok : m.applyToUsers (r.users.lookup m.survivorID) (r.users.lookup m.otherID) with
  | error err => exact ⟨fun _ _ => revokeChangedUsers_self r m.atMs, fun hsucceeds => by cases hsucceeds⟩
  | ok moved =>
    rw [hok] at hunique'
    exact ⟨fun _ hfails => (by cases hfails), fun _ => mergeRows_merged hkeyed hnamed hpos hok rfl hunique'⟩

/-- Two accounts, and a session of the one that is to go. -/
def samplePair : Repo :=
  { ((new.createUser sampleBob).2.createUser { sampleBob with id := "ann", username := "" }).2 with
    sessions := AList.insert "s" { sid := "s", userID := "ann", createdAtMs := 1 } ∅ }

def sampleMerge (atMs : Int) : AccountMerge := { survivorID := "bob", otherID := "ann", atMs }

lemma samplePair_named : AccountsNamed samplePair :=
  (createUser_named (createUser_named accountsNamed_new (ne_memID_of_head "bob" (by decide)))
    (ne_memID_of_head "ann" (by decide))).of_users rfl le_rfl

theorem account_merge_complete_sample : (samplePair.applyAccountMerge (sampleMerge 5)).1 = .ok () ∧
    Merged (sampleMerge 5) samplePair (samplePair.applyAccountMerge (sampleMerge 5)).2 :=
  ⟨rfl, (account_merge_complete samplePair samplePair_named.keyed rfl samplePair_named.unique (sampleMerge 5)
    (by decide)).2 rfl⟩

/-- A merge stamped with time zero leaves the session of the retired account unrevoked. -/
theorem merge_at_zero_leaves_session : AccountsNamed samplePair ∧
    (samplePair.applyAccountMerge (sampleMerge 0)).1 = .ok () ∧
    ((samplePair.applyAccountMerge (sampleMerge 0)).2.sessions.lookup "s").map
      (fun se => (se.userID, se.revokedAtMs)) = some ("ann", 0) :=
  ⟨samplePair_named, rfl, rfl⟩

end identity.repository
