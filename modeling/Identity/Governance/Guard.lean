import Identity.Governance.Membership

/-! What each transaction has done when it asks for a statement. -/

open identity.service
namespace identity.postgres
namespace MembershipTask

/-- The user whose membership a call locks by name first. -/
def subject : MembershipTask → Option String
  | remove userID => some userID
  | suspend userID => some userID
  | restore userID _ => some userID
  | transfer _ _ => none
  | grant userID _ _ => some userID
  | join userID => some userID
  | ensure _ => none

/-- The user whom a call takes out of the active members. -/
def takes : MembershipTask → Option String
  | remove userID => some userID
  | suspend userID => some userID
  | _ => none

end MembershipTask

section Readings
variable (i : Nat) (own : DbTrace)

def Statement.ends : Statement → Bool
  | commit _ => true
  | rollback _ => true
  | _ => false

def Statement.writes : Statement → Bool
  | writeRow _ _ _ => true
  | grant _ _ _ _ => true
  | _ => false

/-- The transaction has not ended. -/
@[grind =]
def Open : Prop := ∀ event ∈ own, event.req.ends = false

def Unwritten : Prop := ∀ event ∈ own, event.req.writes = false

@[grind =]
def LockedByName (userID : String) : Prop := ⟨i, .lockMembership i userID, ()⟩ ∈ own

@[grind =]
def Selected (rows : List TenantMembership) : Prop := ∃ userIDs, ⟨i, .selectOwnersAnd i userIDs, rows⟩ ∈ own

/-- The row was locked and read again. -/
@[grind =]
def Locked (row : TenantMembership) (found : Option TenantMembership) : Prop := ⟨i, .lockRow i row, found⟩ ∈ own

/-- The user's membership as it stands under the lock. -/
@[grind =]
def Held (userID : String) (m : TenantMembership) : Prop := m.userID = userID ∧ ∃ row, Locked i own row (some m)

/-- Every row that was read has been locked. -/
@[grind =]
def Passed : Prop := ∃ rows, Selected i own rows ∧ ∀ row ∈ rows, ∃ found, Locked i own row found

@[grind =]
def Counted (userID : String) : Prop := ∃ others, others ≠ 0 ∧ ⟨i, .countOtherOwners i userID, others⟩ ∈ own

/-- The call may take the member out: there is another active owner if this is one. -/
def MayTake (userID : String) (m : TenantMembership) : Prop :=
  Held i own userID m ∧ (m.isActiveOwner = true → Counted i own userID)

end Readings

/-- When a call writes a row. -/
def WriteAllowed (i : Nat) (own : DbTrace) (userID : String) : MembershipTask → RowWrite → Prop
  | .remove target, .delete => userID = target ∧ Unwritten own ∧ ∃ m, MayTake i own userID m
  | .suspend target, .suspend => userID = target ∧ Unwritten own ∧ ∃ m, MayTake i own userID m ∧ m.status = .active
  | .restore target by', .restore =>
    userID = target ∧ Unwritten own ∧ (∃ m, Held i own userID m ∧ m.status = .suspended) ∧
      (by'.isOperator = true ∨ ∃ m, Held i own by'.userID m ∧ m.governs = true)
  | .transfer _ toID, .makeOwner => userID = toID ∧ Unwritten own ∧ ∃ m, Held i own userID m ∧ m.status = .active
  | .transfer fromID toID, .makeAdmin => userID = fromID ∧ fromID ≠ toID ∧
      (∃ m, Held i own userID m ∧ m.isActiveOwner = true) ∧ ∃ m, ⟨i, .writeRow i toID .makeOwner, m⟩ ∈ own
  | _, _ => False

/-- What a call asks for, given the statements it has run. -/
def Asks (task : MembershipTask) (i : Nat) (own : DbTrace) : Statement → Prop
  | .lockMembership tx userID => tx = i ∧ task.subject = some userID ∧ Unwritten own
  | .selectOwnersAnd tx _ =>
    tx = i ∧ Unwritten own ∧ (∀ userID, task.subject = some userID → LockedByName i own userID) ∧
      ∀ rows, ¬ Selected i own rows
  | .lockRow tx row => tx = i ∧ Unwritten own ∧ ∃ rows, Selected i own rows ∧ row ∈ rows
  | .readMembership tx _ => tx = i
  | .countOtherOwners tx userID => tx = i ∧ Unwritten own ∧ task.takes = some userID ∧ Passed i own ∧
      ∃ m, Held i own userID m ∧ m.isActiveOwner = true
  | .writeRow tx userID write => tx = i ∧ WriteAllowed i own userID task write ∧
      ∀ userID, task.subject = some userID → LockedByName i own userID
  | .grant tx userID source role => tx = i ∧ Unwritten own ∧ LockedByName i own userID ∧
      (task = .grant userID source role ∨ task = .join userID ∧ ⟨i, .isRemoved i userID, false⟩ ∈ own)
  | .recordRemoval tx userID => tx = i ∧ task = .remove userID ∧ LockedByName i own userID
  | .clearRemoval tx userID => tx = i ∧ (∃ source role, task = .grant userID source role) ∧ LockedByName i own userID
  | .isRemoved tx userID => tx = i ∧ task = .join userID ∧ LockedByName i own userID
  | .doorOpen tx => tx = i
  | .upsertDerived userID => task = .ensure userID
  | .commit tx => tx = i ∧ ∀ userID, task = .remove userID →
      (∃ m, ⟨i, .writeRow i userID .delete, m⟩ ∈ own) ∧ ⟨i, .recordRemoval i userID, ()⟩ ∈ own
  | .rollback tx => tx = i

/-- The transaction is open and asks for what it may. -/
@[grind =]
def Proceeds (task : MembershipTask) (i : Nat) (own : DbTrace) (statement : Statement) : Prop :=
  Open own ∧ Asks task i own statement

lemma Open.cons (hopen : Open own) (hgoes : statement.ends = false) : Open (⟨i, statement, resp⟩ :: own) :=
  List.forall_mem_cons.mpr ⟨hgoes, hopen⟩

lemma Unwritten.cons (hunwritten : Unwritten own)
    (hreads : statement.writes = false) : Unwritten (⟨i, statement, resp⟩ :: own) :=
  List.forall_mem_cons.mpr ⟨hreads, hunwritten⟩

/-- The call that returns early rolls back. -/
lemma abandon_keeps (hopen : Open own) (result : Except Err (Option TenantMembership)) :
    (abandon i result).Asks i (Proceeds task i) own :=
  ⟨⟨hopen, rfl⟩, fun _ => trivial⟩

/-- What the pass over the rows adds to the statements of a call. -/
@[grind]
structure PassedOver (own : DbTrace) (i : Nat) (rows result : List TenantMembership)
    (own' : DbTrace) : Prop where
  before : own <:+ own'
  goes : Open own'
  unwritten : Unwritten own'
  locked : ∀ row ∈ rows, ∃ found, Locked i own' row found
  found : ∀ m ∈ result, ∃ row, Locked i own' row (some m)

variable (userIDs : List String)

lemma lockRows_keeps (rows : List TenantMembership) (hopen : Open own)
    (hunwritten : Unwritten own) (hselected : Selected i own all) (hrows : ∀ row ∈ rows, row ∈ all) :
    (lockRows i userIDs rows).Keeps i (Proceeds task i) (fun own' result => PassedOver own i rows result own')
      own := by
  induction rows generalizing own with
  | nil => exact ⟨List.suffix_refl _, hopen, hunwritten, by simp, by simp⟩
  | cons row rest ih =>
    refine .ask ⟨hopen, rfl, hunwritten, all, hselected, hrows row (.head _)⟩ fun found => ?_
    obtain ⟨ids, hids⟩ := hselected
    refine .bind ((ih (hopen.cons rfl) (hunwritten.cons rfl) ⟨ids, .tail _ hids⟩
      fun other hother => hrows other (.tail _ hother)).mono fun own' held hrest => ?_)
    have hfirst : Locked i own' row found := hrest.before.mem (.head _)
    have hpassed : ∀ result, (∀ m ∈ result, m ∈ held ∨ found = some m) →
      PassedOver own i (row :: rest) result own' := by
      grind [List.suffix_cons]
    cases found with
    | none => exact hpassed held fun m hm => .inl hm
    | some m =>
      show (if userIDs.contains m.userID then (pure (m :: held) : DbCall (List TenantMembership))
        else pure held).Keeps i _ _ _
      split
      · exact hpassed (m :: held) fun other hother => (List.mem_cons.mp hother).elim
          (fun heq => .inr (by rw [heq])) .inl
      · exact hpassed held fun other hother => .inl hother

lemma held_some (hheld : held rows userID = some m) : m.userID = userID ∧ m ∈ rows :=
  ⟨beq_iff_eq.mp (List.find?_some (p := fun m : TenantMembership => m.userID == userID) hheld),
    List.mem_of_find?_eq_some hheld⟩

/-- The members that the pass returns are held, and everything it read is locked. -/
@[grind]
structure OwnersLocked (own : DbTrace) (i : Nat) (result : List TenantMembership)
    (own' : DbTrace) : Prop where
  before : own <:+ own'
  goes : Open own'
  unwritten : Unwritten own'
  passed : Passed i own'
  holds : ∀ userID m, held result userID = some m → Held i own' userID m

lemma lockOwnersAnd_keeps (hopen : Open own) (hunwritten : Unwritten own)
    (hnamed : ∀ userID, task.subject = some userID → LockedByName i own userID)
    (hfirst : ∀ rows, ¬ Selected i own rows) :
    (lockOwnersAnd i userIDs).Keeps i (Proceeds task i) (fun own' result => OwnersLocked own i result own') own := by
  refine ⟨⟨hopen, rfl, hunwritten, hnamed, hfirst⟩, fun rows => ?_⟩
  have hselected : Selected i (⟨i, .selectOwnersAnd i userIDs, rows⟩ :: own) rows := ⟨userIDs, .head _⟩
  refine (lockRows_keeps userIDs rows (hopen.cons rfl) (hunwritten.cons rfl) hselected fun _ hrow => hrow).mono
    fun own' result hpassed => ?_
  refine ⟨(List.suffix_cons _ own).trans hpassed.before, hpassed.goes, hpassed.unwritten,
    ⟨rows, ⟨userIDs, hpassed.before.mem (.head _)⟩, hpassed.locked⟩, fun userID m hheld => ?_⟩
  obtain ⟨huser, hmem⟩ := held_some hheld
  exact ⟨huser, hpassed.found m hmem⟩

lemma LockedByName.later (hnamed : LockedByName i own userID)
    (hbefore : own <:+ own') : LockedByName i own' userID := hbefore.mem hnamed

/-- After the count the call may take the member out, or it is refused. -/
lemma keepAnOwner_keeps (verb : String) (hrows : OwnersLocked before i rows own) (htarget :
    held rows userID = some target)
    (htakes : task.takes = some userID) (hnamed : ∀ other, task.subject = some other → LockedByName i before other) :
    (keepAnOwner i target verb).Keeps i (Proceeds task i)
      (fun own' result => Open own' ∧ Unwritten own' ∧
        (∀ other, task.subject = some other → LockedByName i own' other) ∧
        (result = .ok () → MayTake i own' userID target)) own := by
  have hheld := hrows.holds userID target htarget
  obtain rfl := hheld.1
  have hname := fun other hother => (hnamed other hother).later hrows.before
  unfold keepAnOwner
  split
  · rename_i howner
    refine ⟨⟨hrows.goes, rfl, hrows.unwritten, htakes, hrows.passed, target, hheld, howner⟩, fun others => ?_⟩
    show (if others = 0 then
      (pure (.error (.wrapped .lastOwner ("cannot " ++ verb ++ " the last owner of a tenant"))) :
      DbCall (Except Err Unit)) else pure (.ok ())).Keeps i _ _ _
    have hname' := fun other hother => List.mem_cons_of_mem ⟨i, .countOtherOwners i target.userID, others⟩
      (hname other hother)
    split
    · exact ⟨hrows.goes.cons rfl, hrows.unwritten.cons rfl, hname', by simp⟩
    rename_i hothers
    obtain ⟨hid, row, hrow⟩ := hheld
    exact ⟨hrows.goes.cons rfl, hrows.unwritten.cons rfl, hname',
      fun _ => ⟨⟨hid, row, .tail _ hrow⟩, fun _ => ⟨others, hothers, .head _⟩⟩⟩
  · rename_i hplain
    exact ⟨hrows.goes, hrows.unwritten, hname, fun _ => ⟨hheld, fun howner => absurd howner hplain⟩⟩

/-- The call has locked its subject and nothing else. -/
lemma named_start (task : MembershipTask) (userID : String) (hsubject : task.subject = some userID) :
    (∀ other, task.subject = some other → LockedByName i [⟨i, .lockMembership i userID, ()⟩] other) ∧
      Open [⟨i, .lockMembership i userID, ()⟩] ∧ Unwritten [⟨i, .lockMembership i userID, ()⟩] ∧
      ∀ rows, ¬ Selected i [⟨i, .lockMembership i userID, ()⟩] rows := by
  refine ⟨fun other hother => ?_, ?_, ?_, ?_⟩
  · rw [hsubject] at hother
    cases hother
    exact .head _
  · intro event hevent
    rw [List.mem_singleton.mp hevent]
    rfl
  · intro event hevent
    rw [List.mem_singleton.mp hevent]
    rfl
  · rintro rows ⟨userIDs, hmem⟩
    simp at hmem

lemma open_nil : Open [] := fun _ hevent => nomatch hevent

lemma unwritten_nil : Unwritten [] := fun _ hevent => nomatch hevent

lemma removeMembership_keeps (userID : String) :
    (removeMembership i userID).Asks i (Proceeds (.remove userID) i) [] := by
  unfold removeMembership
  split
  · trivial
  refine .ask ⟨open_nil, rfl, rfl, unwritten_nil⟩ fun _ => ?_
  obtain ⟨hnamed, hopen, hunwritten, hfirst⟩ := named_start (i := i) (.remove userID) userID rfl
  refine .bind ((lockOwnersAnd_keeps [userID] hopen hunwritten hnamed hfirst).mono fun own1 rows hrows => ?_)
  split
  · exact abandon_keeps hrows.goes _
  rename_i target htarget
  refine .bind ((keepAnOwner_keeps "remove" hrows htarget rfl hnamed).mono fun own2 result hresult => ?_)
  obtain ⟨hgoes, hclean, hname, hmay⟩ := hresult
  cases result with
  | error err => exact abandon_keeps hgoes _
  | ok done =>
    refine ⟨⟨hgoes, rfl, ⟨rfl, hclean, target, hmay rfl⟩, hname⟩, fun deleted => ?_⟩
    refine ⟨⟨hgoes.cons rfl, rfl, rfl, .tail _ (hname _ rfl)⟩, fun _ => ?_⟩
    refine ⟨⟨(hgoes.cons rfl).cons rfl, rfl, fun other hother => ?_⟩, fun _ => trivial⟩
    grind

lemma suspendMembership_keeps (userID : String) :
    (suspendMembership i userID).Asks i (Proceeds (.suspend userID) i) [] := by
  unfold suspendMembership
  split
  · trivial
  refine .ask ⟨open_nil, rfl, rfl, unwritten_nil⟩ fun _ => ?_
  obtain ⟨hnamed, hopen, hunwritten, hfirst⟩ := named_start (i := i) (.suspend userID) userID rfl
  refine .bind ((lockOwnersAnd_keeps [userID] hopen hunwritten hnamed hfirst).mono fun own1 rows hrows => ?_)
  split
  · exact abandon_keeps hrows.goes _
  rename_i target htarget
  split
  · exact abandon_keeps hrows.goes _
  split
  · exact abandon_keeps hrows.goes _
  rename_i hactive
  refine .bind ((keepAnOwner_keeps "suspend" hrows htarget rfl hnamed).mono fun own2 result hresult => ?_)
  obtain ⟨hgoes, hclean, hname, hmay⟩ := hresult
  cases result with
  | error err => exact abandon_keeps hgoes _
  | ok done =>
    refine ⟨⟨hgoes, rfl, ⟨rfl, hclean, target, hmay rfl, Decidable.not_not.mp hactive⟩, hname⟩, fun suspended => ?_⟩
    exact ⟨⟨hgoes.cons rfl, rfl, fun other hother => by cases hother⟩, fun _ => trivial⟩

lemma restoreMembership_keeps (userID : String) (by' : Restorer) :
    (restoreMembership i userID by').Asks i (Proceeds (.restore userID by') i) [] := by
  unfold restoreMembership
  split
  · trivial
  split
  · trivial
  refine .ask ⟨open_nil, rfl, rfl, unwritten_nil⟩ fun _ => ?_
  obtain ⟨hnamed, hopen, hunwritten, hfirst⟩ := named_start (i := i) (.restore userID by') userID rfl
  refine .ask ⟨hopen, rfl⟩ fun status => ?_
  have hlater := List.suffix_cons (⟨i, .readMembership i userID, status⟩ : Event Statement.Response)
    [⟨i, .lockMembership i userID, ()⟩]
  have hfirst' : ∀ rows, ¬ Selected i [⟨i, .readMembership i userID, status⟩, ⟨i, .lockMembership i userID, ()⟩]
    rows := by
    rintro rows ⟨userIDs, hmem⟩
    simp at hmem
  refine .bind ((lockOwnersAnd_keeps [userID, by'.userID] (hopen.cons rfl) (hunwritten.cons rfl)
    (fun other hother => (hnamed other hother).later hlater) hfirst').mono fun own1 rows hrows => ?_)
  have hname := fun other hother => (hnamed other hother).later (hlater.trans hrows.before)
  split
  · exact abandon_keeps hrows.goes _
  rename_i hmay
  split
  · exact abandon_keeps hrows.goes _
  rename_i target htarget
  split
  · exact abandon_keeps hrows.goes _
  split
  · exact abandon_keeps hrows.goes _
  rename_i hsuspended
  have hrestorer : by'.isOperator = true ∨ ∃ m, Held i own1 by'.userID m ∧ m.governs = true := by
    rw [mayRestore] at hmay
    grind [Option.any_eq_true]
  refine ⟨⟨hrows.goes, rfl, ⟨rfl, hrows.unwritten,
    ⟨target, hrows.holds userID target htarget, Decidable.not_not.mp hsuspended⟩, hrestorer⟩, hname⟩,
      fun restored => ?_⟩
  exact ⟨⟨hrows.goes.cons rfl, rfl, fun other hother => by cases hother⟩, fun _ => trivial⟩

lemma transferOwnership_keeps (fromID toID : String) :
    (transferOwnership i fromID toID).Asks i (Proceeds (.transfer fromID toID) i) [] := by
  unfold transferOwnership
  split
  · trivial
  split
  · trivial
  rename_i hne
  have hnobody : ∀ userID, (MembershipTask.transfer fromID toID).subject = some userID → LockedByName i [] userID :=
    fun _ hsubject => absurd hsubject (by simp [MembershipTask.subject])
  have hfirst : ∀ rows, ¬ Selected i [] rows := by grind
  refine .bind ((lockOwnersAnd_keeps [fromID, toID] open_nil unwritten_nil hnobody hfirst).mono
    fun own1 rows hrows => ?_)
  split
  · exact abandon_keeps hrows.goes _
  rename_i hfrom
  split
  · exact abandon_keeps hrows.goes _
  rename_i hto
  obtain ⟨mfrom, hmfrom, howner⟩ : ∃ m, held rows fromID = some m ∧ m.isActiveOwner = true := by
    cases hheld : held rows fromID with
    | none => simp [hheld] at hfrom
    | some m => exact ⟨m, rfl, by simpa [hheld] using hfrom⟩
  obtain ⟨mto, hmto, hactive⟩ : ∃ m, held rows toID = some m ∧ m.status = .active := by
    cases hheld : held rows toID with
    | none => simp [hheld] at hto
    | some m => exact ⟨m, rfl, by simpa [hheld] using hto⟩
  have hnobody' : ∀ {own' : DbTrace} userID,
      (MembershipTask.transfer fromID toID).subject = some userID → LockedByName i own' userID :=
    fun _ hsubject => absurd hsubject (by simp [MembershipTask.subject])
  refine ⟨⟨hrows.goes, rfl, ⟨rfl, hrows.unwritten, mto, hrows.holds toID mto hmto, hactive⟩, hnobody'⟩, fun to' => ?_⟩
  obtain ⟨huser, row, hrow⟩ := hrows.holds fromID mfrom hmfrom
  refine ⟨⟨hrows.goes.cons rfl, rfl, ⟨rfl, hne, ⟨mfrom, ⟨huser, row, .tail _ hrow⟩, howner⟩,
    to', .head _⟩, hnobody'⟩, fun from' => ?_⟩
  exact ⟨⟨(hrows.goes.cons rfl).cons rfl, rfl, fun other hother => by cases hother⟩, fun _ => trivial⟩

lemma commitGrant_keeps (result : Except Err (Option TenantMembership)) (hopen : Open own)
    (htask : ∀ userID, task ≠ .remove userID) : (commitGrant i result).Asks i (Proceeds task i) own := by
  cases result with
  | error err => exact abandon_keeps hopen _
  | ok granted => exact ⟨⟨hopen, rfl, fun userID hremove => absurd hremove (htask userID)⟩, fun _ => trivial⟩

lemma grantIn_keeps (hopen : Open own) (hunwritten : Unwritten own) (hnamed : LockedByName i own userID)
    (htask : task = .grant userID source role ∨ task = .join userID ∧ ⟨i, .isRemoved i userID, false⟩ ∈ own) :
    (grantIn i userID source role).Keeps i (Proceeds task i) (fun own' _ => Open own') own := by
  refine ⟨⟨hopen, rfl, hunwritten, hnamed, htask⟩, fun granted => ?_⟩
  cases granted with
  | some m => exact hopen.cons rfl
  | none =>
    refine ⟨⟨hopen.cons rfl, rfl⟩, fun kept => ?_⟩
    cases kept with
    | none => exact (hopen.cons rfl).cons rfl
    | some m =>
      show (if m.status = .suspended then (pure (.error (.sentinel .memberSuspended)) : MembershipCall)
        else pure (.ok (some m))).Keeps i _ _ _
      split
      · exact (hopen.cons rfl).cons rfl
      · exact (hopen.cons rfl).cons rfl

lemma grantMembership_keeps (userID : String) (source : MembershipSource) (role : Role) :
    (grantMembership i userID source role).Asks i (Proceeds (.grant userID source role) i) [] := by
  unfold grantMembership
  split
  · trivial
  refine .ask ⟨open_nil, rfl, rfl, unwritten_nil⟩ fun _ => ?_
  obtain ⟨hnamed, hopen, hunwritten, -⟩ := named_start (i := i) (.grant userID source role) userID rfl
  have hrest : ∀ {own' : DbTrace}, Open own' → Unwritten own' → LockedByName i own' userID →
      (grantIn i userID source role >>= commitGrant i).Asks i (Proceeds (.grant userID source role) i) own' :=
        fun hopen' hunwritten' hnamed' =>
    Call.keeps_bind.mpr ((grantIn_keeps hopen' hunwritten' hnamed' (.inl rfl)).mono fun own'' result hopen'' =>
      commitGrant_keeps result hopen'' (by simp))
  unfold clearRemoval
  split
  · exact hrest hopen hunwritten (hnamed userID rfl)
  · refine ⟨⟨hopen, rfl, ⟨source, role, rfl⟩, hnamed userID rfl⟩, fun _ => ?_⟩
    exact hrest (hopen.cons rfl) (hunwritten.cons rfl) (.tail _ (hnamed userID rfl))

lemma joinByDomain_keeps (userID : String) : (joinByDomain i userID).Asks i (Proceeds (.join userID) i) [] := by
  unfold joinByDomain
  split
  · trivial
  refine .ask ⟨open_nil, rfl, rfl, unwritten_nil⟩ fun _ => ?_
  obtain ⟨hnamed, hopen, hunwritten, -⟩ := named_start (i := i) (.join userID) userID rfl
  refine ⟨⟨hopen, rfl⟩, fun door => ?_⟩
  cases door with
  | false => exact abandon_keeps (hopen.cons rfl) _
  | true =>
    refine ⟨⟨hopen.cons rfl, rfl, rfl, .tail _ (hnamed userID rfl)⟩, fun removed => ?_⟩
    cases removed with
    | true => exact abandon_keeps ((hopen.cons rfl).cons rfl) _
    | false =>
      show (grantIn i userID .domain .member >>= commitGrant i).Keeps i _ _ _
      refine .bind ((grantIn_keeps ((hopen.cons rfl).cons rfl) ((hunwritten.cons rfl).cons rfl)
        (.tail _ (.tail _ (hnamed userID rfl)))
        (.inr ⟨rfl, .head _⟩)).mono fun own' result hopen' => ?_)
      exact commitGrant_keeps result hopen' (by simp)

lemma MembershipTask.program_keeps (task : MembershipTask) (i : Nat) :
    (task.program i).Asks i (Proceeds task i) [] := by
  cases task with
  | remove userID => exact removeMembership_keeps userID
  | suspend userID => exact suspendMembership_keeps userID
  | restore userID by' => exact restoreMembership_keeps userID by'
  | transfer fromID toID => exact transferOwnership_keeps fromID toID
  | grant userID source role => exact grantMembership_keeps userID source role
  | join userID => exact joinByDomain_keeps userID
  | ensure userID =>
    show (ensureTenantForDomain userID).Keeps i _ _ _
    unfold ensureTenantForDomain
    split
    · trivial
    · exact ⟨⟨open_nil, rfl⟩, fun _ => trivial⟩

/-- Every call of a pool keeps to what its task asks for. -/
lemma tenantPool_keep (rows : GoMap String TenantMembership) (removals : GoMap String Int) (nextID : Nat)
    (tasks : List MembershipTask) : (tenantPool rows removals nextID tasks).Keep
      (fun i own statement => ∃ task, tasks[i]? = some task ∧ Proceeds task i own statement) (fun _ _ _ => True) := by
  intro i call hcall
  rw [tenantPool, Pool.start, List.getElem?_map, Option.map_eq_some_iff] at hcall
  obtain ⟨⟨task, index⟩, hitem, rfl⟩ := hcall
  obtain ⟨hindex, htask⟩ : index = i ∧ tasks[i]? = some task := by grind
  subst hindex
  exact (task.program_keeps index).imp (fun own statement hproceeds => ⟨task, htask, hproceeds⟩) fun _ _ _ => trivial

end identity.postgres
