import Identity.GoErrors.Basic
import Identity.GoMap.Basic
import Identity.GoStrings.Basic

namespace agegate

inductive Band where
  | unknown | child | teen | adult

/-- From the youngest band to the oldest. -/
def Band.rank : Band → Nat
  | .unknown => 0
  | .child => 1
  | .teen => 2
  | .adult => 3

structure Decision where
  band : Band
  (isMinor hasDOB : Bool)

structure ThresholdDeterminer where
  (childMaxAge adultAge : Int)

def newThreshold (childMaxAge adultAge : Int) : Except String ThresholdDeterminer := do
  if childMaxAge < 0 then throw ("agegate: childMaxAge must be >= 0, got " ++ toString childMaxAge)
  if adultAge ≤ childMaxAge then
    throw ("agegate: adultAge (" ++ toString adultAge ++ ") must be greater than childMaxAge (" ++
      toString childMaxAge ++ ")")
  return ⟨childMaxAge, adultAge⟩

/-- Go's calendar: the year, month and day of an instant in nanoseconds, and midnight of a day. -/
structure Calendar where
  civil : Int → Int × Int × Int
  date : Int → Int → Int → Int

def wholeYearsBetween (cal : Calendar) (dob now : Int) : Int :=
  let (year, month, day) := cal.civil dob
  let years := (cal.civil now).1 - year
  let years := if now < cal.date (cal.civil now).1 month day then years - 1 else years
  if years < 0 then 0 else years

def ThresholdDeterminer.determine (cal : Calendar) (d : ThresholdDeterminer) (dobMs now : Int) : Decision :=
  if dobMs ≤ 0 then ⟨.unknown, false, false⟩
  else
    let dob := dobMs * 1000000
    if now < dob then ⟨.unknown, false, false⟩
    else
      let age := wholeYearsBetween cal dob now
      if age ≤ d.childMaxAge then ⟨.child, true, true⟩
      else if age < d.adultAge then ⟨.teen, true, true⟩
      else ⟨.adult, false, true⟩

/-- At every date of birth and time no older band, and a minor wherever the other makes one. -/
def ThresholdDeterminer.NoLaxer (strict d : ThresholdDeterminer) : Prop :=
  ∀ cal dobMs now, (strict.determine cal dobMs now).band.rank ≤ (d.determine cal dobMs now).band.rank ∧
    ((d.determine cal dobMs now).isMinor = true → (strict.determine cal dobMs now).isMinor = true)

lemma ThresholdDeterminer.noLaxer_of_le {d strict : ThresholdDeterminer} (hchild : d.childMaxAge ≤ strict.childMaxAge)
    (hadult : d.adultAge ≤ strict.adultAge) : strict.NoLaxer d := by
  intro cal dobMs now
  unfold determine
  split
  · exact ⟨le_rfl, id⟩
  simp only
  split
  · exact ⟨le_rfl, id⟩
  generalize wholeYearsBetween cal _ now = age
  grind [Band.rank]

end agegate

namespace identity.service
open agegate

structure JurisdictionThresholds where
  (childMaxAge adultAge : Int)

/-- A pair that `NewThreshold` takes. -/
def JurisdictionThresholds.Valid (t : JurisdictionThresholds) : Prop := 0 ≤ t.childMaxAge ∧ t.childMaxAge < t.adultAge

/-- A decoded block; the thresholds as a loop over them visits them. -/
structure JurisdictionsBlock where
  default : String
  thresholds : List (String × JurisdictionThresholds)

structure ProjectJurisdictionsConfig where
  default : String
  thresholds : GoMap String JurisdictionThresholds

section Block
variable (toUpper : String → String)

def normalizeJurisdictionCode (raw : String) : String := toUpper (strings.trimSpace raw)

/-- The loop of `validate`, which returns the codes it has seen. -/
def validateThresholds : List String → List (String × JurisdictionThresholds) → Except String (List String)
  | seen, [] => .ok seen
  | seen, (code, t) :: rest => do
    let norm := normalizeJurisdictionCode toUpper code
    if norm = "" then throw "jurisdictions.thresholds: jurisdiction codes must not be empty"
    if norm ∈ seen then
      throw ("jurisdictions.thresholds: \"" ++ code ++ "\" duplicates another entry after normalization")
    if t.childMaxAge < 0 then
      throw ("jurisdictions.thresholds." ++ code ++ ".child_max_age=" ++ toString t.childMaxAge ++ " must be >= 0")
    if t.adultAge ≤ t.childMaxAge then
      throw ("jurisdictions.thresholds." ++ code ++ ".adult_age=" ++ toString t.adultAge ++
        " must be greater than child_max_age=" ++ toString t.childMaxAge)
    validateThresholds (norm :: seen) rest

def JurisdictionsBlock.validate (j : JurisdictionsBlock) : Except String Unit := do
  let seen ← validateThresholds toUpper [] j.thresholds
  let d := normalizeJurisdictionCode toUpper j.default
  if d ≠ "" ∧ d ∉ seen then
    throw ("jurisdictions.default \"" ++ j.default ++ "\" must name a key of jurisdictions.thresholds")

/-- The block under its normalized codes. -/
def JurisdictionsBlock.canonicalized (j : JurisdictionsBlock) : ProjectJurisdictionsConfig where
  default := normalizeJurisdictionCode toUpper j.default
  thresholds := j.thresholds.foldl (fun out (code, t) => out.insert (normalizeJurisdictionCode toUpper code) t) ∅

def ProjectJurisdictionsConfig.thresholdFor (j : ProjectJurisdictionsConfig) (code : String) :
    Option JurisdictionThresholds :=
  j.thresholds.lookup (normalizeJurisdictionCode toUpper code)

/-- The highest of both ages, each taken on its own; `none` of an empty map. -/
def strictest (visited : List JurisdictionThresholds) : Option JurisdictionThresholds :=
  visited.foldl (fun found t => some <| found.elim t fun best =>
    { childMaxAge := if t.childMaxAge > best.childMaxAge then t.childMaxAge else best.childMaxAge
      adultAge := if t.adultAge > best.adultAge then t.adultAge else best.adultAge }) none

/-- The pair of the account's market, else of the default, else the strictest; without an account
    the market is empty. -/
def resolveJurisdictionThresholds (j : ProjectJurisdictionsConfig) (visited : List JurisdictionThresholds)
    (market : String) : JurisdictionThresholds :=
  match if market = "" then none else j.thresholdFor toUpper market with
  | some t => t
  | none =>
    match if j.default = "" then none else j.thresholdFor toUpper j.default with
    | some t => t
    | none => (strictest visited).getD ⟨0, 0⟩

/-- A missing or disabled `base` is `none`; `strictest` visits the map in the orders given. -/
def determinerForUserWith (base : Option ThresholdDeterminer) (scope : Option ProjectJurisdictionsConfig)
    (visited again : List JurisdictionThresholds) (market : String) : Option ThresholdDeterminer :=
  match base, scope with
  | some _, some j =>
    if j.thresholds.entries = [] then base
    else
      let t := resolveJurisdictionThresholds toUpper j visited market
      match newThreshold t.childMaxAge t.adultAge with
      | .ok d => some d
      | .error _ =>
        match (strictest again).map fun strict => newThreshold strict.childMaxAge strict.adultAge with
        | some (.ok sd) => some sd
        | _ => base
  | _, _ => base

variable {toUpper}

lemma validateThresholds_valid : ∀ {entries seen}, validateThresholds toUpper seen entries = .ok out →
    ∀ entry ∈ entries, entry.2.Valid
  | [], _, _, entry, hmem => absurd hmem List.not_mem_nil
  | (code, t) :: rest, seen, hok, entry, hmem => by
    rw [validateThresholds] at hok
    obtain ⟨-, hok⟩ := Except.ok_of_unless hok
    obtain ⟨-, hok⟩ := Except.ok_of_unless hok
    obtain ⟨hchild, hok⟩ := Except.ok_of_unless hok
    obtain ⟨hadult, hok⟩ := Except.ok_of_unless hok
    rcases List.mem_cons.mp hmem with rfl | hmem
    · exact ⟨Int.not_lt.mp hchild, Int.not_le.mp hadult⟩
    · exact validateThresholds_valid hok entry hmem

/-- A copy under other codes has no other pairs. -/
lemma canonicalized_valid (hentries : ∀ entry ∈ entries, entry.2.Valid)
    (default code : String) (t : JurisdictionThresholds)
    (hlookup : (JurisdictionsBlock.canonicalized toUpper ⟨default, entries⟩).thresholds.lookup code = some t) :
    t.Valid := by
  induction entries using List.reverseRecOn with
  | nil => cases hlookup
  | append_singleton entries last ih =>
    rw [JurisdictionsBlock.canonicalized, List.foldl_append, List.foldl_cons, List.foldl_nil,
      GoMap.lookup_insert_eq] at hlookup
    split at hlookup
    · exact Option.some.inj hlookup ▸ hentries last (List.mem_append_right _ (.head _))
    · exact ih (fun entry hmem => hentries entry (List.mem_append_left _ hmem)) hlookup

lemma newThreshold_valid {t : JurisdictionThresholds} (hvalid : t.Valid) :
    newThreshold t.childMaxAge t.adultAge = .ok ⟨t.childMaxAge, t.adultAge⟩ := by
  rw [newThreshold, if_neg (Int.not_lt.mpr hvalid.1), if_neg (Int.not_le.mpr hvalid.2)]
  rfl

/-- The loop of `strictest` ends with a valid pair at or above all it has visited. -/
lemma strictest_above (hvisited : ∀ t ∈ visited, t.Valid) :
    visited = [] ∨ ∃ best, strictest visited = some best ∧ best.Valid ∧
      ∀ t ∈ visited, t.childMaxAge ≤ best.childMaxAge ∧ t.adultAge ≤ best.adultAge := by
  induction visited using List.reverseRecOn with
  | nil => exact .inl rfl
  | append_singleton visited last ih =>
    have hlast := hvisited last (List.mem_append_right _ (.head _))
    refine .inr ⟨_, by rw [strictest, List.foldl_append]; rfl, ?_⟩
    rcases ih fun t ht => hvisited t (List.mem_append_left _ ht) with rfl | ⟨best, hbest, hvalid, habove⟩
    · exact ⟨hlast, by simp⟩
    · rw [← strictest, hbest]
      unfold JurisdictionThresholds.Valid at *
      grind

/-- For a valid block with at least one threshold, each of its loops in an order of its own:
    the pair chosen for an account builds the determiner that is used. Where no market and no
    default names a pair, its bands are at or below those of every pair of the block. -/
theorem unresolved_market_strictest (j : JurisdictionsBlock) (hvalid : j.validate toUpper = .ok ())
    (hconfigured : j.thresholds ≠ []) (copied : JurisdictionsBlock) (hcopied : copied.thresholds.Perm j.thresholds)
    (visited again : List JurisdictionThresholds) (hvisited :
      visited.Perm (copied.canonicalized toUpper).thresholds.rows)
    (deployment : ThresholdDeterminer) (market : String) :
    let config := copied.canonicalized toUpper
    let chosen := resolveJurisdictionThresholds toUpper config visited market
    ∃ d, newThreshold chosen.childMaxAge chosen.adultAge = .ok d ∧
      determinerForUserWith toUpper (some deployment) (some config) visited again market = some d ∧
      ((market ≠ "" → config.thresholdFor toUpper market = none) →
        (config.default ≠ "" → config.thresholdFor toUpper config.default = none) → ∀ code t,
        config.thresholds.lookup code = some t → ∃ alone, newThreshold t.childMaxAge t.adultAge = .ok alone ∧
          d.NoLaxer alone) := by
  intro config chosen
  obtain ⟨seen, hseen, -⟩ := Except.ok_of_bind hvalid
  have hfound : ∀ code t, config.thresholds.lookup code = some t → t.Valid :=
    canonicalized_valid (fun entry hmem => validateThresholds_valid hseen entry (hcopied.subset hmem)) copied.default
  have hsome : config.thresholds.entries ≠ [] := by
    obtain hnil | ⟨front, last, hlast⟩ := List.eq_nil_or_concat copied.thresholds
    · exact absurd (hcopied.symm.trans (.of_eq hnil)).eq_nil hconfigured
    · simp [config, JurisdictionsBlock.canonicalized, hlast]
  have hrows : ∀ t ∈ visited, t.Valid := fun t ht =>
    (GoMap.mem_rows_iff.mp (hvisited.subset ht)).elim fun code => hfound code t
  obtain rfl | ⟨best, hbest, hstrict, habove⟩ := strictest_above hrows
  · exact absurd (List.map_eq_nil_iff.mp hvisited.symm.eq_nil) hsome
  have hchosen : chosen.Valid := by
    simp only [chosen, resolveJurisdictionThresholds, hbest, Option.getD_some]
    have hlooked : ∀ code, ∀ t ∈ if code = "" then none else config.thresholdFor toUpper code, t.Valid := by
      intro code t ht
      split at ht
      · cases ht
      · exact hfound _ t ht
    split
    · rename_i hmarket
      exact hlooked _ _ hmarket
    split
    · rename_i hdefault
      exact hlooked _ _ hdefault
    · exact hstrict
  refine ⟨_, newThreshold_valid hchosen, ?_, fun hmarket hdefault code t hlookup => ?_⟩
  · simp only [determinerForUserWith, if_neg hsome]
    rw [newThreshold_valid hchosen]
  have hsame : chosen = best := by
    simp only [chosen, resolveJurisdictionThresholds, ite_eq_left_iff.mpr hmarket, ite_eq_left_iff.mpr hdefault, hbest,
      Option.getD_some]
  obtain ⟨hchild, hadult⟩ := habove t (hvisited.mem_iff.mpr (GoMap.mem_rows_iff.mpr ⟨code, hlookup⟩))
  rw [hsame]
  exact ⟨_, newThreshold_valid (hfound code t hlookup), ThresholdDeterminer.noLaxer_of_le hchild hadult⟩

end Block

def sampleMarkets : JurisdictionsBlock := ⟨"", [("IN", ⟨17, 18⟩), ("US", ⟨12, 21⟩)]⟩

theorem unknown_market_keeps_minor : ∃ d alone, newThreshold 17 18 = .ok alone ∧
    determinerForUserWith id (some ⟨12, 18⟩) (some (sampleMarkets.canonicalized id)) [⟨12, 21⟩, ⟨17, 18⟩] [] "" =
      some d ∧ d.NoLaxer alone := by
  have hvalid : sampleMarkets.validate id = .ok () := rfl
  obtain ⟨d, -, hd, hstrict⟩ := unresolved_market_strictest _ hvalid nofun _ (.refl _) _ [] (.refl _) ⟨12, 18⟩ ""
  obtain ⟨alone, halone, hno⟩ := hstrict (absurd rfl) (absurd rfl) "IN" ⟨17, 18⟩ rfl
  exact ⟨d, alone, halone, hd, hno⟩

/-- A block without thresholds is valid, and the account gets the deployment's. -/
theorem empty_block_keeps_deployment : let absent : JurisdictionsBlock := ⟨"", []⟩
    absent.validate id = .ok () ∧
      determinerForUserWith id (some ⟨12, 18⟩) (some (absent.canonicalized id)) [] [] "IN" = some ⟨12, 18⟩ :=
  ⟨rfl, rfl⟩

end identity.service
