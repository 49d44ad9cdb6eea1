import Identity.GoErrors.Basic
import Identity.GoMap.Basic
import Identity.GoStrings.Basic
import Identity.Service.Errors

namespace identity.service

structure ProjectProductConfig (Branding : Type) where
  minimumAgeBand : String
  branding : Branding

/-- A products block as a loop over its map visits it. -/
abbrev ProductEntries (Branding : Type) := List (String × ProjectProductConfig Branding)

/-- The rank of a band, zero for a text that names none. -/
def minimumAgeBandRank (band : String) : Nat :=
  if band = "child" then 1 else if band = "teen" then 2 else if band = "adult" then 3 else 0

/-- What a configuration is parsed with: `strings.ToLower`, which leaves no text blank, the
    JSON decoder, and the checks of the other blocks before and after the products. -/
structure ConfigParser (Branding Rest : Type) where
  toLower : String → String
  toLower_text : ∀ s, strings.trimSpace s ≠ "" → strings.trimSpace (toLower s) ≠ ""
  decode : String → Except String (ProductEntries Branding × Rest)
  validateBranding : Branding → Except String Unit
  validateBefore : Rest → Except String Unit
  validateAfter : Rest → Except String Unit

namespace ConfigParser
variable {Branding Rest : Type} (c : ConfigParser Branding Rest)

def normalizeProductSlug (raw : String) : String := strings.trimSpace (c.toLower raw)

/-- The band an entry sets as its floor. -/
def floor (entry : String × ProjectProductConfig Branding) : String := c.normalizeProductSlug entry.2.minimumAgeBand

def validateProducts : ProductEntries Branding → Except String Unit
  | [] => .ok ()
  | (slug, product) :: rest => do
    if strings.trimSpace slug = "" then throw "products: product slugs must not be empty"
    (c.validateBranding product.branding).mapError fun err => "products." ++ slug ++ "." ++ err
    let band := c.normalizeProductSlug product.minimumAgeBand
    if band ≠ "" ∧ minimumAgeBandRank band = 0 then
      throw ("products." ++ slug ++ ".minimum_age_band \"" ++ product.minimumAgeBand ++
        "\" must be one of \"child\", \"teen\", \"adult\"")
    validateProducts rest

/-- A copy under the normalized slugs; of two entries that meet there the one visited last stays. -/
def canonicalized (entries : ProductEntries Branding) : GoMap String (ProjectProductConfig Branding) :=
  entries.foldl (fun out entry => out.insert (c.normalizeProductSlug entry.1) ⟨c.floor entry, entry.2.branding⟩) ∅

/-- The products of a parsed configuration. Each loop visits the map in an order of its own. -/
def parseProjectConfig (checks copies : ProductEntries Branding → ProductEntries Branding) (configJSON : String) :
    Except String (GoMap String (ProjectProductConfig Branding)) :=
  if strings.trimSpace configJSON = "" then .ok ∅
  else
    .mapError ("parse project config: " ++ ·) do
      let decoded ← c.decode configJSON
      c.validateBefore decoded.2
      c.validateProducts (checks decoded.1)
      c.validateAfter decoded.2
      return c.canonicalized (copies decoded.1)

def ageBandPermits (minimum band : String) : Bool :=
  let required := minimumAgeBandRank minimum
  let actual := minimumAgeBandRank (c.normalizeProductSlug band)
  required == 0 || actual == 0 || actual ≥ required

/-- The product a request names, or the deployment's own. -/
def requestProduct (defaultProduct header : String) : String :=
  let product := c.normalizeProductSlug header
  if product = "" then c.normalizeProductSlug defaultProduct else product

def minimumAgeBand (products : GoMap String (ProjectProductConfig Branding)) (slug : String) : String :=
  ((products.lookup slug).map (·.minimumAgeBand)).getD ""

def enforceProductAgeGate (products : GoMap String (ProjectProductConfig Branding)) (product : String)
    (isAnonymous : Bool) (ageBand : String) : Except Err Unit :=
  let minimum := minimumAgeBand products product
  if isAnonymous ∧ minimumAgeBandRank minimum > 0 then .error (.sentinel .productAgeRestricted)
  else if c.ageBandPermits minimum ageBand then .ok ()
  else .error (.sentinel .productAgeRestricted)

/-- The account is anonymous, or known to be below the band. -/
def Below (isAnonymous : Bool) (ageBand band : String) : Prop :=
  isAnonymous = true ∨ 0 < minimumAgeBandRank (c.normalizeProductSlug ageBand) ∧
    minimumAgeBandRank (c.normalizeProductSlug ageBand) < minimumAgeBandRank band

variable {c}

lemma validateProducts_slug : ∀ {entries : ProductEntries Branding}, c.validateProducts entries = .ok () →
    ∀ entry ∈ entries, c.normalizeProductSlug entry.1 ≠ ""
  | [], _, entry, hmem => absurd hmem List.not_mem_nil
  | (slug, product) :: rest, hok, entry, hmem => by
    rw [validateProducts] at hok
    obtain ⟨hslug, hok⟩ := Except.ok_of_unless hok
    obtain ⟨-, -, hok⟩ := Except.ok_of_bind hok
    obtain ⟨-, hok⟩ := Except.ok_of_unless hok
    rcases List.mem_cons.mp hmem with rfl | hmem
    · exact c.toLower_text slug hslug
    · exact validateProducts_slug hok entry hmem

lemma canonicalized_concat (entries : ProductEntries Branding) (last : String × ProjectProductConfig Branding) :
    c.canonicalized (entries ++ [last]) = (c.canonicalized entries).insert (c.normalizeProductSlug last.1)
      ⟨c.floor last, last.2.branding⟩ := by
  rw [canonicalized, List.foldl_append]
  rfl

/-- The floor found for a slug is that of one of the entries under it. -/
lemma minimumAgeBand_of_mem (hmem : entry ∈ entries) :
    ∃ other ∈ entries, c.normalizeProductSlug other.1 = c.normalizeProductSlug entry.1 ∧
      minimumAgeBand (c.canonicalized entries) (c.normalizeProductSlug entry.1) = c.floor other := by
  induction entries using List.reverseRecOn with
  | nil => exact nomatch hmem
  | append_singleton entries last ih =>
    rw [canonicalized_concat, minimumAgeBand, GoMap.lookup_insert_eq]
    split
    · rename_i hsame
      exact ⟨last, List.mem_append_right _ List.mem_cons_self, hsame.symm, rfl⟩
    · rename_i hother
      have hmem : entry ∈ entries := by
        rcases List.mem_append.mp hmem with hmem | hmem
        · exact hmem
        · exact absurd (List.mem_singleton.mp hmem ▸ rfl) hother
      obtain ⟨other, hin, hslug, hfloor⟩ := ih hmem
      exact ⟨other, List.mem_append_left _ hin, hslug, hfloor⟩

/-- The gate refuses whoever is below the floor it finds, and lets in who is not. -/
lemma enforceProductAgeGate_eq_error (hfloor : 0 < minimumAgeBandRank (minimumAgeBand products product))
    (hbelow : c.Below isAnonymous ageBand (minimumAgeBand products product)) :
    c.enforceProductAgeGate products product isAnonymous ageBand = .error (.sentinel .productAgeRestricted) := by
  rw [enforceProductAgeGate]
  rcases hbelow with hanonymous | ⟨hknown, hless⟩
  · rw [if_pos ⟨hanonymous, hfloor⟩]
  · have hrefused : c.ageBandPermits (minimumAgeBand products product) ageBand = false := by
      simp only [ageBandPermits, Bool.or_eq_false_iff, beq_eq_false_iff_ne, decide_eq_false_iff_not]
      omega
    simp [hrefused]

/-- A configuration that is accepted has valid products, and is so in whatever order they are copied. -/
lemma parseProjectConfig_ok (hnot : strings.trimSpace configJSON ≠ "")
    (hdecoded : c.decode configJSON = .ok (products, rest))
    (hok : c.parseProjectConfig checks copies configJSON = .ok out) : c.validateProducts (checks products) = .ok () ∧
      ∀ visit, c.parseProjectConfig checks visit configJSON = .ok (c.canonicalized (visit products)) := by
  have hpassed : c.validateBefore rest = .ok () ∧ c.validateProducts (checks products) = .ok () ∧
      c.validateAfter rest = .ok () := by
    rw [parseProjectConfig, if_neg hnot, hdecoded] at hok
    cases hbefore : c.validateBefore rest <;> cases hchecked : c.validateProducts (checks products) <;>
      cases hafter : c.validateAfter rest <;> simp_all [bind, Except.bind, Except.mapError]
  obtain ⟨hbefore, hchecked, hafter⟩ := hpassed
  refine ⟨hchecked, fun visit => ?_⟩
  simp only [parseProjectConfig, if_neg hnot, hdecoded, bind, Except.bind, hbefore, hchecked, hafter]
  rfl

/-- A floor that is lower than another entry's under the same slug takes its place when it is copied last. -/
lemma floor_le_of_kept (hentry : entry ∈ products) (hother : other ∈ products)
    (hmeet : c.normalizeProductSlug entry.1 = c.normalizeProductSlug other.1)
    (hkept : ∀ copied : ProductEntries Branding, copied.Perm products → ∀ isAnonymous ageBand,
      c.Below isAnonymous ageBand (c.floor entry) → c.enforceProductAgeGate (c.canonicalized copied)
        (c.normalizeProductSlug entry.1) isAnonymous ageBand = .error (.sentinel .productAgeRestricted)) :
    minimumAgeBandRank (c.floor entry) ≤ minimumAgeBandRank (c.floor other) := by
  by_contra hlower
  rw [not_le] at hlower
  obtain ⟨before, after, rfl⟩ := List.append_of_mem hother
  have hperm : ((before ++ after) ++ [other]).Perm (before ++ other :: after) := by
    rw [List.append_assoc]
    exact (List.perm_append_singleton other after).append_left before
  have hrefused := hkept _ hperm
  have hfloor : minimumAgeBand (c.canonicalized ((before ++ after) ++ [other])) (c.normalizeProductSlug other.1) =
      c.floor other := by
    rw [canonicalized_concat, minimumAgeBand, GoMap.lookup_insert_eq, if_pos rfl]
    rfl
  simp only [enforceProductAgeGate, hmeet, hfloor] at hrefused
  by_cases hnone : minimumAgeBandRank (c.floor other) = 0
  · have hopen := hrefused true "" (.inl rfl)
    simp [hnone, ageBandPermits] at hopen
  · have hopen := hrefused false other.2.minimumAgeBand (.inr ⟨Nat.pos_of_ne_zero hnone, hlower⟩)
    simp [ageBandPermits, floor] at hopen

end ConfigParser

/-- Every floor of an accepted configuration is kept, in whatever order its map is copied,
    exactly when entries that meet after normalization set the same floor. -/
theorem product_floors_kept {Branding Rest : Type} (c : ConfigParser Branding Rest)
    (checks copies : ProductEntries Branding → ProductEntries Branding) (configJSON : String)
    (hnot : strings.trimSpace configJSON ≠ "") (products : ProductEntries Branding) (rest : Rest)
    (hdecoded : c.decode configJSON = .ok (products, rest)) (hchecks : (checks products).Perm products)
    (accepted : GoMap String (ProjectProductConfig Branding))
    (haccepted : c.parseProjectConfig checks copies configJSON = .ok accepted) :
    (∀ entry ∈ products, 0 < minimumAgeBandRank (c.floor entry) →
      ∀ visit : ProductEntries Branding → ProductEntries Branding, (visit products).Perm products →
      ∀ out, c.parseProjectConfig checks visit configJSON = .ok out → ∀ defaultProduct header,
        c.normalizeProductSlug header = c.normalizeProductSlug entry.1 → ∀ isAnonymous ageBand,
        c.Below isAnonymous ageBand (c.floor entry) →
        c.enforceProductAgeGate out (c.requestProduct defaultProduct header) isAnonymous ageBand =
          .error (.sentinel .productAgeRestricted)) ↔
      ∀ entry ∈ products, ∀ other ∈ products, c.normalizeProductSlug entry.1 = c.normalizeProductSlug other.1 →
        minimumAgeBandRank (c.floor entry) = minimumAgeBandRank (c.floor other) := by
  obtain ⟨hvalid, hparse⟩ := ConfigParser.parseProjectConfig_ok hnot hdecoded haccepted
  have hnamed : ∀ entry ∈ products, ∀ defaultProduct header,
      c.normalizeProductSlug header = c.normalizeProductSlug entry.1 →
      c.requestProduct defaultProduct header = c.normalizeProductSlug entry.1 := by
    intro entry hmem defaultProduct header hheader
    have hslug := ConfigParser.validateProducts_slug hvalid entry (hchecks.mem_iff.mpr hmem)
    rw [ConfigParser.requestProduct, hheader, if_neg hslug]
  constructor
  · intro hkept entry hentry other hother hmeet
    have hle : ∀ entry ∈ products, ∀ other ∈ products, c.normalizeProductSlug entry.1 =
      c.normalizeProductSlug other.1 →
        minimumAgeBandRank (c.floor entry) ≤ minimumAgeBandRank (c.floor other) := by
      intro entry hentry other hother hmeet
      by_cases hfloor : 0 < minimumAgeBandRank (c.floor entry)
      · refine ConfigParser.floor_le_of_kept hentry hother hmeet fun copied hperm isAnonymous ageBand hbelow => ?_
        rw [← hnamed entry hentry "" entry.1 rfl]
        exact hkept entry hentry hfloor (fun _ => copied) hperm _ (hparse _) "" entry.1 rfl isAnonymous ageBand hbelow
      · omega
    exact Nat.le_antisymm (hle entry hentry other hother hmeet) (hle other hother entry hentry hmeet.symm)
  · intro hsame entry hmem hfloor visit hperm out hok defaultProduct header hheader isAnonymous ageBand hbelow
    rw [hparse] at hok
    cases hok
    obtain ⟨other, hother, hslug, hfound⟩ := ConfigParser.minimumAgeBand_of_mem (c := c) (hperm.mem_iff.mpr hmem)
    have hrank := hsame entry hmem other (hperm.mem_iff.mp hother) hslug.symm
    rw [hnamed entry hmem defaultProduct header hheader]
    refine ConfigParser.enforceProductAgeGate_eq_error (by rw [hfound]; omega) ?_
    rw [hfound, ConfigParser.Below, ← hrank]
    exact hbelow

/-- A decoder of one text, which is written in lower case. -/
def sampleParser (configJSON : String) (products : ProductEntries Unit) : ConfigParser Unit Unit where
  toLower s := s
  toLower_text _ h := h
  decode raw := if raw = configJSON then .ok (products, ()) else .error "invalid character"
  validateBranding _ := .ok ()
  validateBefore _ := .ok ()
  validateAfter _ := .ok ()

def kidsJSON : String := "\x7b\"products\": \x7b\"kids\": \x7b\"minimum_age_band\": \"adult\"\x7d\x7d\x7d"

theorem product_floors_kept_sample : let c := sampleParser kidsJSON [("kids", ⟨"adult", ()⟩)]
    ∃ out, c.parseProjectConfig id id kidsJSON = .ok out ∧
      c.enforceProductAgeGate out (c.requestProduct "" " kids") true "" =
        .error (.sentinel .productAgeRestricted) := by
  refine ⟨_, rfl, (product_floors_kept _ id id kidsJSON (by decide +kernel) _ () rfl (.refl _) _ rfl).mpr ?_ _
    (.head _)
    (by decide +kernel) id (.refl _) _ rfl "" _ (by decide +kernel) true "" (.inl rfl)⟩
  simp

def twoKidsJSON : String :=
  "\x7b\"products\": \x7b\"kids\": \x7b\"minimum_age_band\": \"adult\"\x7d, \"kids \": \x7b\x7d\x7d\x7d"

/-- Two spellings of one slug: the floor that is copied first is gone. -/
theorem product_floor_dropped : let c := sampleParser twoKidsJSON [("kids", ⟨"adult", ()⟩), ("kids ", ⟨"", ()⟩)]
    ∃ out, c.parseProjectConfig id id twoKidsJSON = .ok out ∧
      c.enforceProductAgeGate out (c.requestProduct "" "kids") true "" = .ok () :=
  ⟨_, rfl, by decide +kernel⟩

end identity.service
