import Identity.GoStrings.Basic

/-! `internal/middleware`: the address that a request is attributed to. -/

namespace identity.middleware

/-- What is asked of Go's `net`. -/
structure Net (IP Block : Type) where
  splitHostPort : String → Option String
  parseIP : String → Option IP
  contains : Block → IP → Bool

variable {IP Block : Type} (net : Net IP Block) (trusted : List Block)

def stripPort (addr : String) : String := (net.splitHostPort addr).getD addr

def ipIn (addr : String) : Bool :=
  match net.parseIP addr with
  | none => false
  | some ip => trusted.any fun block => net.contains block ip

/-- The entries of the header, trimmed. -/
def hops (xff : String) : List String :=
  (xff.toList.splitOn ',').map fun part => strings.trimSpace (String.ofList part)

/-- Behind a trusted peer, the last hop that is not trusted, or else the first one. -/
def resolveClientIP (peerAddr xff : String) : String :=
  let peer := stripPort net peerAddr
  if trusted.isEmpty ∨ ipIn net trusted peer = false then peer
  else if xff = "" then peer
  else
    match (hops xff).reverse.find? fun hop => hop != "" && !ipIn net trusted hop with
    | some hop => hop
    | none => (hops xff).headD ""

lemma hops_append (left right : String) : hops (left ++ "," ++ right) = hops left ++ hops right := by
  have hcut : (left ++ "," ++ right).toList = left.toList ++ ',' :: right.toList := by simp
  rw [hops, hcut, List.splitOn_append_cons_self, List.map_append, hops, hops]

/-- Once a hop is not trusted, what stands to the left has no say: the address is the peer's
    or an untrusted hop, whatever is written before the hops. -/
theorem client_address_not_chosen (peerAddr right : String) :
    (∀ hop ∈ hops right, hop ≠ "" → ipIn net trusted hop = true) ∨
      ∃ addr, (addr = stripPort net peerAddr ∨ addr ∈ hops right ∧ addr ≠ "" ∧ ipIn net trusted addr = false) ∧
        ∀ left, resolveClientIP net trusted peerAddr (left ++ "," ++ right) = addr := by
  by_cases hpeer : trusted.isEmpty ∨ ipIn net trusted (stripPort net peerAddr) = false
  · exact .inr ⟨_, .inl rfl, fun left => if_pos hpeer⟩
  cases hfind : (hops right).reverse.find? fun hop => hop != "" && !ipIn net trusted hop with
  | none => exact .inl fun hop hmem => by simpa using List.find?_eq_none.mp hfind hop (List.mem_reverse.mpr hmem)
  | some addr =>
    have hmem := List.mem_reverse.mp (List.mem_of_find?_eq_some hfind)
    have huntrusted := List.find?_some hfind
    refine .inr ⟨addr, .inr ⟨hmem, by simpa using huntrusted⟩, fun left => ?_⟩
    have hline : left ++ "," ++ right ≠ "" := by simp
    rw [resolveClientIP, if_neg hpeer, if_neg hline, hops_append, List.reverse_append, List.find?_append, hfind]
    rfl

end identity.middleware
