import Identity.GoStrings.Basic
import Identity.Service.Errors

namespace emailaddr

/-- `idna.Lookup.ToASCII`, `none` when it refuses the domain. -/
abbrev ToASCII := String → Option String

def gmailDomain : String := "gmail.com"
def googlemailDomain : String := "googlemail.com"

/-- `strings.TrimSuffix(domain, ".")`. -/
def trimDot (domain : String) : String :=
  if strings.hasSuffix domain "." then String.ofList domain.toList.dropLast else domain

def canonicalizeDomain (toASCII : ToASCII) (domain : String) : String :=
  let domain := trimDot (strings.trimSpace (strings.toLower domain))
  let domain := (toASCII domain).getD domain
  if domain = googlemailDomain then gmailDomain else domain

/-- Lower case, no tag, a canonical domain, and for Gmail no dots. -/
def canonicalize (toASCII : ToASCII) (addr : String) : String :=
  let addr := strings.trimSpace (strings.toLower addr)
  match strings.cutLast addr '@' with
  | none => addr
  | some (before, after) =>
    let domain := canonicalizeDomain toASCII after
    let untagged := String.ofList (before.toList.takeWhile fun r => r != '+')
    let bare := if domain = gmailDomain then String.ofList (untagged.toList.filter fun r => r != '.') else untagged
    bare ++ "@" ++ domain

/-- Whether a canonical form is a mailbox an account can hold. -/
def usableMailbox (canonical : String) : Bool :=
  match strings.cutLast canonical '@' with
  | none => false
  | some (before, domain) => before != "" && domain != "" && strings.containsAny domain "." &&
      !strings.containsAny canonical " \t\r\n"

def mailbox (toASCII : ToASCII) (addr : String) : String × Bool :=
  (canonicalize toASCII addr, usableMailbox (canonicalize toASCII addr))

def sameMailbox (toASCII : ToASCII) (a b : String) : Bool :=
  let (ca, okA) := mailbox toASCII a
  let (cb, okB) := mailbox toASCII b
  okA && okB && ca == cb

end emailaddr

namespace identity.service

def gmailCanonicalDomain : String := "@gmail.com"

/-- The canonical form a stored address may be rewritten to: outside Gmail a tag is
    not dropped. -/
def canonicalRewriteTarget (toASCII : emailaddr.ToASCII) (stored : String) : Option String :=
  let (canonical, usable) := emailaddr.mailbox toASCII stored
  if !usable then none
  else
    match strings.cutLast stored '@' with
    | none => none
    | some (before, _) =>
      if strings.containsAny before "+" && !strings.hasSuffix canonical gmailCanonicalDomain then none
      else some canonical

/-- Whether proving control of one address proves the one an account stores. -/
def proofCarriesTo (toASCII : emailaddr.ToASCII) (proven stored : String) : Bool :=
  if stored = "" then false
  else if strings.equalFold (strings.trimSpace proven) (strings.trimSpace stored) then
    (emailaddr.mailbox toASCII stored).2
  else
    match canonicalRewriteTarget toASCII proven, canonicalRewriteTarget toASCII stored with
    | some p, some s => p == s
    | _, _ => false

end identity.service
