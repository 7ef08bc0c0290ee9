import Perimeter.Country
import Perimeter.Net.Cidr

/-!
Access policies: who may reach the application. A policy is three sets; an empty set restricts
nothing by itself. `Policy.ofLists` and the single steps `withIpv4`, `withIpv6` and `withCountry`
check the family of each range; a policy made by hand need not.
-/

namespace Perimeter

/-- An allow-list of address ranges and countries. -/
structure Policy where
  ipv4 : Ascending Cidr
  ipv6 : Ascending Cidr
  countries : Ascending Country
deriving DecidableEq

namespace Policy

/-- The policy that restricts nothing. -/
def empty : Policy := ⟨.empty, .empty, .empty⟩

instance : Inhabited Policy := ⟨empty⟩

def hasIpv4 (p : Policy) : Bool := !p.ipv4.isEmpty

def hasIpv6 (p : Policy) : Bool := !p.ipv6.isEmpty

def hasCountries (p : Policy) : Bool := !p.countries.isEmpty

/-- Whether a policy restricts nothing. -/
def isEmpty (p : Policy) : Bool :=
  !p.hasIpv4 && !p.hasIpv6 && !p.hasCountries

/-- A policy with one more IPv4 range. -/
def withIpv4 (p : Policy) (s : String) : Except Error Policy := do
  let range ← Cidr.ofTextAs .ipv4 s
  return { p with ipv4 := p.ipv4.insert range }

/-- A policy with one more IPv6 range. -/
def withIpv6 (p : Policy) (s : String) : Except Error Policy := do
  let range ← Cidr.ofTextAs .ipv6 s
  return { p with ipv6 := p.ipv6.insert range }

/-- A policy with one more country. -/
def withCountry (p : Policy) (s : String) : Except Error Policy := do
  let country ← Country.ofText s
  return { p with countries := p.countries.insert country }

/-- The ranges of one family that a list of texts stands for; a failure names the setting. -/
def ranges (family : Family) (field : String) (texts : List String) :
    Except Error (Ascending Cidr) := do
  let ranges ← texts.mapM fun s => (Cidr.ofTextAs family s).mapError (Error.onField field)
  return .ofList ranges

/-- The policy of the texts in the settings; the first malformed text fails, IPv4 before IPv6
before countries. -/
def ofLists (ipv4 ipv6 countries : List String) : Except Error Policy := do
  let ipv4 ← ranges .ipv4 "allowed_ipv4_cidrs" ipv4
  let ipv6 ← ranges .ipv6 "allowed_ipv6_cidrs" ipv6
  let countries ← countries.mapM Country.ofText
  return ⟨ipv4, ipv6, .ofList countries⟩

/-- The ranges admitted by a load balancer that enforces the policy itself: all addresses if no
range is given, else the given ones, so that a family without a range is shut out. -/
def ingressRanges (p : Policy) : List Cidr :=
  if !p.hasIpv4 && !p.hasIpv6 then [.anyIpv4, .anyIpv6]
  else p.ipv4.toList ++ p.ipv6.toList

/-- Whether a policy lets a request through, by its address and its country if that is known: the
address must lie in one of the ranges if there are any, and the country must be one of the
countries if there are any. -/
def Admits (p : Policy) (address : Address) (country : Option Country) : Prop :=
  (p.ipv4.toList = [] ∧ p.ipv6.toList = [] ∨
    ∃ range ∈ p.ipv4.toList ++ p.ipv6.toList, range.contains address = true) ∧
  (p.countries.toList = [] ∨ ∃ c ∈ p.countries.toList, country = some c)

end Policy

end Perimeter
