import Perimeter.Digest.Sha256
import Perimeter.Resource.Basic

/-!
Compiling an access policy into a firewall. Each family with ranges gives one set and one rule
that allows its members, from the listed countries only if there are any; countries without any
range give a rule of their own. A set is named by the digest of its ranges, so that the same
ranges always make the same resource.
-/

namespace Perimeter.Firewall

/-- The number of hexadecimal digits of a digest in the name of a set. -/
def keyLength : Nat := 12

/-- The bytes whose digest names a set: the texts of its ranges, each with a line end. -/
def keyBytes (ranges : List Cidr) : List UInt8 :=
  (String.join (ranges.map fun range => range.text ++ "\n")).toUTF8.data.toList

/-- The name of a set with the given ranges. -/
def setId (base : String) (ranges : List Cidr) : Except Error LogicalId :=
  Ident.ofText .logical (base ++ String.ofList ((Sha256.hex (keyBytes ranges)).take keyLength))

/-- The start of the names of the set and the rule of a family. -/
def baseName : Family → String
  | .ipv4 => "IpV4Set"
  | .ipv6 => "IpV6Set"

/-- The priority of the rule of a family. -/
def priority : Family → UInt32
  | .ipv4 => 1
  | .ipv6 => 2

/-- The priority of the rule for countries alone. -/
def geoPriority : UInt32 := 3

/-- A rule that lets requests through. -/
def allowRule (name : String) (priority : UInt32) (statement : Expression) : FirewallRule :=
  ⟨name, priority, statement, .allow, name⟩

/-- The condition that the country is one of the policy's, if there are any. -/
def geo? (policy : Policy) : Option Expression :=
  if policy.hasCountries then some (.geo policy.countries.toList) else none

/-- The rule for the members of a set. -/
def setRule (family : Family) (id : LogicalId) : Option Expression → FirewallRule
  | some geo =>
    allowRule (baseName family ++ "AndGeoMatchRule") (priority family) (.all [.ipSet id, geo])
  | none => allowRule (baseName family ++ "Rule") (priority family) (.ipSet id)

/-- The set and the rule of a family, unless it has no range. -/
def compileFamily (scope : Scope) (family : Family) (ranges : Ascending Cidr)
    (geo : Option Expression) : Except Error Firewall :=
  if ranges.isEmpty then .ok .empty
  else do
    let id ← setId (baseName family) ranges.toList
    return ⟨[⟨id, family, scope, ranges.toList⟩], [setRule family id geo]⟩

/-- The firewall that enforces a policy. -/
def compile (scope : Scope) (policy : Policy) : Except Error Firewall := do
  let geo := geo? policy
  let v4 ← compileFamily scope .ipv4 policy.ipv4 geo
  let v6 ← compileFamily scope .ipv6 policy.ipv6 geo
  let rules := v4.rules ++ v6.rules
  match geo, rules with
  | some geo, [] => return ⟨v4.sets ++ v6.sets, [allowRule "GeoMatchRule" geoPriority geo]⟩
  | _, _ => return ⟨v4.sets ++ v6.sets, rules⟩

/-- The sets of a firewall and the access control list with its rules; nothing at all for a
firewall without rules. -/
def resources (f : Firewall) (id : LogicalId) (scope : Scope) : List Resource :=
  if f.isEmpty then []
  else f.sets.map .ipSet ++ [.webAcl ⟨id, scope, .block, id.text, f.rules⟩]

end Perimeter.Firewall
