import Perimeter.Policy
import Perimeter.Ident

/-!
Web firewalls: named sets of address ranges, and rules that are tried in order. The first rule
whose statement holds of a request decides it; a request that no rule decides is blocked
(`Firewall.evaluate`).
-/

namespace Perimeter

/-- Where a firewall can be attached. -/
inductive Scope where
  /-- To a resource of one region, such as a load balancer. -/
  | regional
  /-- To a CDN distribution. -/
  | cdn
deriving DecidableEq, Repr

/-- The word for a scope in a plan. -/
def Scope.label : Scope → String
  | regional => "REGIONAL"
  | cdn => "CLOUDFRONT"

/-- What is done with a request. -/
inductive Decision where
  | allow
  | block
deriving DecidableEq, Repr

/-- The word for a decision in a plan. -/
def Decision.label : Decision → String
  | allow => "allow"
  | block => "block"

/-- A named set of address ranges. -/
structure IpSet where
  id : LogicalId
  family : Family
  scope : Scope
  ranges : List Cidr
deriving DecidableEq

/-- A condition on the address and the country of a request. -/
inductive Expression where
  /-- The address lies in the set of that name. -/
  | ipSet (id : LogicalId)
  /-- The country is known and listed. -/
  | geo (countries : List Country)
  /-- All parts hold. -/
  | all (parts : List Expression)

/-- A rule of a firewall. -/
structure FirewallRule where
  name : String
  priority : UInt32
  statement : Expression
  action : Decision
  /-- The name under which the requests that the rule decides are counted. -/
  metric : String

/-- The sets and the rules of a firewall. -/
structure Firewall where
  sets : List IpSet
  rules : List FirewallRule

namespace Expression

/-- Whether the address lies in a range of the first set of the given name. -/
def setHolds (sets : List IpSet) (address : Address) (id : LogicalId) : Bool :=
  match sets.find? fun set => set.id == id with
  | some set => set.ranges.any fun range => range.contains address
  | none => false

/-- Whether the country is known and listed. -/
def geoHolds (country : Option Country) (countries : List Country) : Bool :=
  match country with
  | some c => countries.contains c
  | none => false

mutual

/-- Whether an expression holds of a request. -/
def holds (sets : List IpSet) (address : Address) (country : Option Country) : Expression → Bool
  | ipSet id => setHolds sets address id
  | geo countries => geoHolds country countries
  | all parts => allHold sets address country parts

/-- Whether all expressions of a list hold of a request. -/
def allHold (sets : List IpSet) (address : Address) (country : Option Country) :
    List Expression → Bool
  | [] => true
  | e :: es => holds sets address country e && allHold sets address country es

end

mutual

/-- The conditions of an expression that are not conjunctions, from left to right. -/
def leaves : Expression → List Expression
  | ipSet id => [ipSet id]
  | geo countries => [geo countries]
  | all parts => leavesOf parts

/-- The conditions of a list of expressions, from left to right. -/
def leavesOf : List Expression → List Expression
  | [] => []
  | e :: es => leaves e ++ leavesOf es

end

end Expression

namespace Firewall

/-- The firewall without rules. -/
def empty : Firewall := ⟨[], []⟩

/-- A firewall without rules is not attached to anything. -/
def isEmpty (f : Firewall) : Bool := f.rules.isEmpty

/-- The action of the first rule that holds of a request; without one the request is blocked. -/
def evaluate (f : Firewall) (address : Address) (country : Option Country) : Decision :=
  match f.rules.find? fun rule => rule.statement.holds f.sets address country with
  | some rule => rule.action
  | none => .block

end Firewall

end Perimeter
