/-!
Events: what a run reports while it works. An event has a level, a sentence, the part of the
program that reports it, and named values; the spans around it say during which larger step it
happened.
-/

namespace Perimeter

/-- How important an event is, from the most to the least. -/
inductive Level where
  | error
  | warn
  | info
  | debug
  | trace
deriving DecidableEq, Repr

/-- The word for a level. -/
def Level.label : Level → String
  | error => "ERROR"
  | warn => "WARN"
  | info => "INFO"
  | debug => "DEBUG"
  | trace => "TRACE"

/-- How much a level lets through: more for less important levels. -/
def Level.verbosity : Level → Nat
  | error => 1
  | warn => 2
  | info => 3
  | debug => 4
  | trace => 5

/-- A value that a span carries. -/
inductive SpanValue where
  | text (s : String)
  | count (n : Nat)
deriving DecidableEq, Repr

/-- A larger step during which events happen. -/
inductive Span where
  /-- The assembly of a plan. -/
  | plan (topology operation : String) (services : Nat)
  /-- The synthesis of the stack for objects of the CDN. -/
  | secondaryStack (stack region : String)
  /-- The synthesis of the stack of the application. -/
  | primaryStack (stack region : String)
deriving DecidableEq, Repr

/-- The name of a span. -/
def Span.name : Span → String
  | plan .. => "plan"
  | secondaryStack .. => "stack"
  | primaryStack .. => "stack"

/-- How important a span is. -/
def Span.level : Span → Level
  | plan .. => .info
  | secondaryStack .. => .debug
  | primaryStack .. => .debug

/-- The part of the program that opens a span. -/
def Span.origin : Span → String
  | plan .. => "edgeplane::edge::plan"
  | secondaryStack .. => "edgeplane::edge::binding"
  | primaryStack .. => "edgeplane::edge::plan"

/-- The values that a span carries, each with its name. -/
def Span.fields : Span → List (String × SpanValue)
  | plan topology operation services =>
    [("topology", .text topology), ("operation_id", .text operation), ("services", .count services)]
  | secondaryStack stack region => [("stack", .text stack), ("region", .text region)]
  | primaryStack stack region => [("stack", .text stack), ("region", .text region)]

/-- The settings in brief. -/
structure Summary where
  region : String
  useCdn : Bool
  internal : Bool
  customDomain : Bool
  ipv4Ranges : Nat
  ipv6Ranges : Nat
  countries : Nat
deriving DecidableEq, Repr

/-- What is reported. -/
inductive Event where
  | settingsInBrief (summary : Summary)
  | exposedWithoutTls
  | firewallRuleCompiled
  | noSecondaryStack
  | secondaryStackSynthesised
  | priorityIssued
  | rulePlanned
  | topologySelected
  | planAssembled
  | planWritten
deriving DecidableEq, Repr

namespace Event

def level : Event → Level
  | settingsInBrief _ => .info
  | exposedWithoutTls => .warn
  | firewallRuleCompiled => .debug
  | noSecondaryStack => .debug
  | secondaryStackSynthesised => .info
  | priorityIssued => .trace
  | rulePlanned => .debug
  | topologySelected => .info
  | planAssembled => .info
  | planWritten => .info

/-- The sentence of an event. -/
def message : Event → String
  | settingsInBrief _ => "edgeplane configuration"
  | exposedWithoutTls =>
    "load balancer is exposed to the internet without TLS; set network.use_cdn or domain.domain_name"
  | firewallRuleCompiled => "compiled firewall rule"
  | noSecondaryStack => "no CDN-scoped objects needed; skipping secondary stack"
  | secondaryStackSynthesised => "synthesised secondary stack"
  | priorityIssued => "allocated listener rule priority"
  | rulePlanned => "planned listener rule"
  | topologySelected => "selected edge topology"
  | planAssembled => "assembled deployment plan"
  | planWritten => "wrote deployment plan"

/-- The part of the program that reports an event. -/
def origin : Event → String
  | settingsInBrief _ => "edgeplane::observability::logging"
  | exposedWithoutTls => "edgeplane::config::settings"
  | firewallRuleCompiled => "edgeplane::edge::waf"
  | noSecondaryStack => "edgeplane::edge::binding"
  | secondaryStackSynthesised => "edgeplane::edge::binding"
  | priorityIssued => "edgeplane::edge::priority"
  | rulePlanned => "edgeplane::edge::listener"
  | topologySelected => "edgeplane::edge::topology"
  | planAssembled => "edgeplane::edge::plan"
  | planWritten => "edgeplane::cli"

/-- The names of the values that an event carries. -/
def fields : Event → List String
  | settingsInBrief _ =>
    ["message", "region", "use_cdn", "internal_alb", "custom_domain", "ipv4_ranges", "ipv6_ranges",
      "countries"]
  | exposedWithoutTls => ["message", "topology"]
  | firewallRuleCompiled => ["message", "scope", "rule", "priority"]
  | noSecondaryStack => ["message"]
  | secondaryStackSynthesised =>
    ["message", "stack", "region", "certificate", "firewall", "resources"]
  | priorityIssued => ["message", "priority"]
  | rulePlanned => ["message", "listener", "service", "priority", "patterns"]
  | topologySelected => ["message", "topology"]
  | planAssembled => ["message", "topology", "stacks", "services", "base_url"]
  | planWritten => ["message", "path", "stacks"]

/-- An event as one line: its level and its sentence. -/
def line (e : Event) : String := e.level.label ++ " " ++ e.message

end Event

end Perimeter
