/-!
Health checks. A service gives a path and whatever else it cares about; the profile of the
listener fills in the rest.
-/

namespace Perimeter

/-- The health check that a service asks for. -/
structure HealthCheck where
  path : String
  /-- Seconds between two probes. -/
  interval : Option UInt64
  /-- Successes in a row that make a target healthy. -/
  healthyThreshold : Option UInt32
  /-- Failures in a row that make a target unhealthy. -/
  unhealthyThreshold : Option UInt32
  /-- Status codes that count as a success. -/
  healthyCodes : Option String
deriving DecidableEq, Repr

/-- What a listener uses where a service asks for nothing. -/
structure HealthProfile where
  interval : UInt64
  healthyThreshold : UInt32
  unhealthyThreshold : UInt32
  healthyCodes : String
deriving DecidableEq, Repr

/-- A health check with every part settled. -/
structure ResolvedCheck where
  path : String
  interval : UInt64
  healthyThreshold : UInt32
  unhealthyThreshold : UInt32
  healthyCodes : String
deriving DecidableEq, Repr

namespace HealthCheck

/-- The check that asks for nothing but a path. -/
def http (path : String) : HealthCheck := ⟨path, none, none, none, none⟩

def withInterval (check : HealthCheck) (seconds : UInt64) : HealthCheck :=
  { check with interval := some seconds }

def withThresholds (check : HealthCheck) (healthy unhealthy : UInt32) : HealthCheck :=
  { check with healthyThreshold := some healthy, unhealthyThreshold := some unhealthy }

def withHealthyCodes (check : HealthCheck) (codes : String) : HealthCheck :=
  { check with healthyCodes := some codes }

end HealthCheck

namespace HealthProfile

/-- For a load balancer that faces clients itself. -/
def direct : HealthProfile := ⟨30, 2, 10, "200-299,307"⟩

/-- For a private load balancer behind the CDN. -/
def fronted : HealthProfile := ⟨20, 2, 6, "200-299,307"⟩

/-- The check of a service with its gaps filled. -/
def resolve (profile : HealthProfile) (check : HealthCheck) : ResolvedCheck where
  path := check.path
  interval := check.interval.getD profile.interval
  healthyThreshold := check.healthyThreshold.getD profile.healthyThreshold
  unhealthyThreshold := check.unhealthyThreshold.getD profile.unhealthyThreshold
  healthyCodes := check.healthyCodes.getD profile.healthyCodes

end HealthProfile

end Perimeter
