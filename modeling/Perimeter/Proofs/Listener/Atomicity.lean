import Perimeter.Proofs.Listener.Run
import Perimeter.Route.Services

/-!
Registrations happen as a whole or not at all. Rules are appended one by one, with a priority drawn
for each, so a failure half way would leave some of them behind; `Planner.registration_atomic` shows
that no such failure occurs after any run of a fresh planner.
-/

namespace Perimeter.Planner

/-- The answers to attempts to register routes in order. -/
def answers (p : Planner) : List Route → List (Except Error TargetBinding)
  | [] => []
  | r :: rs => (p.register r).1 :: (p.register r).2.answers rs

theorem length_answers (p : Planner) (routes : List Route) :
    (p.answers routes).length = routes.length := by
  induction routes generalizing p with
  | nil => rfl
  | cons r rs ih => rw [answers, List.length_cons, List.length_cons, ih]

theorem answers_append (p : Planner) (before after : List Route) :
    p.answers (before ++ after) = p.answers before ++ (p.run before).answers after := by
  induction before generalizing p with
  | nil => rfl
  | cons r rs ih =>
    have start : p.run (r :: rs) = (p.register r).2.run rs := rfl
    rw [List.cons_append, answers, answers, ih, start, List.cons_append]

/-! ### No step fails after the first change -/

theorem refusal?_ne_noPriorities {p : Planner} (counted : p.Counted) (r : Route) :
    p.refusal? r ≠ some .noPriorities := by
  intro refused
  unfold refusal? at refused
  split at refused
  · cases refused
  · split at refused
    · rename_i overlap
      obtain ⟨_, _, _, _, _, _, same⟩ := overlap?_eq_some overlap
      rw [same] at refused
      cases refused
    · -- With room for the rules there are priorities for them.
      simp only at refused
      split at refused
      · cases refused
      · rename_i room
        rw [if_neg (counted.enough (Nat.le_of_not_lt room))] at refused
        cases refused

/-- Before each rule that is appended, the allocator has a priority left. -/
theorem Prepared.next_eq_ok {p : Planner} (counted : p.Counted) {r : Route} {group : LogicalId}
    {pairs : List (LogicalId × List String)} (prepared : p.Prepared r group pairs)
    {done rest : List (LogicalId × List String)} {pair : LogicalId × List String}
    (split : pairs = done ++ pair :: rest) :
    ∃ priority next,
      (appendRules r.service group done p).2.priorities.next = (.ok priority, next) := by
  have small := prepared.small counted
  rw [split, List.length_append, List.length_cons] at small
  rw [appendRules_eq r.service group done p (by omega)]
  refine ⟨_, _, Priority.Allocator.next_eq_ok ?_⟩
  simp only
  rw [UInt32.toNat_ofNat']
  omega

/-- A failed registration leaves the planner as it was, and later attempts go as they would have gone
without it. No step fails once the plan has been changed, priorities never run out before the room
for rules does, and neither the room nor the number of priorities left is ever below zero. -/
theorem registration_atomic (listener : LogicalId) (profile : HealthProfile) (suffix : String)
    (routes : List Route) (r : Route) :
    let fresh := empty listener profile suffix
    let p := fresh.run routes
    (∀ e, (p.register r).1 = .error e → (p.register r).2 = p ∧
      ∀ later, fresh.run (routes ++ r :: later) = fresh.run (routes ++ later) ∧
        (fresh.answers (routes ++ r :: later)).eraseIdx routes.length =
          fresh.answers (routes ++ later)) ∧
    p.refusal? r ≠ some .noPriorities ∧
    (∃ batches, Batch.ofList r.expandedPatterns Batch.maxValues = .ok batches) ∧
    (∀ group pairs, p.prepare r = .ok (group, pairs) →
      (appendRules r.service group pairs p).1 = .ok () ∧
      ∀ done pair rest, pairs = done ++ pair :: rest → ∃ priority next,
        (appendRules r.service group done p).2.priorities.next = (.ok priority, next)) ∧
    p.rules.length ≤ maxRules ∧ p.priorities.upcoming ≤ Priority.maximum + 1 ∧
    p.priorities.upcoming.toNat = p.rules.length + 1 ∧
    p.priorities.remaining.toNat = 50000 - p.rules.length := by
  intro fresh p
  have counted : p.Counted := (records_fresh listener profile suffix routes).counted
  refine ⟨?_, refusal?_ne_noPriorities counted r, ⟨_, Batch.ofList_maxValues _⟩, ?_, counted.few,
    counted.upcoming_le, counted.upcoming, counted.remaining_eq⟩
  · intro e failed
    have kept : (p.register r).2 = p := by
      rcases register_cases counted r with ⟨_, _, outcome⟩ | ⟨group, pairs, _, outcome⟩
      · rw [outcome]
      · rw [outcome] at failed
        cases failed
    refine ⟨kept, fun later => ⟨?_, ?_⟩⟩
    · have step : p.run (r :: later) = (p.register r).2.run later := rfl
      rw [run_append, run_append, step, kept]
    · rw [answers_append, answers_append, answers, kept]
      -- The answer to the failed attempt stands right behind those to the routes before it.
      rw [List.eraseIdx_append_of_length_le (Nat.le_of_eq (length_answers fresh routes)),
        length_answers, Nat.sub_self, List.eraseIdx_zero, List.tail_cons]
  · intro group pairs made
    have prepared := (prepare_eq_ok_iff counted r group pairs).mp made
    refine ⟨?_, fun done pair rest split => prepared.next_eq_ok counted split⟩
    rw [appendRules_eq r.service group pairs p (prepared.small counted)]

/-- A path that the interface has already. -/
private def taken : Route := ⟨.literal "Archive", 5004, .http "/", ["/archive", "/v1/x"]⟩

/-- A service that comes too late for one of its paths leaves no trace of the other one, and the
front end is registered behind the interface as if nothing had happened. -/
theorem registration_atomic_taken :
    let fresh := empty (.literal "AlbListener") .direct
    ((fresh.run [.api]).register taken).1 = .error (.constraint
      "path pattern '/v1/x' of service 'Archive' is already matched by '/v1/*' of service 'Api'") ∧
    ((fresh.run [.api]).register taken).2 = fresh.run [.api] ∧
    fresh.run [.api, taken, .web] = fresh.run [.api, .web] ∧
    ∃ group pairs, (fresh.run [.api]).prepare .web = .ok (group, pairs) ∧
      (appendRules Route.web.service group pairs (fresh.run [.api])).1 = .ok () := by
  have refused : (((empty (.literal "AlbListener") .direct).run [.api]).register taken).1 =
      .error (.constraint
        "path pattern '/v1/x' of service 'Archive' is already matched by '/v1/*' of service 'Api'") := by
    decide +kernel
  have made : ((empty (.literal "AlbListener") .direct).run [.api]).prepare .web =
      .ok (.literal "WebTargetGroup", [(.literal "WebRule0", ["/", "/*"])]) := by decide +kernel
  obtain ⟨kept, later⟩ := (registration_atomic (.literal "AlbListener") .direct "TargetGroup" [.api]
    taken).1 _ refused
  exact ⟨refused, kept, (later [.web]).1, _, _, made, ((registration_atomic (.literal "AlbListener")
    .direct "TargetGroup" [.api] .web).2.2.2.1 _ _ made).1⟩

end Perimeter.Planner
