import Perimeter.Proofs.Listener.Run

/-!
Two planners that differ in the suffix of target groups and in the health profile. They stay in step
over any routes: what one accepts the other accepts, with rules of the same names, priorities and
patterns, unless a name is too long with the longer one of the suffixes (`Twin.run`).
-/

namespace Perimeter.Planner

/-- Target groups that two planners give to a route. -/
def GroupsOf (p q : Planner) (r : Route) (a b : TargetGroup) : Prop :=
  a.id.text = r.service.text ++ p.suffix ∧ a = p.targetGroup r a.id ∧
    b.id.text = r.service.text ++ q.suffix ∧ b = q.targetGroup r b.id

/-- Rules that two planners give to a route. -/
def RulesOf (p q : Planner) (r : Route) (a b : PlannedRule) : Prop :=
  a.targetGroup.text = r.service.text ++ p.suffix ∧ b.targetGroup.text = r.service.text ++ q.suffix ∧
    b.id = a.id ∧ b.priority = a.priority ∧ b.patterns = a.patterns

/-- Two planners have planned the same for the routes that they serve, but for the names of target
groups and for the health profile. -/
structure Twin (p q : Planner) (served : List Route) : Prop where
  left : p.Counted
  right : q.Counted
  listener : q.listener = p.listener
  priorities : q.priorities = p.priorities
  claimed : q.claimed = p.claimed
  groups : List.Forall₂ (fun a b => ∃ r ∈ served, GroupsOf p q r a b) p.targetGroups q.targetGroups
  rules : List.Forall₂ (fun a b => ∃ r ∈ served, RulesOf p q r a b) p.rules q.rules

theorem twin_empty (listener : LogicalId) (profile profile' : HealthProfile) (suffix suffix' : String) :
    Twin (empty listener profile suffix) (empty listener profile' suffix') [] :=
  ⟨counted_empty .., counted_empty .., rfl, rfl, rfl, .nil, .nil⟩

/-! ### One registration -/

theorem register_of_prepared {p : Planner} (counted : p.Counted) {r : Route} {group : LogicalId}
    {pairs : List (LogicalId × List String)} (ok : p.prepare r = .ok (group, pairs)) :
    p.register r = (.ok ⟨r.service, group, r.port⟩, p.grown r group pairs) := by
  rcases register_cases counted r with ⟨e, failed, _⟩ | ⟨group', pairs', prepared, outcome⟩
  · rw [ok] at failed
    cases failed
  · rw [(prepare_eq_ok_iff counted r group' pairs').mpr prepared] at ok
    cases ok
    exact outcome

theorem register_of_error {p : Planner} {r : Route} {e : Error} (failed : p.prepare r = .error e) :
    p.register r = (.error e, p) := by
  unfold register
  rw [failed]

variable {p q : Planner} {served : List Route}

theorem Twin.refusal?_eq (twin : Twin p q served) (r : Route) : q.refusal? r = p.refusal? r := by
  have count : q.rules.length = p.rules.length := twin.rules.length_eq.symm
  have services : q.targetGroups.map (·.service) = p.targetGroups.map (·.service) := by
    rw [eq_comm, ← List.forall₂_eq_eq_eq, List.forall₂_map_left_iff, List.forall₂_map_right_iff]
    refine twin.groups.imp ?_
    rintro a b ⟨r, _, _, left, _, right⟩
    rw [left, right]
    rfl
  have registered : (q.targetGroups.any fun group => group.service == r.service) =
      p.targetGroups.any fun group => group.service == r.service := by
    have anyService := congrArg (List.any · (· == r.service)) services
    rwa [List.any_map, List.any_map] at anyService
  unfold refusal?
  rw [registered, twin.claimed, count, twin.priorities]

theorem Twin.prepare_cases (twin : Twin p q served) (r : Route)
    (shorter : Ident.isName (r.service.text ++ q.suffix) = true →
      Ident.isName (r.service.text ++ p.suffix) = true) :
    (∃ group group' pairs, p.prepare r = .ok (group, pairs) ∧ q.prepare r = .ok (group', pairs)) ∨
    (∃ e, p.prepare r = .error e ∧ q.prepare r = .error e) ∨
    Ident.isName (r.service.text ++ q.suffix) = false ∧
      q.prepare r = .error (Ident.malformed .logical (r.service.text ++ q.suffix)) := by
  have screened : q.screen r = p.screen r := by
    unfold screen
    rw [twin.refusal?_eq, twin.listener]
  rw [prepare_eq, prepare_eq, screened]
  cases p.screen r with
  | error e => exact .inr (.inl ⟨e, rfl, rfl⟩)
  | ok _ =>
    by_cases named : Ident.isName (r.service.text ++ q.suffix) = true
    · obtain ⟨group, made⟩ := (Ident.exists_ofText_iff .logical _).mpr (shorter named)
      obtain ⟨group', made'⟩ := (Ident.exists_ofText_iff .logical _).mpr named
      rw [Ident.child, Ident.child, made, made']
      cases ruleBatches r with
      | error e => exact .inr (.inl ⟨e, rfl, rfl⟩)
      | ok pairs => exact .inl ⟨group, group', pairs, rfl, rfl⟩
    · refine .inr (.inr ⟨Bool.eq_false_iff.mpr named, ?_⟩)
      rw [Ident.child, Ident.ofText, dif_neg named]
      rfl

private theorem rulesOf_numbered {r : Route} {group group' : LogicalId}
    (left : group.text = r.service.text ++ p.suffix) (right : group'.text = r.service.text ++ q.suffix)
    (first : Nat) (pairs : List (LogicalId × List String)) :
    List.Forall₂ (RulesOf p q r) (numbered r.service group first pairs)
      (numbered r.service group' first pairs) := by
  induction pairs generalizing first with
  | nil => exact .nil
  | cons pair pairs ih => exact .cons ⟨left, right, rfl, rfl, rfl⟩ (ih (first + 1))

theorem Twin.grown (twin : Twin p q served) {r : Route} {group group' : LogicalId}
    {pairs : List (LogicalId × List String)} (left : p.Prepared r group pairs)
    (right : q.Prepared r group' pairs) :
    Twin (p.grown r group pairs) (q.grown r group' pairs) (served ++ [r]) := by
  have count : q.rules.length = p.rules.length := twin.rules.length_eq.symm
  have last : r ∈ served ++ [r] := List.mem_append_right _ (List.mem_singleton_self r)
  refine ⟨counted_grown left, counted_grown right, twin.listener, ?_, ?_, ?_, ?_⟩
  · simp only [Planner.grown, count]
  · simp only [Planner.grown, twin.claimed]
  · refine List.rel_append (twin.groups.imp ?_) (.cons ?_ .nil)
    · rintro a b ⟨r', earlier, both⟩
      exact ⟨r', List.mem_append_left _ earlier, both⟩
    · exact ⟨r, last, left.groupName, rfl, right.groupName, rfl⟩
  · simp only [Planner.grown, count]
    refine List.rel_append (twin.rules.imp ?_)
      ((rulesOf_numbered left.groupName right.groupName _ pairs).imp ?_)
    · rintro a b ⟨r', earlier, both⟩
      exact ⟨r', List.mem_append_left _ earlier, both⟩
    · intro a b both
      exact ⟨r, last, both⟩

/-- A route is accepted by both planners, refused by both for the same reason, or refused by the one
with the longer suffix because a name is too long. -/
theorem Twin.register_cases (twin : Twin p q served) (r : Route)
    (shorter : Ident.isName (r.service.text ++ q.suffix) = true →
      Ident.isName (r.service.text ++ p.suffix) = true) :
    (∃ a b p' q', p.register r = (.ok a, p') ∧ q.register r = (.ok b, q') ∧ p'.suffix = p.suffix ∧
      q'.suffix = q.suffix ∧ Twin p' q' (served ++ [r])) ∨
    (∃ e, p.register r = (.error e, p) ∧ q.register r = (.error e, q)) ∨
    Ident.isName (r.service.text ++ q.suffix) = false ∧
      q.register r = (.error (Ident.malformed .logical (r.service.text ++ q.suffix)), q) := by
  rcases twin.prepare_cases r shorter with ⟨group, group', pairs, left, right⟩ | ⟨e, left, right⟩ |
    ⟨long, failed⟩
  · have prepared := (prepare_eq_ok_iff twin.left r group pairs).mp left
    have prepared' := (prepare_eq_ok_iff twin.right r group' pairs).mp right
    exact .inl ⟨_, _, _, _, register_of_prepared twin.left left, register_of_prepared twin.right right,
      rfl, rfl, twin.grown prepared prepared'⟩
  · exact .inr (.inl ⟨e, register_of_error left, register_of_error right⟩)
  · exact .inr (.inr ⟨long, register_of_error failed⟩)

/-! ### Runs -/

/-- Over any routes, both planners accept all of them and stay twins, or both refuse the same route
first and for the same reason, or the one with the longer suffix fails on a name that is too long. -/
theorem Twin.run (twin : Twin p q served) (routes : List Route)
    (shorter : ∀ service : ServiceId, Ident.isName (service.text ++ q.suffix) = true →
      Ident.isName (service.text ++ p.suffix) = true) :
    (p.AcceptsAll routes ∧ q.AcceptsAll routes ∧
      Twin (p.run routes) (q.run routes) (served ++ routes)) ∨
    (∃ e, p.FirstRefusal routes e ∧ q.FirstRefusal routes e) ∨
    ∃ r ∈ routes, Ident.isName (r.service.text ++ q.suffix) = false ∧
      q.FirstRefusal routes (Ident.malformed .logical (r.service.text ++ q.suffix)) := by
  induction routes generalizing p q served with
  | nil =>
    rw [List.append_nil]
    exact .inl ⟨acceptsAll_nil p, acceptsAll_nil q, twin⟩
  | cons r rs ih =>
    have start : p.run (r :: rs) = (p.register r).2.run rs := rfl
    have start' : q.run (r :: rs) = (q.register r).2.run rs := rfl
    simp only [acceptsAll_cons, firstRefusal_cons, start, start']
    rcases twin.register_cases r (shorter r.service) with
      ⟨a, b, p', q', left, right, suffix, suffix', next⟩ | ⟨e, left, right⟩ | ⟨long, failed⟩
    · rw [left, right]
      rw [← suffix, ← suffix'] at shorter
      rcases ih next shorter with ⟨all, all', final⟩ | ⟨e, refused, refused'⟩ |
        ⟨r', later, long, refused⟩
      · rw [List.append_assoc] at final
        exact .inl ⟨⟨⟨a, rfl⟩, all⟩, ⟨⟨b, rfl⟩, all'⟩, final⟩
      · exact .inr (.inl ⟨e, .inr ⟨⟨a, rfl⟩, refused⟩, .inr ⟨⟨b, rfl⟩, refused'⟩⟩)
      · rw [suffix'] at long refused
        exact .inr (.inr ⟨r', List.mem_cons_of_mem _ later, long, .inr ⟨⟨b, rfl⟩, refused⟩⟩)
    · rw [left, right]
      exact .inr (.inl ⟨e, .inl rfl, .inl rfl⟩)
    · rw [failed]
      exact .inr (.inr ⟨r, List.mem_cons_self .., long, .inl rfl⟩)

end Perimeter.Planner
