import Perimeter.Listener.Priority

/-!
Runs of an allocator. What matters of an allocator is how many priorities it has issued
(`Allocator.Counts`): a call either issues the next one or, at the limit, fails and changes nothing
(`Counts.next_cases`). From this follows what any number of calls gives (`issued_in_order`).
-/

namespace Perimeter.Priority.Allocator

/-- The allocator has issued the priorities up to `k`, of which there are no more than allowed. -/
structure Counts (a : Allocator) (k : Nat) : Prop where
  few : k ≤ 50000
  upcoming : a.upcoming.toNat = k + 1

theorem counts_initial : initial.Counts 0 := ⟨Nat.zero_le _, rfl⟩

/-! ### One call -/

theorem next_eq_ok {a : Allocator} (low : a.upcoming.toNat ≤ 50000) :
    a.next = (.ok ⟨a.upcoming⟩, ⟨a.upcoming + 1⟩) := by
  rw [next, if_neg]
  rw [UInt32.lt_iff_toNat_lt]
  simp only [maximum, UInt32.reduceToNat]
  omega

theorem next_eq_error {a : Allocator} (high : 50000 < a.upcoming.toNat) :
    a.next = (.error exhausted, a) := by
  rw [next, if_pos]
  rw [UInt32.lt_iff_toNat_lt]
  simp only [maximum, UInt32.reduceToNat]
  exact high

/-- A call issues the next priority while there is one, and else changes nothing. -/
theorem Counts.next_cases {a : Allocator} {k : Nat} (counts : a.Counts k) :
    (k < 50000 ∧ ∃ priority following, a.next = (.ok priority, following) ∧
      priority.value.toNat = k + 1 ∧ following.Counts (k + 1)) ∨
    (k = 50000 ∧ a.next = (.error exhausted, a)) := by
  have few := counts.few
  have upcoming := counts.upcoming
  by_cases more : k < 50000
  · refine .inl ⟨more, _, _, next_eq_ok (by omega), upcoming, more, ?_⟩
    rw [UInt32.toNat_add]
    simp only [UInt32.reduceToNat]
    omega
  · exact .inr ⟨by omega, next_eq_error (by omega)⟩

/-- No sum and no difference of an allocator leaves the numbers of 32 bits. -/
structure Exact (a : Allocator) : Prop where
  next : ∀ priority, a.next.1 = .ok priority → a.next.2.upcoming.toNat = a.upcoming.toNat + 1
  issued : a.issued.toNat + 1 = a.upcoming.toNat
  limit : (maximum + 1).toNat = maximum.toNat + 1
  remaining : a.remaining.toNat + a.upcoming.toNat = (maximum + 1).toNat

theorem toNat_limit : (maximum + 1).toNat = 50001 := rfl

theorem Counts.upcoming_le {a : Allocator} {k : Nat} (counts : a.Counts k) :
    a.upcoming ≤ maximum + 1 := by
  have few := counts.few
  rw [UInt32.le_iff_toNat_le, counts.upcoming, toNat_limit]
  omega

theorem Counts.issued_eq {a : Allocator} {k : Nat} (counts : a.Counts k) : a.issued.toNat = k := by
  have upcoming := counts.upcoming
  have first : (1 : UInt32) ≤ a.upcoming := by
    rw [UInt32.le_iff_toNat_le, UInt32.toNat_one]
    omega
  rw [issued, UInt32.toNat_sub_of_le _ _ first, UInt32.toNat_one]
  omega

theorem Counts.remaining_eq {a : Allocator} {k : Nat} (counts : a.Counts k) :
    a.remaining.toNat = 50000 - k := by
  have upcoming := counts.upcoming
  rw [remaining, UInt32.toNat_sub_of_le _ _ counts.upcoming_le, toNat_limit]
  omega

theorem Counts.exact {a : Allocator} {k : Nat} (counts : a.Counts k) : a.Exact := by
  have few := counts.few
  have upcoming := counts.upcoming
  refine ⟨?_, ?_, rfl, ?_⟩
  · intro priority ok
    rcases counts.next_cases with ⟨_, _, _, issued, _, following⟩ | ⟨_, failed⟩
    · rw [issued, upcoming]
      exact following.upcoming
    · rw [failed] at ok
      cases ok
  · rw [counts.issued_eq, upcoming]
  · rw [counts.remaining_eq, upcoming, toNat_limit]
    omega

/-! ### Any number of calls -/

/-- The allocator after a number of calls, failed ones included. -/
def run (a : Allocator) : Nat → Allocator
  | 0 => a
  | n + 1 => a.next.2.run n

/-- The answers to a number of calls. -/
def answers (a : Allocator) : Nat → List (Except Error Priority)
  | 0 => []
  | n + 1 => a.next.1 :: a.next.2.answers n

section

variable {a following : Allocator} {answer : Except Error Priority}

theorem run_of_next (called : a.next = (answer, following)) (n : Nat) :
    a.run (n + 1) = following.run n := by rw [run, called]

theorem run_of_unmoved (called : a.next = (answer, a)) (n : Nat) : a.run n = a := by
  induction n with
  | zero => rfl
  | succ n ih => rw [run_of_next called, ih]

theorem answers_of_next (called : a.next = (answer, following)) (n : Nat) :
    a.answers (n + 1) = answer :: following.answers n := by rw [answers, called]

end

theorem run_succ (a : Allocator) (n : Nat) : a.run (n + 1) = (a.run n).next.2 := by
  induction n generalizing a with
  | zero => rfl
  | succ n ih => rw [run, ih, run]

theorem getElem?_answers (a : Allocator) {i n : Nat} (made : i < n) :
    (a.answers n)[i]? = some (a.run i).next.1 := by
  induction n generalizing a i with
  | zero => cases made
  | succ n ih =>
    cases i with
    | zero => rfl
    | succ i => rw [answers, List.getElem?_cons_succ, ih _ (Nat.lt_of_succ_lt_succ made), run]

theorem Counts.run {a : Allocator} {k : Nat} (counts : a.Counts k) (n : Nat) :
    (a.run n).Counts (min (k + n) 50000) := by
  induction n generalizing a k with
  | zero => rwa [Nat.add_zero, Nat.min_eq_left counts.few]
  | succ n ih =>
    rcases counts.next_cases with ⟨_, _, _, issued, _, following⟩ | ⟨full, failed⟩
    · rw [run_of_next issued, Nat.add_comm n 1, ← Nat.add_assoc]
      exact ih following
    · -- At the limit the calls that follow fail like the first one.
      rw [run_of_unmoved failed, Nat.min_eq_right (by omega), ← full]
      exact counts

/-- As many calls succeed as there are priorities left for them. -/
theorem Counts.successes {a : Allocator} {k : Nat} (counts : a.Counts k) (n : Nat) :
    k + (a.answers n).countP Except.isOk = min (k + n) 50000 := by
  induction n generalizing a k with
  | zero => exact (Nat.min_eq_left counts.few).symm
  | succ n ih =>
    rcases counts.next_cases with ⟨_, _, _, issued, _, following⟩ | ⟨full, failed⟩
    · have later := ih following
      rw [answers_of_next issued, List.countP_cons_of_pos rfl]
      omega
    · have later := ih counts
      rw [answers_of_next failed, List.countP_cons_of_neg Bool.false_ne_true]
      omega

/-- What an allocator has issued tells all of it. -/
theorem Counts.eq_run {a : Allocator} {k : Nat} (counts : a.Counts k) : a = initial.run k := by
  have calls := counts_initial.run k
  rw [Nat.zero_add, Nat.min_eq_left counts.few] at calls
  have same : a.upcoming = (initial.run k).upcoming :=
    UInt32.toNat_inj.mp (counts.upcoming.trans calls.upcoming.symm)
  exact congrArg Allocator.mk same

/-- Asking for several priorities at once, up to the first failure, gives those that are left of
them and leaves the allocator where as many calls would. -/
theorem Counts.issue_eq {a : Allocator} {k : Nat} (counts : a.Counts k) (n : Nat) :
    ∃ priorities failure, a.issue n = ((priorities, failure), a.run n) ∧
      priorities.map (·.value.toNat) = List.range' (k + 1) (min n (50000 - k)) ∧
      failure = if k + n ≤ 50000 then none else some exhausted := by
  induction n generalizing a k with
  | zero =>
    refine ⟨[], none, rfl, ?_, (if_pos counts.few).symm⟩
    rw [Nat.zero_min]
    rfl
  | succ n ih =>
    rcases counts.next_cases with ⟨more, priority, _, issued, value, following⟩ | ⟨full, failed⟩
    · obtain ⟨priorities, failure, outcome, values, reason⟩ := ih following
      have left : min (n + 1) (50000 - k) = min n (50000 - (k + 1)) + 1 := by omega
      rw [Nat.add_assoc, Nat.add_comm 1] at reason
      refine ⟨priority :: priorities, failure, ?_, ?_, reason⟩
      · rw [issue, run_of_next issued, issued]
        simp only [outcome]
      · rw [List.map_cons, value, values, left, List.range'_succ]
    · refine ⟨[], some exhausted, ?_, ?_, (if_neg (by omega)).symm⟩
      · rw [issue, run_of_unmoved failed, failed]
      · rw [full, Nat.sub_self, Nat.min_zero]
        rfl

/-! ### From the first call on -/

theorem counts_run (n : Nat) : (initial.run n).Counts (min n 50000) := by
  have counts := counts_initial.run n
  rwa [Nat.zero_add] at counts

/-- Behind fewer calls than there are priorities, the next one is their number and one more. -/
theorem next_run_of_lt {n : Nat} (within : n < 50000) :
    ∃ priority, (initial.run n).next.1 = .ok priority ∧ priority.value.toNat = n + 1 := by
  rcases (counts_run n).next_cases with ⟨_, priority, _, given, value, _⟩ | ⟨full, _⟩
  · refine ⟨priority, by rw [given], ?_⟩
    rw [value, Nat.min_eq_left (Nat.le_of_lt within)]
  · omega

theorem next_run_of_le {n : Nat} (beyond : 50000 ≤ n) :
    (initial.run n).next = (.error exhausted, initial.run n) := by
  rcases (counts_run n).next_cases with ⟨more, _⟩ | ⟨_, failed⟩
  · omega
  · exact failed

/-- Priorities are issued in order, each once. Of any number of calls to a fresh allocator, the `k`-th
one gives `k` as long as `k` is within the limit, and every later one fails and leaves the allocator
as it was. What has been issued is the number of calls that succeeded and makes up the limit together
with what remains, and no sum or difference on the way leaves the numbers of 32 bits. -/
theorem issued_in_order (calls : Nat) :
    let a : Allocator := initial.run calls
    let answers := initial.answers calls
    (∀ k, 1 ≤ k → k ≤ calls → k ≤ 50000 →
      ∃ priority, answers[k - 1]? = some (.ok priority) ∧ priority.value.toNat = k) ∧
    (∀ k, 50000 < k → k ≤ calls →
      answers[k - 1]? = some (.error exhausted) ∧ initial.run k = initial.run (k - 1)) ∧
    a.issued.toNat = answers.countP Except.isOk ∧
    a.issued.toNat = min calls 50000 ∧
    a.issued.toNat + a.remaining.toNat = 50000 ∧
    a.Exact := by
  intro a answers
  have counts : a.Counts (min calls 50000) := counts_run calls
  have issued := counts.issued_eq
  have successes := counts_initial.successes calls
  rw [Nat.zero_add, Nat.zero_add] at successes
  refine ⟨?_, ?_, issued.trans successes.symm, issued, ?_, counts.exact⟩
  · intro k first made within
    -- The answer to the `k`-th call is that of an allocator behind the calls before it.
    obtain ⟨i, rfl⟩ := Nat.exists_eq_add_of_le' first
    rw [Nat.add_sub_cancel, getElem?_answers initial made]
    obtain ⟨priority, given, value⟩ := next_run_of_lt within
    exact ⟨priority, congrArg some given, value⟩
  · intro k beyond made
    obtain ⟨i, rfl⟩ := Nat.exists_eq_add_of_le' (Nat.one_le_of_lt beyond)
    rw [Nat.add_sub_cancel, getElem?_answers initial made, run_succ,
      next_run_of_le (Nat.le_of_lt_succ beyond)]
    exact ⟨rfl, rfl⟩
  · rw [issued, counts.remaining_eq]
    omega

/-- Two calls more than there are priorities. -/
theorem issued_in_order_exhausted :
    let a : Allocator := initial.run 50002
    let answers := initial.answers 50002
    (∃ priority, answers[49999]? = some (.ok priority) ∧ priority.value.toNat = 50000) ∧
    answers[50000]? = some (.error exhausted) ∧ answers[50001]? = some (.error exhausted) ∧
    a = initial.run 50001 ∧ answers.countP Except.isOk = 50000 ∧ a.issued.toNat = 50000 ∧
    a.remaining.toNat = 0 := by
  intro a answers
  obtain ⟨given, failed, successes, issued, total, _⟩ := issued_in_order 50002
  have full : a.issued.toNat = 50000 := issued
  refine ⟨given 50000 (by decide) (by decide) (by decide), (failed 50001 (by decide) (by decide)).1,
    (failed 50002 (by decide) (by decide)).1, (failed 50002 (by decide) (by decide)).2,
    successes.symm.trans full, full, ?_⟩
  rw [full] at total
  exact Nat.add_left_cancel total

end Perimeter.Priority.Allocator
