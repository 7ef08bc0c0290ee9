import Perimeter.Proofs.Policy

/-!
Policies made step by step. A step reads one text and lists what it stands for (`Step.apply_eq`), so
a run of steps reads all texts and then lists everything (`run_eq`), and the lists of the settings
are read the same way (`ofLists_eq`). What is listed does not depend on the order or the repetitions
of the steps, hence neither does the policy (`ofLists_eq_steps`).
-/

namespace Perimeter

@[simp] theorem Error.message_onField (field : String) (e : Error) :
    (e.onField field).message = e.message := by
  cases e with
  | validation message field => rfl
  | _ => rfl

namespace Policy

/-! ### Entries -/

/-- One thing that a policy lists. -/
inductive Entry where
  | ipv4 (range : Cidr)
  | ipv6 (range : Cidr)
  | country (country : Country)

/-- Whether a policy lists an entry. -/
def Lists (p : Policy) : Entry → Prop
  | .ipv4 range => range ∈ p.ipv4.toList
  | .ipv6 range => range ∈ p.ipv6.toList
  | .country country => country ∈ p.countries.toList

/-- A policy with one more entry. -/
def insert (p : Policy) : Entry → Policy
  | .ipv4 range => { p with ipv4 := p.ipv4.insert range }
  | .ipv6 range => { p with ipv6 := p.ipv6.insert range }
  | .country country => { p with countries := p.countries.insert country }

/-- A policy is determined by what it lists. -/
theorem ext_lists {p q : Policy} (same : ∀ entry, p.Lists entry ↔ q.Lists entry) : p = q := by
  have ipv4 : p.ipv4 = q.ipv4 := Ascending.ext_mem fun range => same (.ipv4 range)
  have ipv6 : p.ipv6 = q.ipv6 := Ascending.ext_mem fun range => same (.ipv6 range)
  have countries : p.countries = q.countries := Ascending.ext_mem fun c => same (.country c)
  cases p
  cases q
  simp_all only

theorem not_lists_empty (entry : Entry) : ¬ empty.Lists entry := by
  cases entry with
  | _ => exact List.not_mem_nil

theorem lists_insert {p : Policy} {entry other : Entry} :
    (p.insert entry).Lists other ↔ other = entry ∨ p.Lists other := by
  cases entry with
  | _ =>
    cases other with
    | _ => simp [insert, Lists, Ascending.mem_insert]

theorem lists_foldl_insert {p : Policy} {entries : List Entry} {other : Entry} :
    (entries.foldl insert p).Lists other ↔ p.Lists other ∨ other ∈ entries := by
  induction entries generalizing p with
  | nil => simp
  | cons entry entries ih =>
    rw [List.foldl_cons, ih, lists_insert, List.mem_cons, or_comm (a := other = entry), or_assoc]

/-! ### Steps -/

/-- One step in making a policy, with the text that it reads. -/
inductive Step where
  | ipv4 (text : String)
  | ipv6 (text : String)
  | country (text : String)

namespace Step

/-- The policy after a step. -/
def apply (p : Policy) : Step → Except Error Policy
  | ipv4 s => p.withIpv4 s
  | ipv6 s => p.withIpv6 s
  | country s => p.withCountry s

/-- The entry that the text of a step stands for. -/
def read : Step → Except Error Entry
  | ipv4 s => (Cidr.ofTextAs .ipv4 s).map .ipv4
  | ipv6 s => (Cidr.ofTextAs .ipv6 s).map .ipv6
  | country s => (Country.ofText s).map .country

/-- The setting that holds the text of a step. -/
def setting : Step → String
  | ipv4 _ => "allowed_ipv4_cidrs"
  | ipv6 _ => "allowed_ipv6_cidrs"
  | country _ => "allowed_country_codes"

/-- A step lists what it reads, and does not look at the policy before. -/
theorem apply_eq (p : Policy) (step : Step) : step.apply p = step.read.map p.insert := by
  cases step with
  | ipv4 s =>
    rw [apply, withIpv4, read]
    cases Cidr.ofTextAs .ipv4 s with
    | error e => rfl
    | ok range => rfl
  | ipv6 s =>
    rw [apply, withIpv6, read]
    cases Cidr.ofTextAs .ipv6 s with
    | error e => rfl
    | ok range => rfl
  | country s =>
    rw [apply, withCountry, read]
    cases Country.ofText s with
    | error e => rfl
    | ok c => rfl

theorem exists_apply_iff (p : Policy) (step : Step) :
    (∃ q, step.apply p = .ok q) ↔ ∃ entry, step.read = .ok entry := by
  rw [apply_eq]
  cases step.read with
  | error e => simp [Except.map]
  | ok entry => simp [Except.map]

end Step

/-- The policy after steps in order, of which all must succeed. -/
def run (p : Policy) (steps : List Step) : Except Error Policy :=
  steps.foldlM (fun p step => step.apply p) p

theorem run_eq (p : Policy) (steps : List Step) :
    p.run steps = (steps.mapM Step.read).map fun entries => entries.foldl insert p := by
  induction steps generalizing p with
  | nil => rfl
  | cons step steps ih =>
    have first := step.apply_eq p
    rw [run, List.foldlM_cons, first, List.mapM_cons]
    cases step.read with
    | error e => rfl
    | ok entry =>
      refine (ih (p.insert entry)).trans ?_
      cases steps.mapM Step.read with
      | error e => rfl
      | ok entries => rfl

/-- What is listed after a run was listed before or is read by a step. -/
theorem lists_of_run {p q : Policy} {steps : List Step} (made : p.run steps = .ok q) (entry : Entry) :
    q.Lists entry ↔ p.Lists entry ∨ ∃ step ∈ steps, step.read = .ok entry := by
  rw [run_eq] at made
  obtain ⟨entries, read, rfl⟩ := Outcome.map_eq_ok.mp made
  rw [lists_foldl_insert, Outcome.mem_of_mapM read]

theorem exists_run_iff (p : Policy) (steps : List Step) :
    (∃ q, p.run steps = .ok q) ↔ ∀ step ∈ steps, ∃ entry, step.read = .ok entry := by
  rw [run_eq]
  constructor
  · rintro ⟨q, made⟩ step member
    obtain ⟨entries, read, _⟩ := Outcome.map_eq_ok.mp made
    obtain ⟨entry, _, found⟩ := Outcome.exists_of_mapM read member
    exact ⟨entry, found⟩
  · intro each
    obtain ⟨entries, read⟩ := Outcome.exists_mapM each
    exact ⟨_, Outcome.map_eq_ok.mpr ⟨entries, read, rfl⟩⟩

/-- Neither the order nor the repetitions of steps matter. -/
theorem run_of_same {p q : Policy} {steps others : List Step}
    (same : ∀ step, step ∈ steps ↔ step ∈ others) (made : p.run steps = .ok q) :
    p.run others = .ok q := by
  have readable := (exists_run_iff p steps).mp ⟨q, made⟩
  obtain ⟨q', made'⟩ := (exists_run_iff p others).mpr fun step member =>
    readable step ((same step).mpr member)
  have equal : q' = q := by
    refine ext_lists fun entry => ?_
    rw [lists_of_run made, lists_of_run made']
    simp only [same]
  rw [made', equal]

/-! ### Lists of settings -/

/-- The steps for all texts of the settings, in the order in which they are read. -/
def given (ipv4 ipv6 countries : List String) : List Step :=
  ipv4.map .ipv4 ++ ipv6.map .ipv6 ++ countries.map .country

/-- What a step reads, where a failure names the setting. -/
def Step.readSetting (step : Step) : Except Error Entry :=
  step.read.mapError (Error.onField step.setting)

/-- Texts of one setting are read one after the other, and a failure names the setting. -/
theorem mapM_readSetting {α : Type} (step : String → Step) (read : String → Except Error α)
    (entry : α → Entry) {field : String}
    (reads : ∀ s, (step s).read = (read s).map entry) (named : ∀ s, (step s).setting = field)
    (texts : List String) :
    (texts.map step).mapM Step.readSetting =
      (texts.mapM fun s => (read s).mapError (Error.onField field)).map (List.map entry) := by
  refine Outcome.mapM_map_eq (fun s => ?_) texts
  rw [Step.readSetting, reads, named, Outcome.mapError_map]

/-- A malformed country names its setting already. -/
theorem readSetting_country (s : String) :
    (Step.country s).readSetting = (Country.ofText s).map Entry.country := by
  refine (Outcome.mapError_map ..).trans (congrArg _ ?_)
  unfold Country.ofText
  split
  · split
    · rfl
    · rfl
  · rfl

/-- A policy is made of the entries that its three lists stand for. -/
theorem foldl_insert_lists (v4 v6 : List Cidr) (countries : List Country) :
    (v4.map Entry.ipv4 ++ v6.map Entry.ipv6 ++ countries.map Entry.country).foldl insert empty =
      ⟨.ofList v4, .ofList v6, .ofList countries⟩ := by
  refine ext_lists fun entry => ?_
  rw [lists_foldl_insert, or_iff_right (not_lists_empty entry)]
  cases entry with
  | _ => simp [Lists, Ascending.mem_ofList]

/-- The lists of the settings are read one text after the other. -/
theorem ofLists_eq (ipv4 ipv6 countries : List String) :
    ofLists ipv4 ipv6 countries =
      ((given ipv4 ipv6 countries).mapM Step.readSetting).map fun entries =>
        entries.foldl insert empty := by
  rw [ofLists, ranges, ranges, given, List.mapM_append, List.mapM_append,
    mapM_readSetting .ipv4 (Cidr.ofTextAs .ipv4) .ipv4 (fun _ => rfl) (fun _ => rfl),
    mapM_readSetting .ipv6 (Cidr.ofTextAs .ipv6) .ipv6 (fun _ => rfl) (fun _ => rfl),
    Outcome.mapM_map_eq readSetting_country]
  cases ipv4.mapM fun s => (Cidr.ofTextAs .ipv4 s).mapError (Error.onField "allowed_ipv4_cidrs") with
  | error e => rfl
  | ok v4 =>
    cases ipv6.mapM fun s => (Cidr.ofTextAs .ipv6 s).mapError (Error.onField "allowed_ipv6_cidrs") with
    | error e => rfl
    | ok v6 =>
      cases countries.mapM Country.ofText with
      | error e => rfl
      | ok read => exact congrArg Except.ok (foldl_insert_lists v4 v6 read).symm

theorem mapM_readSetting_eq_ok {steps : List Step} {entries : List Entry} :
    steps.mapM Step.readSetting = .ok entries ↔ steps.mapM Step.read = .ok entries := by
  simp only [Outcome.mapM_eq_ok, Step.readSetting, Outcome.mapError_eq_ok]

theorem ofLists_eq_ok_iff_run {ipv4 ipv6 countries : List String} {p : Policy} :
    ofLists ipv4 ipv6 countries = .ok p ↔ empty.run (given ipv4 ipv6 countries) = .ok p := by
  simp only [ofLists_eq, run_eq, Outcome.map_eq_ok, mapM_readSetting_eq_ok]

/-- Lists that cannot be read fail at the first malformed text. -/
theorem split_of_ofLists_eq_error {ipv4 ipv6 countries : List String} {e : Error}
    (failed : ofLists ipv4 ipv6 countries = .error e) : ∃ before step after cause,
      given ipv4 ipv6 countries = before ++ step :: after ∧
      (∀ earlier ∈ before, ∃ entry, earlier.read = .ok entry) ∧
      step.read = .error cause ∧ e = cause.onField step.setting := by
  rw [ofLists_eq, Outcome.map_eq_error] at failed
  obtain ⟨before, step, after, split, earlier, wrong⟩ := Outcome.split_of_mapM_eq_error failed
  obtain ⟨cause, unread, rfl⟩ := Outcome.mapError_eq_error.mp wrong
  refine ⟨before, step, after, cause, split, fun other member => ?_, unread, rfl⟩
  obtain ⟨entry, read⟩ := earlier other member
  exact ⟨entry, Outcome.mapError_eq_ok.mp read⟩

/-- Lists and steps make the same policies. The lists of the settings are accepted exactly if each of
their texts is by its own step, whatever the policy before; all runs that take each text at least once,
in any order, then end in the one policy that the lists make. Lists that are refused fail with the
message of the step for the first malformed text, IPv4 before IPv6 before countries. -/
theorem ofLists_eq_steps (ipv4 ipv6 countries : List String) :
    (∀ steps : List Step, (∀ step, step ∈ steps ↔ step ∈ given ipv4 ipv6 countries) →
      ∀ p, ofLists ipv4 ipv6 countries = .ok p ↔ empty.run steps = .ok p) ∧
    ((∃ p, ofLists ipv4 ipv6 countries = .ok p) ↔
      ∀ step ∈ given ipv4 ipv6 countries, ∀ p, ∃ q, step.apply p = .ok q) ∧
    ∀ e, ofLists ipv4 ipv6 countries = .error e → ∃ before step after cause,
      given ipv4 ipv6 countries = before ++ step :: after ∧
      (∀ earlier ∈ before, ∀ p, ∃ q, earlier.apply p = .ok q) ∧
      (∀ p, step.apply p = .error cause) ∧
      e = cause.onField step.setting ∧ e.message = cause.message := by
  simp only [Step.exists_apply_iff]
  refine ⟨?_, ?_, ?_⟩
  · intro steps same p
    rw [ofLists_eq_ok_iff_run]
    exact ⟨run_of_same fun step => (same step).symm, run_of_same same⟩
  · simp only [ofLists_eq_ok_iff_run, exists_run_iff, forall_const]
  · intro e failed
    obtain ⟨before, step, after, cause, split, earlier, wrong, rfl⟩ :=
      split_of_ofLists_eq_error failed
    refine ⟨before, step, after, cause, split, fun other member _ => earlier other member, ?_, rfl,
      Error.message_onField ..⟩
    intro p
    rw [Step.apply_eq, wrong]
    rfl

/-- Three texts in the lists, and five steps in another order; then lists with two malformed texts, of
which the IPv6 one comes first. -/
theorem ofLists_eq_steps_shuffled :
    (∃ p, ofLists ["10.0.0.0/8"] ["::1"] ["JP"] = .ok p ∧
      empty.run [.country "JP", .ipv6 "::1", .ipv4 "10.0.0.0/8", .ipv6 "::1", .country "JP"] =
        .ok p) ∧
    ∃ step ∈ given ["10.0.0.0/8"] ["1.2.3.4"] ["jp"], ∃ cause, (∀ p, step.apply p = .error cause) ∧
      cause.message =
        "Validation error: '1.2.3.4' is an IPV4 range where an IPV6 range was expected" := by
  obtain ⟨same, _, _⟩ := ofLists_eq_steps ["10.0.0.0/8"] ["::1"] ["JP"]
  obtain ⟨_, _, first⟩ := ofLists_eq_steps ["10.0.0.0/8"] ["1.2.3.4"] ["jp"]
  have accepted : (ofLists ["10.0.0.0/8"] ["::1"] ["JP"]).isOk = true := by decide +kernel
  have refused : ofLists ["10.0.0.0/8"] ["1.2.3.4"] ["jp"] = .error (.validation
      "'1.2.3.4' is an IPV4 range where an IPV6 range was expected" (some "allowed_ipv6_cidrs")) := by
    decide +kernel
  obtain ⟨p, made⟩ := Outcome.exists_ok_of_isOk accepted
  obtain ⟨before, step, after, cause, split, _, wrong, _, message⟩ := first _ refused
  refine ⟨⟨p, made, (same _ (fun step => ?_) p).mp made⟩, step, ?_, cause, wrong, message.symm⟩
  · simp only [given, List.map_cons, List.map_nil, List.cons_append, List.nil_append, List.mem_cons,
      List.not_mem_nil, or_false]
    tauto
  · rw [split]
    exact List.mem_append_right _ (List.mem_cons_self ..)

/-! ### Families -/

/-- A range listed for a family is of that family. -/
def Entry.Proper : Entry → Prop
  | ipv4 range => range.family = .ipv4
  | ipv6 range => range.family = .ipv6
  | country _ => True

theorem Step.proper_of_read {step : Step} {entry : Entry} (found : step.read = .ok entry) :
    entry.Proper := by
  cases step with
  | ipv4 s =>
    rw [Step.read, Outcome.map_eq_ok] at found
    obtain ⟨range, read, rfl⟩ := found
    exact (Cidr.ofTextAs_eq_ok.mp read).2
  | ipv6 s =>
    rw [Step.read, Outcome.map_eq_ok] at found
    obtain ⟨range, read, rfl⟩ := found
    exact (Cidr.ofTextAs_eq_ok.mp read).2
  | country s =>
    rw [Step.read, Outcome.map_eq_ok] at found
    obtain ⟨c, _, rfl⟩ := found
    trivial

/-- The policies that are made from texts: from the lists of the settings, or step by step. -/
inductive Made : Policy → Prop where
  | empty : Made empty
  | ofLists {ipv4 ipv6 countries : List String} {p : Policy}
      (made : ofLists ipv4 ipv6 countries = .ok p) : Made p
  | step {p q : Policy} (before : Made p) (step : Step) (made : step.apply p = .ok q) : Made q

theorem Made.proper {p : Policy} (made : p.Made) {entry : Entry} (listed : p.Lists entry) :
    entry.Proper := by
  induction made with
  | empty => exact absurd listed (not_lists_empty entry)
  | ofLists made =>
    rcases (lists_of_run (ofLists_eq_ok_iff_run.mp made) entry).mp listed with before | read
    · exact absurd before (not_lists_empty entry)
    · obtain ⟨step, _, found⟩ := read
      exact step.proper_of_read found
  | step _ step made ih =>
    rw [step.apply_eq] at made
    obtain ⟨other, found, rfl⟩ := Outcome.map_eq_ok.mp made
    rcases lists_insert.mp listed with rfl | before
    · exact step.proper_of_read found
    · exact ih before

end Policy

end Perimeter
