import Perimeter.Plan
import Perimeter.Proofs.Policy
import Perimeter.Route.Services

/-!
Allow-lists count as sets of values. Settings whose lists can be read and stand for the same ranges
and countries give the same policy (`Settings.policy_eq_of_alike`), and with the same other settings
the same plan or the same failure (`Plan.assemble_eq_of_alike`), however the lists are written.
-/

namespace Perimeter

/-- The texts of two lists can all be read and stand for the same values; an absent list has no
texts. -/
structure SameValues {α : Type} (read : String → Except Error α) (xs ys : Option (List String)) :
    Prop where
  left : ∀ x ∈ xs.getD [], ∃ a, read x = .ok a
  right : ∀ y ∈ ys.getD [], ∃ a, read y = .ok a
  values : ∀ a, (∃ x ∈ xs.getD [], read x = .ok a) ↔ ∃ y ∈ ys.getD [], read y = .ok a

/-- Lists of ranges and countries that can be read and stand for the same ones. -/
structure AccessSettings.Alike (a b : AccessSettings) : Prop where
  ipv4 : SameValues (Cidr.ofTextAs .ipv4) a.ipv4 b.ipv4
  ipv6 : SameValues (Cidr.ofTextAs .ipv6) a.ipv6 b.ipv6
  countries : SameValues Country.ofText a.countries b.countries

namespace SameValues

variable {α : Type} {read : String → Except Error α} {xs ys : Option (List String)}

theorem of_mapM {as bs : List α} (first : (xs.getD []).mapM read = .ok as)
    (second : (ys.getD []).mapM read = .ok bs) (same : ∀ a, a ∈ as ↔ a ∈ bs) :
    SameValues read xs ys := by
  refine ⟨fun x member => ?_, fun y member => ?_, fun a => ?_⟩
  · obtain ⟨a, _, found⟩ := Outcome.exists_of_mapM first member
    exact ⟨a, found⟩
  · obtain ⟨a, _, found⟩ := Outcome.exists_of_mapM second member
    exact ⟨a, found⟩
  · rw [← Outcome.mem_of_mapM first, ← Outcome.mem_of_mapM second]
    exact same a

/-- What is done with a failure to read does not matter where there is none. -/
theorem mapError (same : SameValues read xs ys) (f : Error → Error) :
    SameValues (fun s => (read s).mapError f) xs ys := by
  have ok : ∀ s a, (read s).mapError f = .ok a ↔ read s = .ok a := fun _ _ => Outcome.mapError_eq_ok
  refine ⟨?_, ?_, ?_⟩
  · simpa only [ok] using same.left
  · simpa only [ok] using same.right
  · simpa only [ok] using same.values

theorem eq_nil_iff (same : SameValues read xs ys) : xs.getD [] = [] ↔ ys.getD [] = [] := by
  constructor
  · intro none
    rw [List.eq_nil_iff_forall_not_mem]
    intro y member
    obtain ⟨a, found⟩ := same.right y member
    obtain ⟨x, listed, _⟩ := (same.values a).mpr ⟨y, member, found⟩
    exact List.not_mem_nil (none ▸ listed)
  · intro none
    rw [List.eq_nil_iff_forall_not_mem]
    intro x member
    obtain ⟨a, found⟩ := same.left x member
    obtain ⟨y, listed, _⟩ := (same.values a).mp ⟨x, member, found⟩
    exact List.not_mem_nil (none ▸ listed)

/-- Both lists are read into one set. -/
theorem exists_set [Ranked α] (same : SameValues read xs ys) :
    ∃ as bs, (xs.getD []).mapM read = .ok as ∧ (ys.getD []).mapM read = .ok bs ∧
      Ascending.ofList as = Ascending.ofList bs := by
  obtain ⟨as, first⟩ := Outcome.exists_mapM same.left
  obtain ⟨bs, second⟩ := Outcome.exists_mapM same.right
  refine ⟨as, bs, first, second, Ascending.ext_mem fun a => ?_⟩
  rw [Ascending.mem_ofList, Ascending.mem_ofList, Outcome.mem_of_mapM first,
    Outcome.mem_of_mapM second]
  exact same.values a

end SameValues

theorem Policy.ranges_eq_of_sameValues {family : Family} {xs ys : Option (List String)}
    (same : SameValues (Cidr.ofTextAs family) xs ys) (field : String) :
    Policy.ranges family field (xs.getD []) = Policy.ranges family field (ys.getD []) := by
  obtain ⟨as, bs, first, second, set⟩ := (same.mapError (Error.onField field)).exists_set
  rw [Policy.ranges, Policy.ranges, first, second]
  simp only [bind, Except.bind, set]

namespace Settings

theorem policy_eq_of_alike {s t : Settings} (alike : s.access.Alike t.access) :
    s.policy = t.policy := by
  obtain ⟨as, bs, first, second, set⟩ := alike.countries.exists_set
  rw [policy, policy, Policy.ofLists, Policy.ofLists, Policy.ranges_eq_of_sameValues alike.ipv4,
    Policy.ranges_eq_of_sameValues alike.ipv6, first, second]
  simp only [bind, Except.bind, set]

theorem hasCountries_eq_of_alike {a b : AccessSettings} (alike : a.Alike b) :
    a.hasCountries = b.hasCountries := by
  have empty : (a.countries.getD []).isEmpty = (b.countries.getD []).isEmpty := by
    rw [Bool.eq_iff_iff, List.isEmpty_iff, List.isEmpty_iff]
    exact alike.countries.eq_nil_iff
  rw [AccessSettings.hasCountries, AccessSettings.hasCountries, empty]

/-- Of the lists, validation reads the policy and whether there are countries. -/
theorem validate_with_access {s : Settings} {access : AccessSettings}
    (alike : s.access.Alike access) : { s with access }.validate = s.validate := by
  have limits : { s with access }.broken = s.broken := rfl
  have conflicts : { s with access }.conflict? = s.conflict? := by
    unfold conflict?
    rw [hasCountries_eq_of_alike alike]
  have policies : s.policy = { s with access }.policy := policy_eq_of_alike alike
  rw [validate, validate, limits, conflicts, policies]

end Settings

namespace Plan

/-- A plan depends on the allow-lists only as sets of values: settings that are the same but for the
spelling, the order and the repetitions of what their lists admit give the same plan or the same
failure. -/
theorem assemble_eq_of_alike {s t : Settings} (others : { s with access := t.access } = t)
    (alike : s.access.Alike t.access) (routes : List Route) : assemble s routes = assemble t routes := by
  have policies : s.policy = { s with access := t.access }.policy := Settings.policy_eq_of_alike alike
  rw [← others]
  unfold assemble Topology.select
  rw [Settings.validate_with_access alike, ← policies]
  rfl

/-- Lists in the form in which plans show their entries. -/
private def tidy : Settings :=
  { Settings.initial with
    access := ⟨some ["10.0.0.0/8", "192.0.2.7/32"], some ["2001:db8::1/128"], none⟩ }

/-- The same lists, written in another way. -/
private def untidy : Settings :=
  { Settings.initial with
    access := ⟨some [" 192.0.2.7", "10.0.0.0/8", "192.0.2.7/32"], some ["2001:0DB8:0:0:0:0:0:1"],
      some []⟩ }

/-- Order, repetitions, white space, bare addresses and the text of an address make no difference to a
plan, and there is one. -/
theorem assemble_eq_of_alike_tidy :
    assemble tidy Route.services = assemble untidy Route.services ∧
      ∃ p, assemble tidy Route.services = .ok p := by
  have ipv4 : SameValues (Cidr.ofTextAs .ipv4) tidy.access.ipv4 untidy.access.ipv4 := by
    have first : ["10.0.0.0/8", "192.0.2.7/32"].mapM (Cidr.ofTextAs .ipv4) =
        .ok [.v4 0x0A000000 8, .v4 0xC0000207 32] := by decide +kernel
    have second : [" 192.0.2.7", "10.0.0.0/8", "192.0.2.7/32"].mapM (Cidr.ofTextAs .ipv4) =
        .ok [.v4 0xC0000207 32, .v4 0x0A000000 8, .v4 0xC0000207 32] := by decide +kernel
    refine .of_mapM first second fun a => ?_
    simp only [List.mem_cons, List.not_mem_nil, or_false]
    tauto
  have ipv6 : SameValues (Cidr.ofTextAs .ipv6) tidy.access.ipv6 untidy.access.ipv6 := by
    have first : ["2001:db8::1/128"].mapM (Cidr.ofTextAs .ipv6) =
        .ok [.v6 0x20010DB8000000000000000000000001 128] := by decide +kernel
    have second : ["2001:0DB8:0:0:0:0:0:1"].mapM (Cidr.ofTextAs .ipv6) =
        .ok [.v6 0x20010DB8000000000000000000000001 128] := by decide +kernel
    exact .of_mapM first second fun _ => .rfl
  have countries : SameValues Country.ofText tidy.access.countries untidy.access.countries :=
    .of_mapM rfl rfl fun _ => .rfl
  refine ⟨assemble_eq_of_alike rfl ⟨ipv4, ipv6, countries⟩ _, ?_⟩
  exact Outcome.exists_ok_of_isOk (by decide +kernel)

end Plan

end Perimeter
