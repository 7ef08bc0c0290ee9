import Mathlib.Data.List.Basic
import Perimeter.Proofs.Firewall
import Perimeter.Proofs.Net.Reading
import Perimeter.Proofs.Policy.Steps
import Perimeter.Text.Split

/-!
The sets of compiled firewalls. Those of a policy that is made from texts hold its ranges by family,
in order and each once (`canonical_setsOf`). A set is named by its contents: no two lists of ranges
have the same bytes (`keyBytes_injective`), so two sets that share a name have the same family and the
same ranges, unless their digests start alike (`sets_canonical`).
-/

namespace Perimeter

namespace Sha256

/-- The hexadecimal digits in lower case. -/
def hexDigits : List Char := "0123456789abcdef".toList

theorem hex_subset (message : List UInt8) : hex message ⊆ hexDigits := by
  intro c member
  have known : ∀ n : Fin 16, hexDigit n ∈ hexDigits := by decide
  obtain ⟨n, rfl⟩ := exists_digit_of_mem_hex member
  exact known n

end Sha256

namespace Cidr

/-! ### Order -/

/-- The order of ranges: IPv4 before IPv6, then by address, then by length. -/
def Precedes : Cidr → Cidr → Prop
  | v4 a n, v4 b m => a < b ∨ a = b ∧ n < m
  | v4 .., v6 .. => True
  | v6 .., v4 .. => False
  | v6 a n, v6 b m => a < b ∨ a = b ∧ n < m

private theorem lt_iff_of_small {w n m : Nat} {a b : BitVec w} (left : n < 256) (right : m < 256) :
    a.toNat * 256 + n < b.toNat * 256 + m ↔ a < b ∨ a = b ∧ n < m := by
  rw [BitVec.lt_def, ← BitVec.toNat_inj]
  omega

theorem rank_lt_iff {a b : Cidr} : a.rank < b.rank ↔ a.Precedes b := by
  cases a with
  | v4 a n =>
    cases b with
    | v4 b m => exact lt_iff_of_small (by omega) (by omega)
    | v6 b m =>
      have small := a.isLt
      simp only [rank, Precedes, iff_true]
      omega
  | v6 a n =>
    cases b with
    | v4 b m =>
      have small := b.isLt
      simp only [rank, Precedes, iff_false]
      omega
    | v6 b m =>
      rw [rank, rank, Nat.add_assoc, Nat.add_assoc, Nat.add_lt_add_iff_left]
      exact lt_iff_of_small (by omega) (by omega)

theorem not_mem_text (range : Cidr) : '\n' ∉ range.text.toList := fun member =>
  absurd (text_subset range member) (by decide)

end Cidr

namespace Policy

theorem Made.family {p : Policy} (made : p.Made) {family : Family} {range : Cidr}
    (member : range ∈ (p.ofFamily family).toList) : range.family = family := by
  cases family with
  | ipv4 =>
    have listed : p.Lists (.ipv4 range) := member
    exact made.proper listed
  | ipv6 =>
    have listed : p.Lists (.ipv6 range) := member
    exact made.proper listed

end Policy

namespace Firewall

/-! ### Contents and names -/

theorem toList_keyText (ranges : List Cidr) :
    (String.join (ranges.map fun range => range.text ++ "\n")).toList =
      (ranges.map fun range => range.text.toList).flatMap fun line => line ++ ['\n'] := by
  rw [String.toList_join, List.flatMap_map, List.flatMap_map]
  simp only [String.toList_append]
  rfl

/-- The line ends keep the texts of the ranges apart, and these tell the ranges. -/
theorem keyBytes_injective : Function.Injective keyBytes := by
  intro ranges others same
  have texts := String.toByteArray_inj.mp (ByteArray.ext (Array.toList_inj.mp same))
  have lines := congrArg String.toList texts
  rw [toList_keyText, toList_keyText] at lines
  have clean : ∀ ranges : List Cidr,
      ∀ line ∈ ranges.map fun range => range.text.toList, '\n' ∉ line := by
    intro ranges line member
    obtain ⟨range, _, rfl⟩ := List.mem_map.mp member
    exact range.not_mem_text
  refine List.map_injective_iff.mpr ?_ (Text.lines_injective (clean ranges) (clean others) lines)
  exact fun a b equal => Cidr.text_injective (String.toList_injective equal)

/-- The digits that stand for the contents of a set in its name. -/
def key (ranges : List Cidr) : List Char := (Sha256.hex (keyBytes ranges)).take keyLength

theorem length_key (ranges : List Cidr) : (key ranges).length = 12 := by
  rw [key, List.length_take, Sha256.length_hex]
  rfl

theorem key_subset (ranges : List Cidr) : key ranges ⊆ Sha256.hexDigits :=
  fun _ member => Sha256.hex_subset _ (List.mem_of_mem_take member)

theorem text_setName (family : Family) (ranges : List Cidr) :
    (setName family ranges).text = baseName family ++ String.ofList (key ranges) := rfl

theorem setName_inj {f g : Family} {ranges others : List Cidr} :
    setName f ranges = setName g others ↔ f = g ∧ key ranges = key others := by
  constructor
  · intro same
    cases setName_injective same
    have texts := congrArg (fun id : LogicalId => id.text.toList) same
    simp only [text_setName, String.toList_append, String.toList_ofList] at texts
    exact ⟨rfl, List.append_cancel_left texts⟩
  · rintro ⟨rfl, same⟩
    refine Ident.ext ?_
    rw [text_setName, text_setName, same]

/-- Different bytes with digests that start alike. -/
def Collide (ranges others : List Cidr) : Prop :=
  keyBytes ranges ≠ keyBytes others ∧ key ranges = key others

theorem key_eq_iff {ranges others : List Cidr} :
    key ranges = key others ↔ ranges = others ∨ Collide ranges others := by
  constructor
  · intro same
    by_cases equal : ranges = others
    · exact .inl equal
    · exact .inr ⟨fun bytes => equal (keyBytes_injective bytes), same⟩
  · rintro (rfl | ⟨_, same⟩)
    · rfl
    · exact same

/-! ### Contents of all sets -/

/-- The sets of a policy, as they should be: none is empty, each holds ranges of its family in order
and is named by them, and all of them together hold each range of the policy once. -/
structure Canonical (policy : Policy) (sets : List IpSet) : Prop where
  filled : ∀ set ∈ sets, set.ranges ≠ []
  ascending : ∀ set ∈ sets, set.ranges.Pairwise Cidr.Precedes
  homogeneous : ∀ set ∈ sets, ∀ range ∈ set.ranges, range.family = set.family
  complete : sets.flatMap (·.ranges) = policy.ipv4.toList ++ policy.ipv6.toList
  once : (sets.flatMap (·.ranges)).Nodup
  named : ∀ set ∈ sets, set.id.text = baseName set.family ++ String.ofList (key set.ranges)
  digits : ∀ set ∈ sets, (key set.ranges).length = 12 ∧ key set.ranges ⊆ Sha256.hexDigits

theorem ranges_ofFamily (scope : Scope) (family : Family) (ranges : Ascending Cidr)
    (geo : Option Expression) :
    (ofFamily scope family ranges geo).sets.flatMap (·.ranges) = ranges.toList := by
  cases none : ranges.isEmpty with
  | true =>
    rw [ofFamily_empty none, List.isEmpty_iff.mp none]
    rfl
  | false =>
    rw [ofFamily_filled none]
    exact List.flatMap_singleton ..

theorem ranges_setsOf (scope : Scope) (policy : Policy) :
    (setsOf scope policy).flatMap (·.ranges) = policy.ipv4.toList ++ policy.ipv6.toList := by
  rw [setsOf, List.flatMap_append, ranges_ofFamily, ranges_ofFamily]

/-- No range is of both families. -/
theorem nodup_ranges {policy : Policy} (made : policy.Made) :
    (policy.ipv4.toList ++ policy.ipv6.toList).Nodup := by
  refine List.nodup_append.mpr ⟨policy.ipv4.nodup, policy.ipv6.nodup, ?_⟩
  rintro range v4 _ v6 rfl
  have left : range.family = .ipv4 := made.family v4
  have right : range.family = .ipv6 := made.family v6
  cases left.symm.trans right

theorem canonical_setsOf {policy : Policy} (made : policy.Made) (scope : Scope) :
    Canonical policy (setsOf scope policy) where
  filled set member := by
    obtain ⟨family, filled, rfl⟩ := exists_of_mem_setsOf member
    exact filled
  ascending set member := by
    obtain ⟨family, _, rfl⟩ := exists_of_mem_setsOf member
    exact (policy.ofFamily family).ascending.imp Cidr.rank_lt_iff.mp
  homogeneous set member := by
    obtain ⟨family, _, rfl⟩ := exists_of_mem_setsOf member
    exact fun range listed => made.family listed
  complete := ranges_setsOf scope policy
  once := by
    rw [ranges_setsOf]
    exact nodup_ranges made
  named set member := by
    rw [id_of_mem_setsOf member, text_setName]
  digits set _ := ⟨length_key set.ranges, key_subset set.ranges⟩

/-- A policy that is made from texts compiles to canonical sets. Sets of any two compiled firewalls
share a name exactly if they are of one family and have the same ranges, or ranges with different bytes
and digests that start alike; the bytes of two lists of ranges are the same only if the lists are. -/
theorem sets_canonical {policy : Policy} (made : policy.Made) (scope : Scope) :
    ∃ f, compile scope policy = .ok f ∧ Canonical policy f.sets ∧
      (∀ scope' policy' f', compile scope' policy' = .ok f' →
        ∀ set ∈ f.sets, ∀ set' ∈ f'.sets, set.id = set'.id ↔
          set.family = set'.family ∧
            (set.ranges = set'.ranges ∨ Collide set.ranges set'.ranges)) ∧
      ∀ ranges others, keyBytes ranges = keyBytes others → ranges = others := by
  refine ⟨_, compile_eq scope policy, canonical_setsOf made scope, ?_, fun _ _ same =>
    keyBytes_injective same⟩
  intro scope' policy' f' compiled set member set' member'
  cases (compile_eq scope' policy').symm.trans compiled
  rw [id_of_mem_setsOf member, id_of_mem_setsOf member', setName_inj, key_eq_iff]

/-- Two IPv4 ranges out of order, an IPv6 address and a country. -/
theorem sets_canonical_two_families : ∃ policy f,
    Policy.ofLists ["10.0.0.0/8", "1.2.3.4"] ["::1"] ["JP"] = .ok policy ∧
      compile .cdn policy = .ok f ∧ Canonical policy f.sets ∧
      f.sets.flatMap (·.ranges) = [.v4 0x01020304 32, .v4 0x0A000000 8, .v6 1 128] := by
  have made : Policy.ofLists ["10.0.0.0/8", "1.2.3.4"] ["::1"] ["JP"] = .ok
      ⟨.ofList [.v4 0x0A000000 8, .v4 0x01020304 32], .ofList [.v6 1 128], .ofList [⟨9, 15⟩]⟩ := by
    decide +kernel
  obtain ⟨f, compiled, canonical, _⟩ := sets_canonical (.ofLists made) .cdn
  exact ⟨_, f, made, compiled, canonical, canonical.complete.trans (by decide)⟩

end Firewall

end Perimeter
