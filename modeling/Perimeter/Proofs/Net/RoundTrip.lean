import Perimeter.Proofs.Net.Reading

/-!
Range texts and bare addresses. An address on its own holds no slash and an address with a length does,
so that the two are not mistaken for each other (`Cidr.read?_of_no_slash`), and a bare address stands for
the range of itself alone. Every range is read back from its text, with any white space around it, as a
range of its own family and of no other (`Cidr.text_round_trip`).
-/

namespace Perimeter

namespace Reader

/-- What is left of a text when a part without a slash is taken off its front. -/
def Leaves (cs rest : List Char) : Prop := ∃ front, cs = front ++ rest ∧ '/' ∉ front

namespace Leaves

theorem refl (cs : List Char) : Leaves cs cs := ⟨[], rfl, List.not_mem_nil⟩

theorem cons {c : Char} (other : c ≠ '/') {cs rest : List Char} (leaves : Leaves cs rest) :
    Leaves (c :: cs) rest := by
  obtain ⟨front, rfl, clean⟩ := leaves
  refine ⟨c :: front, rfl, fun member => ?_⟩
  rcases List.mem_cons.mp member with same | later
  · exact other same.symm
  · exact clean later

theorem trans {cs middle rest : List Char} (first : Leaves cs middle) (second : Leaves middle rest) :
    Leaves cs rest := by
  obtain ⟨front, rfl, clean⟩ := first
  obtain ⟨back, rfl, cleanBack⟩ := second
  refine ⟨front ++ back, (List.append_assoc ..).symm, fun member => ?_⟩
  rcases List.mem_append.mp member with earlier | later
  · exact clean earlier
  · exact cleanBack later

theorem no_slash {cs : List Char} (leaves : Leaves cs []) : '/' ∉ cs := by
  obtain ⟨front, rfl, clean⟩ := leaves
  rwa [List.append_nil]

end Leaves

theorem digits_leaves (base : Nat) (cs : List Char) : Leaves cs (digits base cs).2 := by
  induction cs with
  | nil => exact .refl []
  | cons c cs ih =>
    rw [digits]
    cases found : digit? base c with
    | none => exact .refl _
    | some d =>
      refine .cons ?_ ih
      rintro rfl
      simp [digit?] at found

theorem number_leaves {base width bound n : Nat} {leadingZeros : Bool} {cs rest : List Char}
    (read : number base width bound leadingZeros cs = some (n, rest)) : Leaves cs rest := by
  unfold number at read
  simp only at read
  split at read
  · cases read
  · cases read
    exact digits_leaves base cs

theorem char_eq_some_iff {c : Char} {cs rest : List Char} : char c cs = some rest ↔ cs = c :: rest := by
  cases cs with
  | nil => simp [char]
  | cons d cs =>
    by_cases same : d = c
    · simp [char, same]
    · simp [char, same]

theorem Leaves.slash_mem {cs middle rest : List Char} (leaves : Leaves cs middle)
    (slash : char '/' middle = some rest) : '/' ∈ cs := by
  obtain ⟨front, rfl, _⟩ := leaves
  rw [char_eq_some_iff.mp slash]
  exact List.mem_append_right _ (List.mem_cons_self ..)

theorem char_leaves {c : Char} (other : c ≠ '/') {cs rest : List Char} (read : char c cs = some rest) :
    Leaves cs rest := by
  rw [char_eq_some_iff.mp read]
  exact .cons other (.refl rest)

variable {spelling : Spelling}

theorem octet_leaves {first : Bool} {cs rest : List Char} {n : Nat}
    (read : octet spelling first cs = some (n, rest)) : Leaves cs rest := by
  cases first with
  | true => exact number_leaves read
  | false =>
    obtain ⟨after, point, number⟩ := Option.bind_eq_some_iff.mp read
    exact (char_leaves (by decide) point).trans (number_leaves number)

theorem octets_leaves {cs rest : List Char} {os : List Nat}
    (read : octets spelling cs = some (os, rest)) : Leaves cs rest := by
  simp only [octets, bind, Option.bind_eq_some_iff, Prod.exists] at read
  obtain ⟨a, cs₁, first, b, cs₂, second, c, cs₃, third, d, cs₄, fourth, last⟩ := read
  cases last
  exact (((octet_leaves first).trans (octet_leaves second)).trans (octet_leaves third)).trans
    (octet_leaves fourth)

theorem groups_leaves (limit : Nat) (first : Bool) (cs : List Char) :
    Leaves cs (groups spelling limit first cs).rest := by
  induction limit generalizing first cs with
  | zero => exact .refl cs
  | succ limit ih =>
    rw [groups]
    split
    · exact .refl cs
    · rename_i after start
      have begun : Leaves cs after := by
        cases first with
        | true =>
          cases start
          exact .refl _
        | false => exact char_leaves (by decide) start
      split
      · rename_i os rest embedded
        split at embedded
        · cases embedded
        · exact begun.trans (octets_leaves embedded)
      · split
        · exact .refl cs
        · rename_i g rest group
          exact (begun.trans (number_leaves group)).trans (ih false rest)

theorem ipv4_leaves {cs rest : List Char} {a : BitVec 32} (read : ipv4 spelling cs = some (a, rest)) :
    Leaves cs rest := by
  simp only [ipv4, bind, Option.bind_eq_some_iff, Prod.exists] at read
  obtain ⟨os, _, four, last⟩ := read
  cases last
  exact octets_leaves four

theorem ipv6_leaves {cs rest : List Char} {a : BitVec 128} (read : ipv6 spelling cs = some (a, rest)) :
    Leaves cs rest := by
  have head : Leaves cs (groups spelling 8 true cs).rest := groups_leaves 8 true cs
  unfold ipv6 at read
  simp only at read
  split at read
  · cases read
    exact head
  · split at read
    · cases read
    · simp only [bind, Option.bind_eq_some_iff] at read
      obtain ⟨_, colon, _, second, last⟩ := read
      cases last
      exact ((head.trans (char_leaves (by decide) colon)).trans (char_leaves (by decide) second)).trans
        (groups_leaves _ true _)

theorem whole_eq_some_iff {α : Type} {read : Option (α × List Char)} {a : α} :
    whole read = some a ↔ read = some (a, []) := by
  unfold whole
  split
  · simp
  · rename_i other
    constructor
    · intro impossible
      cases impossible
    · rintro rfl
      exact absurd rfl (other a)

end Reader

namespace Address

open Reader

theorem no_slash_of_ofText? {s : String} {a : Address} (read : ofText? s = some a) : '/' ∉ s.toList := by
  unfold ofText? at read
  split at read
  · rename_i v4
    exact (ipv4_leaves (whole_eq_some_iff.mp v4)).no_slash
  · obtain ⟨bits, v6, _⟩ := Option.map_eq_some_iff.mp read
    exact (ipv6_leaves (whole_eq_some_iff.mp v6)).no_slash

theorem ofText?_text (a : Address) : ofText? a.text = some a := by
  have ends : Ends [] := by
    refine ⟨fun c impossible => ?_, by simp⟩
    cases impossible
  unfold ofText?
  cases a with
  | v4 bits =>
    have read : ipv4 .strict ((Ipv4.text bits).toList ++ []) = some (bits, []) :=
      ipv4_text bits (noDigit_ten ends.noDigit)
    rw [List.append_nil] at read
    rw [text, read]
    rfl
  | v6 bits =>
    have other : octets .strict ((Ipv6.text bits).toList ++ []) = none :=
      octets_written (Ipv6.written bits)
    have read : ipv6 .strict ((Ipv6.text bits).toList ++ []) = some (bits, []) :=
      ipv6_written (Ipv6.written bits) ends (by simp)
    rw [List.append_nil] at other read
    rw [text, ipv4, other, read]
    rfl

end Address

namespace Cidr

open Reader

theorem slash_of_read {cs rest : List Char} {range : Cidr}
    (read : (readIpv4 cs).or (readIpv6 cs) = some (range, rest)) : '/' ∈ cs := by
  rcases Option.or_eq_some_iff.mp read with v4 | ⟨_, v6⟩
  · simp only [readIpv4, bind, Option.bind_eq_some_iff, Prod.exists] at v4
    obtain ⟨_, _, address, _, slash, _⟩ := v4
    exact (ipv4_leaves address).slash_mem slash
  · simp only [readIpv6, bind, Option.bind_eq_some_iff, Prod.exists] at v6
    obtain ⟨_, _, address, _, slash, _⟩ := v6
    exact (ipv6_leaves address).slash_mem slash

/-- A text without a slash stands for a range only as an address on its own. -/
theorem read?_of_no_slash {s : String} (clean : '/' ∉ s.toList) :
    read? s = (Address.ofText? s).map host := by
  unfold read?
  split
  · rename_i both
    exact absurd (slash_of_read (whole_eq_some_iff.mp both)) clean
  · rfl

theorem contains_host_iff (a b : Address) : (host a).contains b = true ↔ b = a := by
  have all : 32 - (32 : Fin 33).val = 0 ∧ 128 - (128 : Fin 129).val = 0 := ⟨rfl, rfl⟩
  cases a with
  | v4 a =>
    cases b with
    | v4 b =>
      simp only [host, contains, all, BitVec.ushiftRight_zero, beq_iff_eq, Address.v4.injEq]
      exact eq_comm
    | v6 b => simp [host, contains]
  | v6 a =>
    cases b with
    | v4 b => simp [host, contains]
    | v6 b =>
      simp only [host, contains, all, BitVec.ushiftRight_zero, beq_iff_eq, Address.v6.injEq]
      exact eq_comm

theorem ofText_of_address {s : String} {a : Address}
    (read : Address.ofText? (String.ofList (Text.trim s.toList)) = some a) : ofText s = .ok (host a) := by
  rw [ofText_eq_ok_iff, read?_of_no_slash (Address.no_slash_of_ofText? read), read]
  rfl

theorem exists_address_of_ofText {s : String} {range : Cidr} (read : ofText s = .ok range)
    (clean : '/' ∉ s.toList) :
    ∃ a, Address.ofText? (String.ofList (Text.trim s.toList)) = some a ∧ range = host a := by
  have inner : '/' ∉ (String.ofList (Text.trim s.toList)).toList := by
    rw [String.toList_ofList]
    exact fun member => clean (Text.trim_subset _ member)
  rw [ofText_eq_ok_iff, read?_of_no_slash inner] at read
  obtain ⟨a, found, same⟩ := Option.map_eq_some_iff.mp read
  exact ⟨a, found, same.symm⟩

theorem ofTextAs_eq {s : String} {range : Cidr} (read : ofText s = .ok range) (wanted : Family) :
    ofTextAs wanted s =
      if range.family = wanted then .ok range else .error (wrongFamily s range.family wanted) := by
  rw [ofTextAs, read]
  rfl

/-- Range texts round-trip. With any white space around it, the text of a range is read as that range,
as one of its own family and as none of the other. A bare address stands for the range of itself alone,
whoever wrote it; and what is read from a text without a slash is always that of a bare address. So no two
ranges share a text. -/
theorem text_round_trip :
    (∀ (range : Cidr) (before after : String), (∀ c ∈ before.toList, Text.isBlank c = true) →
      (∀ c ∈ after.toList, Text.isBlank c = true) →
      ofText (before ++ range.text ++ after) = .ok range ∧
      ∀ wanted, ofTextAs wanted (before ++ range.text ++ after) =
        if range.family = wanted then .ok range
        else .error (wrongFamily (before ++ range.text ++ after) range.family wanted)) ∧
    (∀ a : Address, Address.ofText? a.text = some a) ∧
    (∀ (s : String) (a : Address),
      Address.ofText? (String.ofList (Text.trim s.toList)) = some a →
      ofText s = .ok (host a) ∧ ∀ b, (host a).contains b = true ↔ b = a) ∧
    (∀ (s : String) (range : Cidr), ofText s = .ok range → '/' ∉ s.toList →
      ∃ a, Address.ofText? (String.ofList (Text.trim s.toList)) = some a ∧ range = host a) ∧
    ∀ a b : Cidr, a.text = b.text → a = b := by
  refine ⟨?_, Address.ofText?_text, ?_, fun s range => exists_address_of_ofText, fun a b => text_injective⟩
  · intro range before after left right
    have read := ofText_surrounded range left right
    exact ⟨read, ofTextAs_eq read⟩
  · intro s a read
    exact ⟨ofText_of_address read, contains_host_iff a⟩

/-- A range of mapped addresses between wide and narrow spaces, and an address of which the text leaves
out all groups but the last. -/
theorem text_round_trip_mapped :
    (v6 0xFFFF01020304 97).text = "::ffff:1.2.3.4/97" ∧
    ofText "\u2003\t::ffff:1.2.3.4/97\n" = .ok (v6 0xFFFF01020304 97) ∧
    ofTextAs .ipv4 "\u2003\t::ffff:1.2.3.4/97\n" =
      .error (wrongFamily "\u2003\t::ffff:1.2.3.4/97\n" .ipv6 .ipv4) ∧
    ofText " ::1\n" = .ok (v6 1 128) ∧ (v6 1 128).contains (.v6 0) = false := by
  obtain ⟨surrounded, _, bare, _⟩ := text_round_trip
  have text : (v6 0xFFFF01020304 97).text = "::ffff:1.2.3.4/97" := by decide +kernel
  have whole : "\u2003\t" ++ (v6 0xFFFF01020304 97).text ++ "\n" = "\u2003\t::ffff:1.2.3.4/97\n" := by
    rw [text]
    decide +kernel
  have left : "\u2003\t".toList.all Text.isBlank = true := by decide +kernel
  have right : "\n".toList.all Text.isBlank = true := by decide +kernel
  obtain ⟨read, asFamily⟩ := surrounded (v6 0xFFFF01020304 97) "\u2003\t" "\n"
    (List.all_eq_true.mp left) (List.all_eq_true.mp right)
  rw [whole] at read asFamily
  obtain ⟨host, only⟩ := bare " ::1\n" (.v6 1) (by decide +kernel)
  refine ⟨text, read, asFamily .ipv4, host, ?_⟩
  rw [← Bool.not_eq_true]
  exact mt (only (.v6 0)).mp (by decide)

end Cidr

end Perimeter
