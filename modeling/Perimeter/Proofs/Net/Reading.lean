import Mathlib.Data.List.TakeWhile
import Perimeter.Net.Cidr
import Perimeter.Proofs.Net.Number

/-!
Address texts read back. What a range is written as is read as that range (`Cidr.read?_text`), also
with white space around it (`Cidr.ofText_surrounded`), so that no two ranges share a text
(`Cidr.text_injective`).
-/

namespace Perimeter

/-! ### Bits -/

namespace Ipv4

theorem ofOctets_octets (a : BitVec 32) : ofOctets (octets a) = a := by
  have below := a.isLt
  apply BitVec.eq_of_toNat_eq
  simp only [ofOctets, octets, List.foldl_cons, List.foldl_nil, BitVec.toNat_ofNat,
    Nat.shiftRight_eq_div_pow]
  omega

theorem lt_of_mem_octets {a : BitVec 32} {octet : Nat} (member : octet ∈ octets a) : octet < 256 := by
  simp only [octets, List.mem_cons, List.not_mem_nil, or_false] at member
  omega

end Ipv4

namespace Ipv6

theorem ofGroups_groups (a : BitVec 128) : ofGroups (groups a) = a := by
  have below := a.isLt
  apply BitVec.eq_of_toNat_eq
  simp only [ofGroups, groups, List.foldl_cons, List.foldl_nil, BitVec.toNat_ofNat,
    Nat.shiftRight_eq_div_pow]
  omega

theorem lt_of_mem_groups {a : BitVec 128} {group : Nat} (member : group ∈ groups a) :
    group < 65536 := by
  simp only [groups, List.mem_cons, List.not_mem_nil, or_false] at member
  omega

end Ipv6

/-! ### IPv4 -/

theorem Ipv4.toList_text (a : BitVec 32) : ∃ b c d e, octets a = [b, c, d, e] ∧
    (text a).toList = Nat.toDigits 10 b ++ '.' :: (Nat.toDigits 10 c ++ '.' ::
      (Nat.toDigits 10 d ++ '.' :: Nat.toDigits 10 e)) := by
  refine ⟨_, _, _, _, rfl, ?_⟩
  simp [text, octets, Nat.toList_repr]

namespace Reader

variable {spelling : Spelling} {rest : List Char}

theorem octet_first {n : Nat} (small : n < 256) (stop : NoDigit 10 rest) :
    octet spelling true (Nat.toDigits 10 n ++ rest) = some (n, rest) :=
  number_toDigits (.inl rfl) small (by omega) (by decide) _ stop

theorem octet_next {n : Nat} (small : n < 256) (stop : NoDigit 10 rest) :
    octet spelling false ('.' :: (Nat.toDigits 10 n ++ rest)) = some (n, rest) :=
  number_toDigits (.inl rfl) small (by omega) (by decide) _ stop

theorem noDigit_point (cs : List Char) : NoDigit 10 ('.' :: cs) := noDigit_cons (by decide) cs

theorem octets_text (a : BitVec 32) (stop : NoDigit 10 rest) :
    octets spelling ((Ipv4.text a).toList ++ rest) = some (Ipv4.octets a, rest) := by
  obtain ⟨b, c, d, e, four, text⟩ := Ipv4.toList_text a
  have small : ∀ octet ∈ [b, c, d, e], octet < 256 := by
    rw [← four]
    exact fun _ => Ipv4.lt_of_mem_octets
  simp only [List.mem_cons, List.not_mem_nil, or_false, forall_eq_or_imp, forall_eq] at small
  rw [text, four]
  simp only [List.append_assoc, List.cons_append]
  simp only [octets, octet_first small.1 (noDigit_point _), octet_next small.2.1 (noDigit_point _),
    octet_next small.2.2.1 (noDigit_point _), octet_next small.2.2.2 stop, bind, Option.bind]
  rfl

theorem ipv4_text (a : BitVec 32) (stop : NoDigit 10 rest) :
    ipv4 spelling ((Ipv4.text a).toList ++ rest) = some (a, rest) := by
  rw [ipv4, octets_text a stop]
  exact congrArg (fun a => some (a, rest)) (Ipv4.ofOctets_octets a)

/-! ### What is no IPv4 address -/

theorem noDigit_ten (stop : NoDigit 16 rest) : NoDigit 10 rest := by
  intro c first
  have other := stop c first
  unfold digit? at other ⊢
  split at other
  · cases other
  · rename_i noDecimal
    rw [if_neg noDecimal]
    simp

theorem octets_of_noDigit (stop : NoDigit 10 rest) : octets spelling rest = none := by
  unfold octets octet
  simp [number_of_noDigit stop]

/-- Octets need a point behind the first digits. -/
theorem octets_eq_none {cs : List Char} (noPoint : (digits 10 cs).2.head? ≠ some '.') :
    octets spelling cs = none := by
  unfold octets
  cases first : octet spelling true cs with
  | none => rfl
  | some read =>
    obtain ⟨n, rest⟩ := read
    have behind : (digits 10 cs).2 = rest := by
      simp only [octet, number, if_true, bind, Option.bind] at first
      split at first
      · cases first
      · cases first
        rfl
    have second : octet spelling false rest = none := by
      rw [behind] at noPoint
      cases rest with
      | nil => rfl
      | cons c cs =>
        have other : c ≠ '.' := fun same => noPoint (congrArg some same)
        simp [octet, char, other]
    simp only [bind, Option.bind, second]

/-- There is no point behind the digits where none stands in front of what ends them. -/
theorem noPoint_of_append {cs : List Char} (clean : '.' ∉ cs) (stop : NoDigit 10 rest)
    (other : rest.head? ≠ some '.') : (digits 10 (cs ++ rest)).2.head? ≠ some '.' := by
  induction cs with
  | nil =>
    rw [List.nil_append, digits_of_noDigit stop]
    exact other
  | cons c cs ih =>
    rw [List.mem_cons, not_or] at clean
    rw [List.cons_append, digits]
    cases digit? 10 c with
    | none =>
      intro point
      exact clean.1 (Option.some.inj point).symm
    | some d => exact ih clean.2

end Reader

/-! ### Groups -/

namespace Ipv6

/-- Groups in hexadecimal, with a colon in front of each but the first of a text. -/
def groupsChars : (first : Bool) → List Nat → List Char
  | _, [] => []
  | first, g :: gs => (if first then [] else [':']) ++ Nat.toDigits 16 g ++ groupsChars false gs

theorem toList_groupsText (gs : List Nat) : (groupsText gs).toList = groupsChars true gs := by
  have colons : ":".toList.intercalate (gs.map (Nat.toDigits 16)) = groupsChars true gs := by
    induction gs with
    | nil => rfl
    | cons g gs ih =>
      cases gs with
      | nil => simp [groupsChars]
      | cons g' gs =>
        rw [List.map_cons, List.map_cons, List.intercalate_cons_cons, ← List.map_cons, ih]
        simp [groupsChars]
  rw [← colons, groupsText, String.toList_intercalate, List.map_map]
  exact congrArg _ (List.map_congr_left fun g _ => String.toList_ofList)

theorem point_not_mem_toDigits (g : Nat) : '.' ∉ Nat.toDigits 16 g := by
  intro member
  have clean : ∀ d : Fin 16, Nat.digitChar d ≠ '.' := by decide
  obtain ⟨d, small, same⟩ := Reader.mem_toDigits (by decide) member
  exact clean ⟨d, small⟩ same

theorem mem_groupsChars {first : Bool} {gs : List Nat} {c : Char} (member : c ∈ groupsChars first gs) :
    c = ':' ∨ ∃ g ∈ gs, c ∈ Nat.toDigits 16 g := by
  induction gs generalizing first with
  | nil => cases member
  | cons g gs ih =>
    rw [groupsChars, List.mem_append, List.mem_append] at member
    rcases member with (colon | digit) | later
    · cases first with
      | true => cases colon
      | false => exact .inl (List.mem_singleton.mp colon)
    · exact .inr ⟨g, List.mem_cons_self .., digit⟩
    · rcases ih later with colon | ⟨g', group, digit⟩
      · exact .inl colon
      · exact .inr ⟨g', List.mem_cons_of_mem _ group, digit⟩

theorem point_not_mem_groupsChars (first : Bool) (gs : List Nat) : '.' ∉ groupsChars first gs := by
  intro member
  rcases mem_groupsChars member with colon | ⟨g, _, digit⟩
  · exact absurd colon (by decide)
  · exact point_not_mem_toDigits g digit

end Ipv6

namespace Reader

variable {spelling : Spelling} {rest : List Char}

/-- What follows the last group of an address. -/
structure Ends (rest : List Char) : Prop where
  noDigit : NoDigit 16 rest
  noPoint : rest.head? ≠ some '.'

theorem ends_colon (cs : List Char) : Ends (':' :: cs) := ⟨noDigit_cons (by decide) cs, by simp⟩

theorem ends_groupsChars (ends : Ends rest) (gs : List Nat) :
    Ends (Ipv6.groupsChars false gs ++ rest) := by
  cases gs with
  | nil => exact ends
  | cons g gs => exact ends_colon _

/-- A group is read from its digits. -/
theorem groups_cons {g : Nat} (small : g < 65536) (ends : Ends rest) (limit : Nat) (first : Bool) :
    groups spelling (limit + 1) first ((if first then [] else [':']) ++ Nat.toDigits 16 g ++ rest) =
      let more := groups spelling limit false rest
      ⟨g :: more.groups, more.embedded, more.rest⟩ := by
  have noOctets : octets spelling (Nat.toDigits 16 g ++ rest) = none :=
    octets_eq_none (noPoint_of_append (Ipv6.point_not_mem_toDigits g) (noDigit_ten ends.noDigit)
      ends.noPoint)
  have read : number 16 4 65536 true (Nat.toDigits 16 g ++ rest) = some (g, rest) :=
    number_toDigits (.inr rfl) small small (by decide) true ends.noDigit
  cases first with
  | true => simp [groups, noOctets, read]
  | false => simp [groups, char, noOctets, read]

/-- Groups are read up to what gives no further one. -/
theorem groups_chars (ends : Ends rest)
    (silent : ∀ limit first, groups spelling limit first rest = ⟨[], false, rest⟩) {gs : List Nat}
    (small : ∀ g ∈ gs, g < 65536) {limit : Nat} (room : gs.length ≤ limit) (first : Bool) :
    groups spelling limit first (Ipv6.groupsChars first gs ++ rest) = ⟨gs, false, rest⟩ := by
  induction gs generalizing limit first with
  | nil => exact silent limit first
  | cons g gs ih =>
    cases limit with
    | zero => cases room
    | succ limit =>
      have later := ih (fun g member => small g (List.mem_cons_of_mem _ member))
        (Nat.le_of_succ_le_succ room) false
      rw [Ipv6.groupsChars, List.append_assoc, groups_cons (small g (List.mem_cons_self ..))
        (ends_groupsChars ends gs), later]

/-- Two colons give no group. -/
theorem groups_elision (cs : List Char) (limit : Nat) (first : Bool) :
    groups spelling limit first (':' :: ':' :: cs) = ⟨[], false, ':' :: ':' :: cs⟩ := by
  have noDigit : ∀ cs, NoDigit 16 (':' :: cs) := noDigit_cons (by decide)
  have noOctets : ∀ cs, octets spelling (':' :: cs) = none :=
    fun cs => octets_of_noDigit (noDigit_ten (noDigit cs))
  have noNumber : ∀ cs, number 16 4 65536 true (':' :: cs) = none :=
    fun cs => number_of_noDigit (noDigit cs) 4 65536 true
  cases limit with
  | zero => rfl
  | succ limit =>
    cases first with
    | true => simp [groups, noOctets, noNumber]
    | false => simp [groups, char, noOctets, noNumber]

/-- Nor does anything else that is no digit, if a colon does not come first. -/
theorem groups_of_noDigit (stop : NoDigit 16 rest) (noColon : rest.head? ≠ some ':') (limit : Nat)
    (first : Bool) : groups spelling limit first rest = ⟨[], false, rest⟩ := by
  cases limit with
  | zero => rfl
  | succ limit =>
    cases first with
    | true =>
      simp [groups, octets_of_noDigit (noDigit_ten stop), number_of_noDigit stop]
    | false =>
      cases rest with
      | nil => rfl
      | cons c cs =>
        have other : c ≠ ':' := fun same => noColon (congrArg some same)
        simp [groups, char, other]

end Reader

/-! ### IPv6 -/

namespace Ipv6

/-- The three ways in which an address is written. -/
inductive Written (a : BitVec 128) : List Char → Prop
  /-- As the IPv4 address that it maps into IPv6. -/
  | mapped (v4 : BitVec 32) (same : a.toNat = 0xFFFF * 2 ^ 32 + v4.toNat) :
    Written a ("::ffff:".toList ++ (Ipv4.text v4).toList)
  /-- With all of its groups. -/
  | full : Written a (groupsChars true (groups a))
  /-- Without some zero groups. -/
  | elided (front back : List Nat) (count : Nat) (many : 2 ≤ count)
    (split : groups a = front ++ List.replicate count 0 ++ back) :
    Written a (groupsChars true front ++ ':' :: ':' :: groupsChars true back)

/-- The zero groups from a position on, between those before and those behind them. -/
theorem split_zerosFrom (gs : List Nat) (start : Nat) :
    gs = gs.take start ++ List.replicate (zerosFrom gs start) 0 ++ gs.drop (start + zerosFrom gs start) := by
  have zeros : (gs.drop start).takeWhile (· == 0) = List.replicate (zerosFrom gs start) 0 := by
    refine List.eq_replicate_iff.mpr ⟨rfl, fun g member => ?_⟩
    exact beq_iff_eq.mp (List.mem_takeWhile_imp (p := (· == 0)) member)
  have behind : (gs.drop start).drop (zerosFrom gs start) = (gs.drop start).dropWhile (· == 0) := by
    calc (gs.drop start).drop (zerosFrom gs start)
      _ = ((gs.drop start).takeWhile (· == 0) ++ (gs.drop start).dropWhile (· == 0)).drop
          (zerosFrom gs start) := by rw [List.takeWhile_append_dropWhile]
      _ = (gs.drop start).dropWhile (· == 0) := List.drop_left
  rw [← List.drop_drop, behind, ← zeros, List.append_assoc, List.takeWhile_append_dropWhile,
    List.take_append_drop]

theorem written (a : BitVec 128) : Written a (text a).toList := by
  unfold text
  cases found : mapped a with
  | some v4 =>
    have below := a.isLt
    have same : a.toNat = 0xFFFF * 2 ^ 32 + v4.toNat := by
      unfold mapped at found
      split at found
      · rename_i high
        cases found
        rw [Nat.shiftRight_eq_div_pow] at high
        rw [BitVec.toNat_ofNat]
        omega
      · cases found
    simp only [String.toList_append]
    exact .mapped v4 same
  | none =>
    simp only
    split
    · rw [toList_groupsText]
      exact .full
    · rename_i many
      have colons : "::".toList = [':', ':'] := rfl
      simp only [String.toList_append, toList_groupsText, List.append_assoc, colons, List.cons_append,
        List.nil_append]
      exact .elided _ _ _ (Nat.le_of_not_lt many) (split_zerosFrom (groups a) _)

end Ipv6

namespace Reader

variable {spelling : Spelling} {rest : List Char}

/-- An address written in IPv6 is not mistaken for one of IPv4. -/
theorem octets_written {a : BitVec 128} {cs : List Char} (written : Ipv6.Written a cs) :
    octets spelling (cs ++ rest) = none := by
  have colon : ∀ {front : List Char}, '.' ∉ front → ∀ cs, octets spelling (front ++ ':' :: cs) = none :=
    fun clean cs => octets_eq_none
      (noPoint_of_append clean (noDigit_cons (by decide) cs) (ends_colon cs).noPoint)
  cases written with
  | mapped v4 _ => exact colon List.not_mem_nil (_ :: _)
  | full =>
    obtain ⟨g, g', gs, several⟩ : ∃ g g' gs, Ipv6.groups a = g :: g' :: gs := ⟨_, _, _, rfl⟩
    rw [several, Ipv6.groupsChars, Ipv6.groupsChars]
    simp only [if_true, List.nil_append, Bool.false_eq_true, if_false, List.append_assoc,
      List.cons_append]
    exact colon (Ipv6.point_not_mem_toDigits g) _
  | elided front back _ _ _ =>
    rw [List.append_assoc]
    exact colon (Ipv6.point_not_mem_groupsChars true front) _

/-- Three groups, of which the last two are an IPv4 address. -/
theorem groups_mapped (v4 : BitVec 32) (stop : NoDigit 10 rest) (limit : Nat) :
    groups spelling (limit + 3) true ("ffff:".toList ++ (Ipv4.text v4).toList ++ rest) =
      ⟨0xFFFF :: octetGroups (Ipv4.octets v4), true, rest⟩ := by
  have digits : Nat.toDigits 16 0xFFFF = ['f', 'f', 'f', 'f'] := by decide
  have word : "ffff:".toList = ['f', 'f', 'f', 'f', ':'] := rfl
  have group : "ffff:".toList ++ (Ipv4.text v4).toList ++ rest =
      [] ++ Nat.toDigits 16 0xFFFF ++ ':' :: ((Ipv4.text v4).toList ++ rest) := by
    rw [word, digits, List.append_assoc]
    simp only [List.cons_append, List.nil_append]
  have largest : 0xFFFF < 65536 := by decide
  have first : groups spelling (limit + 3) true
      ([] ++ Nat.toDigits 16 0xFFFF ++ ':' :: ((Ipv4.text v4).toList ++ rest)) = _ :=
    groups_cons largest (ends_colon _) (limit + 2) true
  rw [group, first, groups]
  simp [char, octets_text v4 stop]

theorem ofGroups_mapped {a : BitVec 128} {v4 : BitVec 32}
    (same : a.toNat = 0xFFFF * 2 ^ 32 + v4.toNat) :
    Ipv6.ofGroups (List.replicate 5 0 ++ 0xFFFF :: octetGroups (Ipv4.octets v4)) = a := by
  have below := v4.isLt
  apply BitVec.eq_of_toNat_eq
  simp only [Ipv6.ofGroups, Ipv4.octets, octetGroups, List.replicate, List.cons_append, List.nil_append,
    List.foldl_cons, List.foldl_nil, BitVec.toNat_ofNat, Nat.shiftRight_eq_div_pow]
  omega

/-- An address is read back from its text, in front of anything that does not go on with it. -/
theorem ipv6_written {a : BitVec 128} {cs : List Char} (written : Ipv6.Written a cs) (ends : Ends rest)
    (noColon : rest.head? ≠ some ':') : ipv6 spelling (cs ++ rest) = some (a, rest) := by
  have silent : ∀ limit first, groups spelling limit first rest = ⟨[], false, rest⟩ :=
    groups_of_noDigit ends.noDigit noColon
  have small : ∀ g ∈ Ipv6.groups a, g < 65536 := fun _ => Ipv6.lt_of_mem_groups
  have eight : (Ipv6.groups a).length = 8 := rfl
  cases written with
  | mapped v4 same =>
    have start : "::ffff:".toList ++ (Ipv4.text v4).toList ++ rest =
        ':' :: ':' :: ("ffff:".toList ++ (Ipv4.text v4).toList ++ rest) := rfl
    have tail : groups spelling (if spelling.emptyElision then 8 else 7) true
        ("ffff:".toList ++ (Ipv4.text v4).toList ++ rest) =
          ⟨0xFFFF :: octetGroups (Ipv4.octets v4), true, rest⟩ := by
      cases spelling.emptyElision with
      | true => exact groups_mapped v4 (noDigit_ten ends.noDigit) 5
      | false => exact groups_mapped v4 (noDigit_ten ends.noDigit) 4
    have three : (0xFFFF :: octetGroups (Ipv4.octets v4)).length = 3 := rfl
    rw [start, ipv6, groups_elision]
    simp only [List.length_nil, Nat.sub_zero, char, if_true, bind, Option.bind, tail, three,
      List.nil_append, Nat.reduceSub, Nat.reduceEqDiff, if_false, Bool.false_eq_true]
    exact congrArg (fun a => some (a, rest)) (ofGroups_mapped same)
  | full =>
    rw [ipv6, groups_chars ends silent small (Nat.le_of_eq eight) true]
    simp only [eight, if_true]
    exact congrArg (fun a => some (a, rest)) (Ipv6.ofGroups_groups a)
  | elided front back count many split =>
    have total : front.length + count + back.length = 8 := by
      rw [← eight, split, List.length_append, List.length_append, List.length_replicate]
    rw [split] at small
    have smallFront : ∀ g ∈ front, g < 65536 := fun g member => small g (by simp [member])
    have smallBack : ∀ g ∈ back, g < 65536 := fun g member => small g (by simp [member])
    have room : back.length ≤
        if spelling.emptyElision then 8 - front.length else 8 - front.length - 1 := by
      split
      · omega
      · omega
    have head : groups spelling 8 true
        (Ipv6.groupsChars true front ++ ':' :: ':' :: (Ipv6.groupsChars true back ++ rest)) = _ :=
      groups_chars (ends_colon _) (groups_elision _) smallFront (by omega) true
    have tail : groups spelling _ true (Ipv6.groupsChars true back ++ rest) = _ :=
      groups_chars ends silent smallBack room true
    have short : front.length ≠ 8 := by omega
    have elided : 8 - front.length - back.length = count := by omega
    rw [List.append_assoc, ipv6]
    simp only [List.cons_append, head, short, if_false, Bool.false_eq_true, char, if_true, bind,
      Option.bind, tail, elided]
    rw [← split]
    exact congrArg (fun a => some (a, rest)) (Ipv6.ofGroups_groups a)

end Reader

/-! ### Ranges -/

namespace Cidr

open Reader

theorem index?_val {bound : Nat} (n : Fin bound) : index? bound n.val = some n := dif_pos n.isLt

/-- A length at the end of a text. -/
theorem number_length {width bound n : Nat} (below : n < bound) (short : n < 10 ^ width)
    (wide : 0 < width) : number 10 width bound true (toString n).toList = some (n, []) := by
  have stop : NoDigit 10 [] := by
    intro c impossible
    cases impossible
  have digits := number_toDigits (.inl rfl) below short wide true stop
  rw [List.append_nil] at digits
  rw [Nat.toString_eq_repr, Nat.toList_repr, digits]

theorem toList_slash (address : String) (n : Nat) :
    (address ++ "/" ++ toString n).toList = address.toList ++ '/' :: (toString n).toList := by
  simp

theorem ends_slash (cs : List Char) : Ends ('/' :: cs) := ⟨noDigit_cons (by decide) cs, by simp⟩

theorem readIpv4_text (a : BitVec 32) (n : Fin 33) : readIpv4 (v4 a n).text.toList = some (v4 a n, []) := by
  have short : n.val < 10 ^ 2 := by omega
  have address : ipv4 .lenient ((Ipv4.text a).toList ++ '/' :: (toString n.val).toList) = _ :=
    ipv4_text a (noDigit_ten (ends_slash _).noDigit)
  have length := number_length n.isLt short (by decide)
  rw [text, toList_slash, readIpv4]
  simp only [address, char, if_true, length, index?_val, bind, Option.bind]
  rfl

theorem readIpv4_text_v6 (a : BitVec 128) (n : Fin 129) : readIpv4 (v6 a n).text.toList = none := by
  rw [text, toList_slash, readIpv4, ipv4, octets_written (Ipv6.written a)]
  rfl

theorem readIpv6_text (a : BitVec 128) (n : Fin 129) :
    readIpv6 (v6 a n).text.toList = some (v6 a n, []) := by
  have short : n.val < 10 ^ 3 := by omega
  have address : ipv6 .lenient ((Ipv6.text a).toList ++ '/' :: (toString n.val).toList) = _ :=
    ipv6_written (Ipv6.written a) (ends_slash _) (by simp)
  have length := number_length n.isLt short (by decide)
  rw [text, toList_slash, readIpv6]
  simp only [address, char, if_true, length, index?_val, bind, Option.bind]
  rfl

theorem whole_text (range : Cidr) :
    whole ((readIpv4 range.text.toList).or (readIpv6 range.text.toList)) = some range := by
  cases range with
  | v4 a n =>
    rw [readIpv4_text]
    rfl
  | v6 a n =>
    rw [readIpv4_text_v6, readIpv6_text]
    rfl

/-- A range is read back from its text. -/
theorem read?_text (range : Cidr) : read? range.text = some range := by
  unfold read?
  rw [whole_text]

theorem text_injective {a b : Cidr} (same : a.text = b.text) : a = b := by
  have read := congrArg read? same
  rw [read?_text, read?_text] at read
  exact Option.some.inj read

/-! ### White space -/

/-- The characters of range texts. -/
def alphabet : List Char := "0123456789abcdef.:/".toList

theorem toDigits_subset {base : Nat} (two : 1 < base) (sixteen : base ≤ 16) (n : Nat) :
    Nat.toDigits base n ⊆ alphabet := by
  intro c member
  have known : ∀ d : Fin 16, Nat.digitChar d ∈ alphabet := by decide
  obtain ⟨d, small, same⟩ := mem_toDigits two member
  rw [← same]
  exact known ⟨d, by omega⟩

theorem ipv4_subset (a : BitVec 32) : (Ipv4.text a).toList ⊆ alphabet := by
  have digits := toDigits_subset (by decide : 1 < 10) (by decide)
  have point : '.' ∈ alphabet := by decide
  obtain ⟨b, c, d, e, _, text⟩ := Ipv4.toList_text a
  rw [text]
  simp only [List.append_subset, List.cons_subset]
  exact ⟨digits b, point, digits c, point, digits d, point, digits e⟩

theorem groupsChars_subset (first : Bool) (gs : List Nat) : Ipv6.groupsChars first gs ⊆ alphabet := by
  intro c member
  rcases Ipv6.mem_groupsChars member with rfl | ⟨g, _, digit⟩
  · decide
  · exact toDigits_subset (by decide) (by decide) g digit

theorem written_subset {a : BitVec 128} {cs : List Char} (written : Ipv6.Written a cs) :
    cs ⊆ alphabet := by
  have colon : ':' ∈ alphabet := by decide
  cases written with
  | mapped v4 _ => exact List.append_subset.mpr ⟨by decide, ipv4_subset v4⟩
  | full => exact groupsChars_subset true _
  | elided front back =>
    simp only [List.append_subset, List.cons_subset]
    exact ⟨groupsChars_subset true front, colon, colon, groupsChars_subset true back⟩

theorem text_subset (range : Cidr) : range.text.toList ⊆ alphabet := by
  have slash : '/' ∈ alphabet := by decide
  have length : ∀ n : Nat, (toString n).toList ⊆ alphabet := by
    intro n
    rw [Nat.toString_eq_repr, Nat.toList_repr]
    exact toDigits_subset (by decide) (by decide) n
  cases range with
  | v4 a n =>
    rw [text, toList_slash, List.append_subset, List.cons_subset]
    exact ⟨ipv4_subset a, slash, length n.val⟩
  | v6 a n =>
    rw [text, toList_slash, List.append_subset, List.cons_subset]
    exact ⟨written_subset (Ipv6.written a), slash, length n.val⟩

theorem isBlank_of_subset {cs : List Char} (known : cs ⊆ alphabet) :
    ∀ c ∈ cs, Text.isBlank c = false := by
  have clean : alphabet.all (fun c => !Text.isBlank c) = true := by decide
  exact fun c member => (Bool.not_eq_true' _).mp (List.all_eq_true.mp clean c (known member))

theorem ofText_eq_ok_iff {s : String} {range : Cidr} :
    ofText s = .ok range ↔ read? (String.ofList (Text.trim s.toList)) = some range := by
  unfold ofText
  simp only
  cases read? (String.ofList (Text.trim s.toList)) with
  | some other => rw [Except.ok.injEq, Option.some.injEq]
  | none =>
    constructor
    · intro impossible
      cases impossible
    · intro impossible
      cases impossible

theorem trim_known {before text after : String} (left : ∀ c ∈ before.toList, Text.isBlank c = true)
    (known : text.toList ⊆ alphabet) (right : ∀ c ∈ after.toList, Text.isBlank c = true) :
    String.ofList (Text.trim (before ++ text ++ after).toList) = text := by
  rw [String.toList_append, String.toList_append, Text.trim_surrounded left (isBlank_of_subset known) right,
    String.ofList_toList]

/-- A range is read back from its text with any white space around it. -/
theorem ofText_surrounded (range : Cidr) {before after : String}
    (left : ∀ c ∈ before.toList, Text.isBlank c = true)
    (right : ∀ c ∈ after.toList, Text.isBlank c = true) :
    ofText (before ++ range.text ++ after) = .ok range := by
  rw [ofText_eq_ok_iff, trim_known left (text_subset range) right, read?_text]

/-- Nothing is taken off the text of a range before it is read. -/
theorem ofText_text (range : Cidr) : ofText range.text = .ok range := by
  have none : ∀ c ∈ "".toList, Text.isBlank c = true := by simp
  have read := ofText_surrounded range none none
  rwa [String.empty_append, String.append_empty] at read

end Cidr

end Perimeter
