import Perimeter.Ascending
import Perimeter.Error
import Perimeter.Net.Reader
import Perimeter.Text.Blank

/-!
Address ranges: an address and the number of its leading bits that all members share. The bits
after the shared ones are kept in text, order and equality, and ignored by membership.
-/

namespace Perimeter

/-- A range of addresses of one family. -/
inductive Cidr where
  | v4 (address : BitVec 32) (length : Fin 33)
  | v6 (address : BitVec 128) (length : Fin 129)
deriving DecidableEq, Repr

namespace Cidr

/-- The family of a range. -/
def family : Cidr → Family
  | v4 .. => .ipv4
  | v6 .. => .ipv6

/-- All IPv4 addresses. -/
def anyIpv4 : Cidr := v4 0 0

/-- All IPv6 addresses. -/
def anyIpv6 : Cidr := v6 0 0

/-- The range of a single address. -/
def host : Address → Cidr
  | .v4 a => v4 a 32
  | .v6 a => v6 a 128

/-- Whether an address agrees with the range on the shared bits; never one of the other family. -/
def contains : Cidr → Address → Bool
  | v4 a n, .v4 b => a >>> (32 - n.val) == b >>> (32 - n.val)
  | v6 a n, .v6 b => a >>> (128 - n.val) == b >>> (128 - n.val)
  | _, _ => false

/-- The text of a range. -/
def text : Cidr → String
  | v4 a n => Ipv4.text a ++ "/" ++ toString n.val
  | v6 a n => Ipv6.text a ++ "/" ++ toString n.val

/-- IPv4 before IPv6, then by address, then by length. -/
def rank : Cidr → Nat
  | v4 a n => a.toNat * 256 + n.val
  | v6 a n => 0x10000000000 + a.toNat * 256 + n.val

theorem rank_injective {a b : Cidr} (same : a.rank = b.rank) : a = b := by
  cases a with
  | v4 a n =>
    cases b with
    | v4 b m =>
      simp only [rank] at same
      have := n.isLt
      have := m.isLt
      have bits : a = b := BitVec.eq_of_toNat_eq (by omega)
      have length : n = m := Fin.ext (by omega)
      rw [bits, length]
    | v6 b m =>
      simp only [rank] at same
      have := n.isLt
      have := a.isLt
      omega
  | v6 a n =>
    cases b with
    | v4 b m =>
      simp only [rank] at same
      have := m.isLt
      have := b.isLt
      omega
    | v6 b m =>
      simp only [rank] at same
      have := n.isLt
      have := m.isLt
      have bits : a = b := BitVec.eq_of_toNat_eq (by omega)
      have length : n = m := Fin.ext (by omega)
      rw [bits, length]

instance : Ranked Cidr := ⟨rank, rank_injective⟩

/-- A number below a bound, as a finite index. -/
def index? (bound n : Nat) : Option (Fin bound) :=
  if h : n < bound then some ⟨n, h⟩ else none

/-- An IPv4 address, a slash and a length of one or two digits. -/
def readIpv4 (cs : List Char) : Option (Cidr × List Char) := do
  let (a, cs) ← Reader.ipv4 .lenient cs
  let cs ← Reader.char '/' cs
  let (n, cs) ← Reader.number 10 2 33 true cs
  let n ← index? 33 n
  return (v4 a n, cs)

/-- An IPv6 address, a slash and a length of one to three digits. -/
def readIpv6 (cs : List Char) : Option (Cidr × List Char) := do
  let (a, cs) ← Reader.ipv6 .lenient cs
  let cs ← Reader.char '/' cs
  let (n, cs) ← Reader.number 10 3 129 true cs
  let n ← index? 129 n
  return (v6 a n, cs)

/-- The range that a text without outer white space stands for: an address with a length, or an
address on its own for the range of that address alone. -/
def read? (s : String) : Option Cidr :=
  match Reader.whole ((readIpv4 s.toList).or (readIpv6 s.toList)) with
  | some range => some range
  | none => (Address.ofText? s).map host

/-- The failure to read a range; the text is shown without outer white space. -/
def malformed (trimmed : String) : Error :=
  .validation ("not a valid CIDR or IP address: " ++ trimmed) none

/-- The failure to read a range of the wanted family; the text is shown as it was given. -/
def wrongFamily (s : String) (found wanted : Family) : Error :=
  .validation ("'" ++ s ++ "' is an " ++ found.label ++ " range where an " ++ wanted.label ++
    " range was expected") none

/-- The range that a text stands for; white space around it is ignored. -/
def ofText (s : String) : Except Error Cidr :=
  let trimmed := String.ofList (Text.trim s.toList)
  match read? trimmed with
  | some range => .ok range
  | none => .error (malformed trimmed)

/-- The range of the wanted family that a text stands for. -/
def ofTextAs (wanted : Family) (s : String) : Except Error Cidr := do
  let range ← ofText s
  if range.family = wanted then .ok range
  else .error (wrongFamily s range.family wanted)

end Cidr

end Perimeter
