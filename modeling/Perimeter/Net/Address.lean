/-!
Internet addresses of both families, their octets and groups, and the texts they are written in.
The text of an IPv6 address leaves out the longest run of zero groups, the first of them on a tie,
if it has at least two groups; an IPv4 address mapped into IPv6 ends in dotted form.
-/

namespace Perimeter

/-- The two families of internet addresses. -/
inductive Family where
  | ipv4
  | ipv6
deriving DecidableEq, Repr

/-- The word for a family in settings, plans and error texts. -/
def Family.label : Family → String
  | ipv4 => "IPV4"
  | ipv6 => "IPV6"

/-- An internet address. -/
inductive Address where
  | v4 (bits : BitVec 32)
  | v6 (bits : BitVec 128)
deriving DecidableEq, Repr

namespace Ipv4

/-- The address with the given four octets, the first one highest. -/
def ofOctets (octets : List Nat) : BitVec 32 :=
  BitVec.ofNat 32 (octets.foldl (fun n octet => n * 256 + octet) 0)

/-- The four octets of an address, the highest one first. -/
def octets (a : BitVec 32) : List Nat :=
  [a.toNat >>> 24 % 256, a.toNat >>> 16 % 256, a.toNat >>> 8 % 256, a.toNat % 256]

/-- The dotted form of an address. -/
def text (a : BitVec 32) : String :=
  ".".intercalate ((octets a).map fun octet => toString octet)

end Ipv4

namespace Ipv6

/-- The address with the given eight groups of 16 bits, the first one highest. -/
def ofGroups (groups : List Nat) : BitVec 128 :=
  BitVec.ofNat 128 (groups.foldl (fun n group => n * 65536 + group) 0)

/-- The eight groups of an address, the highest one first. -/
def groups (a : BitVec 128) : List Nat :=
  [a.toNat >>> 112 % 65536, a.toNat >>> 96 % 65536, a.toNat >>> 80 % 65536,
    a.toNat >>> 64 % 65536, a.toNat >>> 48 % 65536, a.toNat >>> 32 % 65536,
    a.toNat >>> 16 % 65536, a.toNat % 65536]

/-- The number of zero groups in a row from a position on. -/
def zerosFrom (gs : List Nat) (start : Nat) : Nat :=
  ((gs.drop start).takeWhile (· == 0)).length

/-- The position of the longest run of zero groups, the first one on a tie. -/
def longestRun (gs : List Nat) : Nat :=
  (List.range gs.length).foldl
    (fun best start => if zerosFrom gs best < zerosFrom gs start then start else best) 0

/-- Groups in hexadecimal, with colons between them. -/
def groupsText (gs : List Nat) : String :=
  ":".intercalate (gs.map fun group => String.ofList (Nat.toDigits 16 group))

/-- The IPv4 address that an address maps into IPv6, if it is of that form. -/
def mapped (a : BitVec 128) : Option (BitVec 32) :=
  if a.toNat >>> 32 = 0xFFFF then some (BitVec.ofNat 32 a.toNat) else none

/-- The text of an address. -/
def text (a : BitVec 128) : String :=
  match mapped a with
  | some v4 => "::ffff:" ++ Ipv4.text v4
  | none =>
    let gs := groups a
    let start := longestRun gs
    let length := zerosFrom gs start
    if length < 2 then groupsText gs
    else groupsText (gs.take start) ++ "::" ++ groupsText (gs.drop (start + length))

end Ipv6

namespace Address

/-- The family of an address. -/
def family : Address → Family
  | v4 _ => .ipv4
  | v6 _ => .ipv6

/-- The text of an address. -/
def text : Address → String
  | v4 a => Ipv4.text a
  | v6 a => Ipv6.text a

end Address

end Perimeter
