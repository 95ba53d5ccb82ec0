/-
**IP addresses, as Python's `ipaddress` reads and classifies them.**

An address is the 32 or 128 bits it stands for. The predicates are the properties of `IPv4Address`
and `IPv6Address` that the program asks for; an IPv6 address that maps an IPv4 one has the
properties of the mapped address. `IpAddress.str` is `str(ip)`.
-/

import Mathlib.Logic.Basic

namespace Certinspect

/-- An `IPv4Address` or `IPv6Address`. -/
inductive IpAddress
  | v4 (bits : BitVec 32)
  | v6 (bits : BitVec 128)
  deriving DecidableEq, Repr

namespace IpAddress

/-- Whether the first `length` bits are those of the network. -/
def inNetwork {width : Nat} (bits network : BitVec width) (length : Nat) : Bool :=
  bits >>> (width - length) == network >>> (width - length)

/-! ### The properties of an IPv4 address -/

def isLoopback4 (bits : BitVec 32) : Bool := inNetwork bits 0x7f000000#32 8

def isLinkLocal4 (bits : BitVec 32) : Bool := inNetwork bits 0xa9fe0000#32 16

def isUnspecified4 (bits : BitVec 32) : Bool := bits == 0#32

def isMulticast4 (bits : BitVec 32) : Bool := inNetwork bits 0xe0000000#32 4

def isReserved4 (bits : BitVec 32) : Bool := inNetwork bits 0xf0000000#32 4

/-! ### The properties of an IPv6 address -/

/-- `ipv4_mapped`: the low 32 bits of `::ffff:0:0/96`. -/
def ipv4Mapped (bits : BitVec 128) : Option (BitVec 32) :=
  if bits >>> 32 = 0xffff#128 then some (bits.truncate 32) else none

/-- The networks reserved by the IETF: the leading 16 bits and the prefix length. -/
def reservedNetworks : List (Nat × Nat) :=
  [(0x0000, 8), (0x0100, 8), (0x0200, 7), (0x0400, 6), (0x0800, 5), (0x1000, 4), (0x4000, 3),
    (0x6000, 3), (0x8000, 3), (0xa000, 3), (0xc000, 3), (0xe000, 4), (0xf000, 5), (0xf800, 6),
    (0xfe00, 9)]

def isReserved6 (bits : BitVec 128) : Bool :=
  reservedNetworks.any fun network =>
    inNetwork bits (BitVec.ofNat 128 network.1 <<< 112) network.2

/-- A property of the mapped address where there is one, else of the IPv6 address itself. -/
def mappedOr (four : BitVec 32 → Bool) (six : BitVec 128 → Bool) : IpAddress → Bool
  | .v4 bits => four bits
  | .v6 bits => match ipv4Mapped bits with
    | some mapped => four mapped
    | none => six bits

def isLoopback : IpAddress → Bool := mappedOr isLoopback4 (· == 1#128)

def isLinkLocal : IpAddress → Bool :=
  mappedOr isLinkLocal4 fun bits => inNetwork bits (0xfe80#128 <<< 112) 10

def isUnspecified : IpAddress → Bool := mappedOr isUnspecified4 (· == 0#128)

def isMulticast : IpAddress → Bool :=
  mappedOr isMulticast4 fun bits => inNetwork bits (0xff00#128 <<< 112) 8

def isReserved : IpAddress → Bool := mappedOr isReserved4 isReserved6

/-! ### The text of an address -/

/-- The dotted form of an IPv4 address. -/
def dotted (bits : BitVec 32) : String :=
  ".".intercalate ([24, 16, 8, 0].map fun shift => toString ((bits >>> shift).toNat % 256))

/-- A 16-bit group in hexadecimal, without leading zeros. -/
def hextet (group : Nat) : String := String.ofList (Nat.toDigits 16 group)

/-- The eight 16-bit groups of an IPv6 address. -/
def hextets (bits : BitVec 128) : List Nat :=
  [112, 96, 80, 64, 48, 32, 16, 0].map fun shift => (bits >>> shift).toNat % 65536

/-- The first longest run of zero groups, as (start, length); `(0, 0)` when there is none. -/
def longestZeroRun (groups : List Nat) : Nat × Nat :=
  let runs := (List.range groups.length).map fun start =>
    (start, ((groups.drop start).takeWhile (· == 0)).length)
  runs.foldl (fun best run => if best.2 < run.2 then run else best) (0, 0)

/-- The colon form of an IPv6 address; a run of at least two zero groups becomes `::`. -/
def colons (bits : BitVec 128) : String :=
  let groups := hextets bits
  let run := longestZeroRun groups
  if run.2 ≤ 1 then ":".intercalate (groups.map hextet)
  else ":".intercalate ((groups.take run.1).map hextet) ++ "::" ++
    ":".intercalate ((groups.drop (run.1 + run.2)).map hextet)

/-- `str(ip)`. -/
def str : IpAddress → String
  | .v4 bits => dotted bits
  | .v6 bits => match ipv4Mapped bits with
    | some mapped => colons (bits >>> 32) ++ ":" ++ dotted mapped
    | none => colons bits

/-- The class of the address object. -/
def className : IpAddress → String
  | .v4 _ => "IPv4Address"
  | .v6 _ => "IPv6Address"

end IpAddress

end Certinspect
