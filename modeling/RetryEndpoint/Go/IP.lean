import RetryEndpoint.Go.Bytes

/-!
# IP addresses

The predicates of Go's `net.IP`.

## The model

A `net.IP` is a byte string. An IPv4 address has a form of 4 bytes and one of 16 bytes, and the
predicates do not tell these apart: `to4` finds the 4 bytes in either, and `ipEqual` compares the
16-byte forms. An address of any other length is neither IPv4 nor IPv6.

## What is proved

* `isGlobalUnicast_iff` — what a global unicast address is, one by one.
-/

namespace RetryEndpoint.Go

/-- `net.IPv4`, in its 16-byte form. -/
def ipv4 (a b c d : UInt8) : Bytes := List.replicate 10 0 ++ [0xff, 0xff] ++ [a, b, c, d]

/-- `net.IPv6unspecified`. -/
def ipv6unspecified : Bytes := List.replicate 16 0

/-- `net.IPv6loopback`. -/
def ipv6loopback : Bytes := List.replicate 15 0 ++ [1]

/-- `ip.To4()`. -/
def to4 (ip : Bytes) : Option Bytes :=
  if ip.length = 4 then some ip
  else if ip.length = 16 ∧ ip.take 10 = List.replicate 10 0 ∧ (ip.drop 10).take 2 = [0xff, 0xff] then some (ip.drop 12)
  else none

/-- `ip.Equal(x)`. -/
def ipEqual (ip x : Bytes) : Bool := ip16 ip = ip16 x

/-- `ip.IsUnspecified()`. -/
def isUnspecified (ip : Bytes) : Bool := ipEqual ip (ipv4 0 0 0 0) || ipEqual ip ipv6unspecified

/-- `ip.IsLoopback()`. -/
def isLoopback (ip : Bytes) : Bool :=
  match to4 ip with
  | some ip4 => ip4.getD 0 0 = 127
  | none => ipEqual ip ipv6loopback

/-- `ip.IsMulticast()`. -/
def isMulticast (ip : Bytes) : Bool :=
  match to4 ip with
  | some ip4 => ip4.getD 0 0 &&& 0xf0 = 0xe0
  | none => ip.length = 16 && ip.getD 0 0 = 0xff

/-- `ip.IsLinkLocalUnicast()`. -/
def isLinkLocalUnicast (ip : Bytes) : Bool :=
  match to4 ip with
  | some ip4 => ip4.getD 0 0 = 169 && ip4.getD 1 0 = 254
  | none => ip.length = 16 && ip.getD 0 0 = 0xfe && ip.getD 1 0 &&& 0xc0 = 0x80

/-- `ip.IsGlobalUnicast()`. -/
def isGlobalUnicast (ip : Bytes) : Bool :=
  (ip.length = 4 || ip.length = 16) && !ipEqual ip (ipv4 255 255 255 255) && !isUnspecified ip && !isLoopback ip &&
    !isMulticast ip && !isLinkLocalUnicast ip

/-- A global unicast address, case by case. -/
theorem isGlobalUnicast_iff {ip : Bytes} :
    isGlobalUnicast ip = true ↔
      (ip.length = 4 ∨ ip.length = 16) ∧ ipEqual ip (ipv4 255 255 255 255) = false ∧ isUnspecified ip = false ∧
        isLoopback ip = false ∧ isMulticast ip = false ∧ isLinkLocalUnicast ip = false := by
  simp only [isGlobalUnicast, Bool.and_eq_true, Bool.or_eq_true, Bool.not_eq_true', decide_eq_true_eq, and_assoc]

end RetryEndpoint.Go
