import SubscriptionGateway.Number.Decimal
import SubscriptionGateway.Text.Quoted

/-! Addresses to listen on. An IPv4 address is four decimal numbers without leading zeros; an IPv6
address stands in brackets, has eight groups of hexadecimal digits, one run of which may be left out
as two colons, and may end in an IPv4 address. Names are not resolved. -/
namespace SubscriptionGateway

inductive IpAddress where
  | v4 (octets : List Nat)
  | v6 (groups : List Nat)
deriving DecidableEq, Repr

structure SocketAddress where
  ip : IpAddress
  port : Nat
deriving DecidableEq, Repr

namespace IpAddress

/-- The value of a digit in the given base, if it is one. -/
def digit? (base : Nat) (c : Char) : Option Nat :=
  let value? :=
    if '0' ≤ c ∧ c ≤ '9' then some (c.toNat - '0'.toNat)
    else if 'a' ≤ c ∧ c ≤ 'f' then some (c.toNat - 'a'.toNat + 10)
    else if 'A' ≤ c ∧ c ≤ 'F' then some (c.toNat - 'A'.toNat + 10)
    else none
  value?.filter (· < base)

/-- The value of the digits in front, and what follows them. -/
def readDigits (base : Nat) : List Char → Nat × List Char × List Char
  | [] => (0, [], [])
  | cs =>
    let digits := cs.takeWhile fun c => (digit? base c).isSome
    let value := digits.foldl (fun value c => value * base + (digit? base c).getD 0) 0
    (value, digits, cs.drop digits.length)

/-- An octet: at most three digits, no leading zero, below 256. -/
def readOctet? (cs : List Char) : Option (Nat × List Char) :=
  let (value, digits, rest) := readDigits 10 cs
  let padded := digits.length != 1 && digits.head? == some '0'
  if digits.isEmpty || padded || 255 < value then none else some (value, rest)

/-- So many octets, with a point in front of each but the first. -/
def readOctets? : (count : Nat) → (isFirst : Bool) → List Char → Option (List Nat × List Char)
  | 0, _, cs => some ([], cs)
  | count + 1, isFirst, cs =>
    let start := match isFirst, cs with
      | true, _ => some cs
      | false, '.' :: rest => some rest
      | false, _ => none
    start.bind fun cs =>
      (readOctet? cs).bind fun (octet, rest) =>
        (readOctets? count false rest).map fun (octets, rest) => (octet :: octets, rest)

def readV4? (cs : List Char) : Option (List Nat × List Char) := readOctets? 4 true cs

/-- A group: one to four hexadecimal digits. -/
def readGroup? (cs : List Char) : Option (Nat × List Char) :=
  let (value, digits, rest) := readDigits 16 cs
  if digits.isEmpty || 4 < digits.length then none else some (value, rest)

/-- The two groups that an IPv4 address stands for. -/
def groupsOfOctets : List Nat → List Nat
  | [a, b, c, d] => [a * 256 + b, c * 256 + d]
  | _ => []

/-- What was read of the groups of an IPv6 address, and whether they end in an IPv4 address. -/
structure GroupRun where
  groups : List Nat
  endsInV4 : Bool
  rest : List Char

/-- Up to so many groups, with a colon in front of each but the first. -/
def readGroups : (room : Nat) → (isFirst : Bool) → List Char → GroupRun
  | 0, _, cs => ⟨[], false, cs⟩
  | room + 1, isFirst, cs =>
    let start := match isFirst, cs with
      | true, _ => some cs
      | false, ':' :: rest => some rest
      | false, _ => none
    match start with
    | none => ⟨[], false, cs⟩
    | some after =>
      match if room = 0 then none else readV4? after with
      | some (octets, rest) => ⟨groupsOfOctets octets, true, rest⟩
      | none =>
        match readGroup? after with
        | none => ⟨[], false, cs⟩
        | some (group, rest) =>
          let run := readGroups room false rest
          { run with groups := group :: run.groups }

def readV6? (cs : List Char) : Option (List Nat × List Char) :=
  let front := readGroups 8 true cs
  if front.groups.length = 8 then some (front.groups, front.rest)
  else if front.endsInV4 then none
  else
    match front.rest with
    | ':' :: ':' :: rest =>
      let back := readGroups (7 - front.groups.length) true rest
      let missing := 8 - front.groups.length - back.groups.length
      some (front.groups ++ List.replicate missing 0 ++ back.groups, back.rest)
    | _ => none

def hexText (n : Nat) : String := String.ofList (Nat.toDigits 16 n)

def v4Text (octets : List Nat) : String := ".".intercalate (octets.map toString)

/-- The position and length of the first of the longest runs of zeros. -/
def longestZeros (groups : List Nat) : Nat × Nat :=
  (List.range groups.length).foldl (fun best start =>
    let length := ((groups.drop start).takeWhile (· == 0)).length
    if best.2 < length then (start, length) else best) (0, 0)

def v6Text (groups : List Nat) : String :=
  let joined (part : List Nat) := ":".intercalate (part.map hexText)
  match groups with
  | [0, 0, 0, 0, 0, 0xffff, high, low] =>
    "::ffff:" ++ v4Text [high / 256, high % 256, low / 256, low % 256]
  | _ =>
    let (start, length) := longestZeros groups
    if length < 2 then joined groups
    else joined (groups.take start) ++ "::" ++ joined (groups.drop (start + length))

def text : IpAddress → String
  | .v4 octets => v4Text octets
  | .v6 groups => v6Text groups

end IpAddress

namespace SocketAddress

/-- A port at the end of an address. -/
def readPort? : List Char → Option Nat
  | ':' :: cs =>
    let (value, digits, rest) := IpAddress.readDigits 10 cs
    if digits.isEmpty || !rest.isEmpty || 65535 < value then none else some value
  | _ => none

/-- The zone of an IPv6 address, which is a number, if there is one. -/
def skipZone? : List Char → Option (List Char)
  | '%' :: cs =>
    let (value, digits, rest) := IpAddress.readDigits 10 cs
    if digits.isEmpty || UInt32.size ≤ value then none else some rest
  | cs => some cs

/-- An address and a port. -/
def parse? (text : String) : Option SocketAddress :=
  match text.toList with
  | '[' :: cs => do
    let (groups, rest) ← IpAddress.readV6? cs
    match ← skipZone? rest with
    | ']' :: rest => return ⟨.v6 groups, ← readPort? rest⟩
    | _ => none
  | cs => do
    let (octets, rest) ← IpAddress.readV4? cs
    return ⟨.v4 octets, ← readPort? rest⟩

example : parse? "127.0.0.1:0" = some ⟨.v4 [127, 0, 0, 1], 0⟩ := by decide +kernel
example : parse? "127.0.0.01:0" = none := by decide +kernel
example : (parse? "[2001:DB8::1]:80").map (fun a => a.ip.text) = some "2001:db8::1" := by
  decide +kernel
example : parse? "::1:0" = none := by decide +kernel

end SocketAddress

/-- Why a server cannot listen. -/
inductive ListenError where
  | badAddress (address : String)
deriving DecidableEq, Repr

def ListenError.message : ListenError → String
  | .badAddress address =>
    "invalid listen address " ++ Text.quoted address ++ ": invalid socket address syntax"

end SubscriptionGateway
