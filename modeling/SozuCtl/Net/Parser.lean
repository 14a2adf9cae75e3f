import SozuCtl.Net.Addr

/-! The standard library's socket-address parser (`core::net::parser`), over the bytes of the
string. A parser returns what it read and the bytes after it, or `none` when it fails; a failed
parser leaves no state behind, which is what `read_atomically` ensures in the source. -/
namespace SozuCtl

/-- A parser over the bytes left to read. -/
abbrev Parser (α : Type) := List UInt8 → Option (α × List UInt8)

/-- `AddrParseError(AddrKind::Socket)`, the error `SocketAddr::from_str` raises. -/
inductive AddrParseError
  | socket
  deriving DecidableEq

/-- `read_given_char`. -/
def readGivenChar (target : Char) : Parser Unit
  | b :: rest => if b.toNat = target.toNat then some ((), rest) else none
  | [] => none

/-- `read_separator`: `sep` before every item but the first, then the item. -/
def readSeparator {α : Type} (sep : Char) (index : Nat) (inner : Parser α) : Parser α :=
  fun s => if 0 < index then (readGivenChar sep s).bind fun r => inner r.2 else inner s

/-- Whether `count` digits are more than `maxDigits` allows. -/
def tooManyDigits : Option Nat → Nat → Bool
  | some maxDigits, count => maxDigits < count
  | none, _ => false

/-- The loop of `read_number`: the result and the digit count so far, in an unsigned integer of
`bits` bits with checked multiply and add. -/
def readDigits (bits radix : Nat) (maxDigits : Option Nat) : Nat → Nat → Parser (Nat × Nat)
  | result, digitCount, [] => some ((result, digitCount), [])
  | result, digitCount, b :: rest =>
    match toDigit radix b.toNat with
    | none => some ((result, digitCount), b :: rest)
    | some digit =>
      if result * radix < 2 ^ bits ∧ result * radix + digit < 2 ^ bits then
        if tooManyDigits maxDigits (digitCount + 1) then none
        else readDigits bits radix maxDigits (result * radix + digit) (digitCount + 1) rest
      else none

/-- `read_number`: at least one digit, and no leading zero unless `allowZeroPrefix`. -/
def readNumber (bits radix : Nat) (maxDigits : Option Nat) (allowZeroPrefix : Bool) :
    Parser Nat := fun s =>
  let hasLeadingZero := s.head?.map UInt8.toNat = some 48
  match readDigits bits radix maxDigits 0 0 s with
  | some ((result, digitCount), rest) =>
    if digitCount = 0 then none
    else if allowZeroPrefix = false ∧ hasLeadingZero ∧ 1 < digitCount then none
    else some (result, rest)
  | none => none

/-- The loop of `read_ipv4_addr` from slot `i`, with `n` slots left: decimal octets of at most
three digits, no leading zero. -/
def readIpv4Groups : Nat → Nat → Parser (List Nat)
  | _, 0 => fun s => some ([], s)
  | i, n + 1 => fun s => do
    let (g, s) ← readSeparator '.' i (readNumber 8 10 (some 3) false) s
    let (gs, s) ← readIpv4Groups (i + 1) n s
    pure (g :: gs, s)

/-- `read_ipv4_addr`. -/
def readIpv4Addr : Parser Ipv4Addr := fun s => do
  let (groups, s) ← readIpv4Groups 0 4 s
  pure (Ipv4Addr.ofArray groups, s)

/-- `u16::from_be_bytes` over the octets, two at a time. -/
def Ipv4Addr.beGroups (a : Ipv4Addr) : List Nat :=
  let o := a.octets.map UInt8.toNat
  [o.getD 0 0 * 256 + o.getD 1 0, o.getD 2 0 * 256 + o.getD 3 0]

/-- `read_groups` over the slots from `i` to `limit`, `n` of them: the count of slots filled,
whether an embedded IPv4 address filled the last two, and the groups read. It cannot fail: it
stops at the first slot it cannot fill. -/
def readGroups (limit : Nat) :
    Nat → Nat → List UInt8 → (Nat × Bool × List Nat) × List UInt8
  | i, 0, s => ((i, false, []), s)
  | i, n + 1, s =>
    match (if i < limit - 1 then readSeparator ':' i readIpv4Addr s else none) with
    | some (ipv4, s') => ((i + 2, true, ipv4.beGroups), s')
    | none =>
      match readSeparator ':' i (readNumber 16 16 (some 4) true) s with
      | some (g, s') =>
        let ((count, ipv4, gs), s'') := readGroups limit (i + 1) n s'
        ((count, ipv4, g :: gs), s'')
      | none => ((i, false, []), s)

/-- `read_ipv6_addr`: the groups before `::`, then those after it, written into the zeroed
array from its end. -/
def readIpv6Addr : Parser Ipv6Addr := fun s =>
  let ((headSize, headIpv4, headGroups), s) := readGroups 8 0 8 s
  let head := headGroups ++ List.replicate (8 - headGroups.length) 0
  if headSize = 8 then some (Ipv6Addr.ofArray head, s)
  else if headIpv4 then none
  else do
    let ((), s) ← readGivenChar ':' s
    let ((), s) ← readGivenChar ':' s
    let limit := 8 - (headSize + 1)
    let ((tailSize, _, tail), s) := readGroups limit 0 limit s
    pure (Ipv6Addr.ofArray (head.take (8 - tailSize) ++ tail.take tailSize), s)

/-- `read_port`: `:` and a decimal `u16`. -/
def readPort : Parser Nat := fun s => do
  let ((), s) ← readGivenChar ':' s
  readNumber 16 10 none true s

/-- `read_scope_id`: `%` and a decimal `u32`. -/
def readScopeId : Parser Nat := fun s => do
  let ((), s) ← readGivenChar '%' s
  readNumber 32 10 none true s

/-- `read_socket_addr_v4`. -/
def readSocketAddrV4 : Parser SocketAddrV4 := fun s => do
  let (ip, s) ← readIpv4Addr s
  let (port, s) ← readPort s
  pure (⟨ip, port.toUInt16⟩, s)

/-- `read_socket_addr_v6`: the flow label of a parsed address is zero. -/
def readSocketAddrV6 : Parser SocketAddrV6 := fun s => do
  let ((), s) ← readGivenChar '[' s
  let (ip, s) ← readIpv6Addr s
  let (scopeId, s) := (readScopeId s).getD (0, s)
  let ((), s) ← readGivenChar ']' s
  let (port, s) ← readPort s
  pure (⟨ip, port.toUInt16, 0, scopeId.toUInt32⟩, s)

/-- `read_socket_addr`: IPv4 first, then IPv6. -/
def readSocketAddr : Parser SocketAddr := fun s =>
  match readSocketAddrV4 s with
  | some (a, s) => some (.v4 a, s)
  | none => (readSocketAddrV6 s).map fun r => (.v6 r.1, r.2)

/-- `parse_with`: the parser must read every byte. -/
def parseWith {α : Type} (p : Parser α) (s : List UInt8) : Except AddrParseError α :=
  match p s with
  | some (a, []) => .ok a
  | _ => .error .socket

/-- `SocketAddr::from_str`. -/
def SocketAddr.fromStr (s : String) : Except AddrParseError SocketAddr :=
  parseWith readSocketAddr (asBytes s)

end SozuCtl
