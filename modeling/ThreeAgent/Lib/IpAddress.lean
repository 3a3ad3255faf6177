/-
`ipaddress.ip_address` on a text: the two address forms, parsed as the
standard library parses them, with every text it refuses read as `none`.
-/
import ThreeAgent.Lib.Text

namespace IpAddress

/-- The two address classes, each with its integer value. -/
inductive Address where
  | v4 (ip : Nat)
  | v6 (ip : Nat)
  deriving DecidableEq, Repr

def digitsValue (base : Nat) (digit : Char → Nat) (cs : List Char) : Nat :=
  cs.foldl (fun n c => base * n + digit c) 0

def decimalDigit (c : Char) : Nat := c.toNat - '0'.toNat

def hexDigit (c : Char) : Nat :=
  if '0' ≤ c ∧ c ≤ '9' then c.toNat - '0'.toNat
  else if 'a' ≤ c ∧ c ≤ 'f' then c.toNat - 'a'.toNat + 10
  else c.toNat - 'A'.toNat + 10

def isDecimal (c : Char) : Bool := '0' ≤ c && c ≤ '9'

def isHex (c : Char) : Bool := isDecimal c || ('a' ≤ c && c ≤ 'f') || ('A' ≤ c && c ≤ 'F')

/-- `_parse_octet`: one to three digits, no leading zero, at most 255. -/
def parseOctet (s : String) : Option Nat :=
  let cs := s.toList
  if cs.isEmpty || !cs.all isDecimal || cs.length > 3 || (cs != ['0'] && cs.head? == some '0') then none
  else
    let n := digitsValue 10 decimalDigit cs
    if n > 255 then none else some n

/-- `IPv4Address(text)`. -/
def parseV4 (s : String) : Option Nat := do
  let octets ← (PyText.split '.' s).mapM parseOctet
  if octets.length = 4 then some (octets.foldl (fun n o => n * 256 + o) 0) else none

/-- `_parse_hextet`: one to four hexadecimal digits. -/
def parseHextet (s : String) : Option Nat :=
  let cs := s.toList
  if cs.isEmpty || !cs.all isHex || cs.length > 4 then none else some (digitsValue 16 hexDigit cs)

def hextets (parts : List String) (ip : Nat) : Option Nat :=
  parts.foldlM (fun ip p => (parseHextet p).map (ip * 65536 + ·)) ip

/-- The indices of the empty inner parts: the places of a `::`. -/
def skipIndices (parts : List String) : List Nat :=
  (List.range parts.length).filter fun i =>
    decide (1 ≤ i) && decide (i + 1 < parts.length) && parts.getD i "" == ""

/-- `_ip_int_from_string` once an IPv4 suffix has been rewritten as two hextets. -/
def parseHextets (parts : List String) : Option Nat :=
  if parts.length > 9 then none
  else
    let first := parts.headD ""
    let last := parts.getLastD ""
    match skipIndices parts with
    | [] =>
      if parts.length = 8 ∧ first ≠ "" ∧ last ≠ "" then hextets parts 0 else none
    | [skip] =>
      let hi := if first = "" then skip - 1 else skip
      let lo := if last = "" then parts.length - skip - 2 else parts.length - skip - 1
      if (first = "" ∧ hi ≠ 0) ∨ (last = "" ∧ lo ≠ 0) ∨ hi + lo ≥ 8 then none
      else do
        let high ← hextets (parts.take hi) 0
        hextets (parts.drop (parts.length - lo)) (high * 65536 ^ (8 - (hi + lo)))
    | _ => none

/-- `IPv6Address(text)`: an optional scope id after one `%`, at least two colons, and the
last part may be an IPv4 address. -/
def parseV6 (s : String) : Option Nat :=
  match PyText.split '%' s with
  | [addr] => body addr
  | [addr, scope] => if scope = "" then none else body addr
  | _ => none
where
  body (addr : String) : Option Nat :=
    let parts := PyText.split ':' addr
    if parts.length < 3 then none
    else if PyText.contains (parts.getLastD "") "." then do
      let ip ← parseV4 (parts.getLastD "")
      let low (n : Nat) := String.ofList (Nat.toDigits 16 n)
      parseHextets (parts.dropLast ++ [low (ip / 65536 % 65536), low (ip % 65536)])
    else parseHextets parts

/-- `ipaddress.ip_address(text)`, `none` for the `ValueError`. -/
def ipAddress (s : String) : Option Address :=
  if PyText.contains s "/" then none
  else
    match parseV4 s with
    | some ip => some (.v4 ip)
    | none => (parseV6 s).map .v6

/-- `address in ip_network(base/bits)`, for a network of the address's own version of `width` bits. -/
def inNetwork (width ip base bits : Nat) : Bool := ip / 2 ^ (width - bits) == base / 2 ^ (width - bits)

def isLoopback : Address → Bool
  | .v4 ip => inNetwork 32 ip 0x7F000000 8
  | .v6 ip => ip == 1

def isLinkLocal : Address → Bool
  | .v4 ip => inNetwork 32 ip 0xA9FE0000 16
  | .v6 ip => inNetwork 128 ip (0xFE80 * 2 ^ 112) 10

/-- The networks `base/bits` that hold an address. -/
def inNetworks (width ip : Nat) (networks : List (Nat × Nat)) : Bool := networks.any fun n => inNetwork width ip n.1 n.2

/-- `_private_networks` and their exceptions. -/
def isPrivate : Address → Bool
  | .v4 ip =>
    inNetworks 32 ip [(0x00000000, 8), (0x0A000000, 8), (0x7F000000, 8), (0xA9FE0000, 16), (0xAC100000, 12),
      (0xC0000000, 24), (0xC0000200, 24), (0xC0A80000, 16), (0xC6120000, 15), (0xC6336400, 24), (0xCB007100, 24),
      (0xF0000000, 4), (0xFFFFFFFF, 32)] &&
      !inNetworks 32 ip [(0xC0000009, 32), (0xC000000A, 32)]
  | .v6 ip =>
    inNetworks 128 ip [(1, 128), (0, 128), (0xFFFF * 2 ^ 32, 96), (0x0064FF9B0001 * 2 ^ 80, 48), (0x0100 * 2 ^ 112, 64),
      (0x2001 * 2 ^ 112, 23), (0x20010DB8 * 2 ^ 96, 32), (0x2002 * 2 ^ 112, 16), (0x3FFF * 2 ^ 112, 20),
      (0xFC00 * 2 ^ 112, 7), (0xFE80 * 2 ^ 112, 10)] &&
      !inNetworks 128 ip [(0x20010001 * 2 ^ 96 + 1, 128), (0x20010001 * 2 ^ 96 + 2, 128), (0x20010003 * 2 ^ 96, 32),
        (0x200100040112 * 2 ^ 80, 48), (0x20010020 * 2 ^ 96, 28), (0x20010030 * 2 ^ 96, 28)]

def isMulticast : Address → Bool
  | .v4 ip => inNetwork 32 ip 0xE0000000 4
  | .v6 ip => inNetwork 128 ip (0xFF00 * 2 ^ 112) 8

/-- `_reserved_networks`. -/
def isReserved : Address → Bool
  | .v4 ip => inNetwork 32 ip 0xF0000000 4
  | .v6 ip =>
    inNetworks 128 ip ([(0x0000, 8), (0x0100, 8), (0x0200, 7), (0x0400, 6), (0x0800, 5), (0x1000, 4), (0x4000, 3),
      (0x6000, 3), (0x8000, 3), (0xA000, 3), (0xC000, 3), (0xE000, 4), (0xF000, 5), (0xF800, 6), (0xFE00, 9)].map
        fun n => (n.1 * 2 ^ 112, n.2))

def isUnspecified : Address → Bool
  | .v4 ip => ip == 0
  | .v6 ip => ip == 0

/-! ## The text of an address -/

/-- `str(IPv4Address(ip))`. -/
def textV4 (ip : Nat) : String := PyText.join '.' ([24, 16, 8, 0].map fun k => toString (ip / 2 ^ k % 256))

/-- The start and the length of the first longest run of `0` among the parts from an index on; the run that ends just
before them, and the longest one so far. -/
def zeroRun : List String → Nat → Nat × Nat → Nat × Nat → Nat × Nat
  | [], _, _, best => best
  | part :: parts, index, run, best =>
    let run := if part = "0" then (if run.2 = 0 then index else run.1, run.2 + 1) else (index + 1, 0)
    zeroRun parts (index + 1) run (if run.2 > best.2 then run else best)

/-- `_compress_hextets`. -/
def compressHextets (parts : List String) : List String :=
  let (start, length) := zeroRun parts 0 (0, 0) (0, 0)
  if length ≤ 1 then parts
  else (if start = 0 then [""] else []) ++ parts.take start ++ [""] ++ parts.drop (start + length) ++
    (if start + length = parts.length then [""] else [])

/-- `str(IPv6Address(ip))`. -/
def textV6 (ip : Nat) : String :=
  PyText.join ':' (compressHextets ((List.range 8).map fun i =>
    String.ofList (Nat.toDigits 16 (ip / 65536 ^ (7 - i) % 65536))))

/-- `str(ipaddress.ip_address(text))`, `none` for the `ValueError`. -/
def addressText (s : String) : Option String :=
  (ipAddress s).map fun
    | .v4 ip => textV4 ip
    | .v6 ip =>
      match PyText.split '%' s with
      | [_, scope] => textV6 ip ++ "%" ++ scope
      | _ => textV6 ip

example : ipAddress "10.0.0.7" = some (.v4 0x0A000007) := by decide
example : ipAddress "fe80::1%eth0" = some (.v6 (0xFE80 * 2 ^ 112 + 1)) := by decide
example : ipAddress "::ffff:1.2.3.4" = some (.v6 0xFFFF01020304) := by decide
example : ipAddress "10.0.0.07" = none := by decide
example : addressText "2001:0DB8:0:0:1:0:0:1" = some "2001:db8::1:0:0:1" := by decide
example : addressText "0::0%eth0" = some "::%eth0" := by decide

end IpAddress
