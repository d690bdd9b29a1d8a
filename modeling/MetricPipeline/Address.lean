/-!
Socket addresses: an IPv4 or IPv6 address and a port, as text and back.

An IPv4 address is four decimal octets without leading zeros. An IPv6 address stands in brackets, may
leave out one run of zero groups, may end in an IPv4 address and may name a scope after a percent
sign. The printed form leaves out the longest run of at least two zero groups, the first of several.
-/

namespace MetricPipeline

/-- A socket address. -/
inductive SocketAddress where
  /-- Four octets and a port. -/
  | v4 (octets : List Nat) (port : Nat)
  /-- Eight groups of sixteen bits, a scope and a port. -/
  | v6 (groups : List Nat) (scope : Nat) (port : Nat)
  deriving DecidableEq, Repr

namespace SocketAddress

/-! ## Reading -/

/-- The value of a digit to a base of at most sixteen. -/
def digit? (base : Nat) (c : Char) : Option Nat :=
  let code := c.toNat
  let value :=
    if 48 ≤ code ∧ code ≤ 57 then code - 48
    else if 97 ≤ code ∧ code ≤ 102 then code - 87
    else if 65 ≤ code ∧ code ≤ 70 then code - 55
    else base
  if value < base then some value else none

/-- The digits at the front of a text, and what follows them. -/
def takeDigits (base : Nat) : List Char → List Nat × List Char
  | [] => ([], [])
  | c :: rest =>
    match digit? base c with
    | some digit => let (digits, after) := takeDigits base rest; (digit :: digits, after)
    | none => ([], c :: rest)

/-- A number below a bound, of all the digits at the front of a text. At most so many digits are
allowed, and a superfluous leading zero only if the caller says so. -/
def number? (base bound : Nat) (maxDigits : Option Nat) (leadingZero : Bool) (chars : List Char) :
    Option (Nat × List Char) :=
  match takeDigits base chars with
  | ([], _) => none
  | (digits, rest) =>
    let value := digits.foldl (fun value digit => value * base + digit) 0
    let short := match maxDigits with
      | some most => decide (digits.length ≤ most)
      | none => true
    let clean := leadingZero || digits.head? != some 0 || digits.length == 1
    if short && clean && value < bound then some (value, rest) else none

/-- What follows a given character. -/
def expect? (expected : Char) : List Char → Option (List Char)
  | c :: rest => if c = expected then some rest else none
  | [] => none

/-- What follows the separator before a part; there is none before the first part. -/
def separator? (separator : Char) (isFirst : Bool) (chars : List Char) : Option (List Char) :=
  if isFirst then some chars else expect? separator chars

/-- An octet of an IPv4 address. -/
def octet? (chars : List Char) : Option (Nat × List Char) := number? 10 256 (some 3) false chars

/-- Four octets with points between them. -/
def octets? (chars : List Char) : Option (List Nat × List Char) := do
  let (first, chars) ← octet? chars
  let (second, chars) ← octet? (← expect? '.' chars)
  let (third, chars) ← octet? (← expect? '.' chars)
  let (fourth, chars) ← octet? (← expect? '.' chars)
  return ([first, second, third, fourth], chars)

/-- The two groups of sixteen bits that four octets make. -/
def groupsOfOctets : List Nat → List Nat
  | [first, second, third, fourth] => [first * 256 + second, third * 256 + fourth]
  | _ => []

/-- Groups of an IPv6 address, at most `room` of them, with colons between them. While there is room
for two, an IPv4 address may take their place and ends the groups; the flag tells whether one did. -/
def groups (isFirst : Bool) : Nat → List Char → List Nat × Bool × List Char
  | 0, chars => ([], false, chars)
  | room + 1, chars =>
    let embedded :=
      if room = 0 then none else do octets? (← separator? ':' isFirst chars)
    match embedded with
    | some (octets, rest) => (groupsOfOctets octets, true, rest)
    | none =>
      match (do number? 16 65536 (some 4) true (← separator? ':' isFirst chars)) with
      | some (group, rest) =>
        let (others, ended, after) := groups false room rest
        (group :: others, ended, after)
      | none => ([], false, chars)

/-- The eight groups of an IPv6 address. Two colons stand for at least one zero group. -/
def ipv6? (chars : List Char) : Option (List Nat × List Char) :=
  let (front, embedded, rest) := groups true 8 chars
  if front.length = 8 then some (front, rest)
  else if embedded then none
  else do
    let rest ← expect? ':' (← expect? ':' rest)
    let (back, _, rest) := groups true (7 - front.length) rest
    return (front ++ List.replicate (8 - front.length - back.length) 0 ++ back, rest)

/-- A port after a colon. -/
def port? (chars : List Char) : Option (Nat × List Char) := do
  number? 10 65536 none true (← expect? ':' chars)

/-- A scope after a percent sign; without one it is zero. -/
def scope (chars : List Char) : Nat × List Char :=
  match (do number? 10 UInt32.size none true (← expect? '%' chars)) with
  | some parts => parts
  | none => (0, chars)

/-- An IPv4 address and a port. -/
def readV4? (chars : List Char) : Option (SocketAddress × List Char) := do
  let (octets, chars) ← octets? chars
  let (port, chars) ← port? chars
  return (.v4 octets port, chars)

/-- A bracketed IPv6 address and a port. -/
def readV6? (chars : List Char) : Option (SocketAddress × List Char) := do
  let (groups, chars) ← ipv6? (← expect? '[' chars)
  let (scope, chars) := scope chars
  let (port, chars) ← port? (← expect? ']' chars)
  return (.v6 groups scope port, chars)

/-- The socket address that a whole text spells. -/
def parse? (text : String) : Option SocketAddress :=
  match readV4? text.toList <|> readV6? text.toList with
  | some (address, []) => some address
  | _ => none

/-! ## Printing -/

/-- A number in decimal. -/
def decimal (n : Nat) : List Char := Nat.toDigits 10 n

/-- Groups in hexadecimal with colons between them. -/
def printGroups (groups : List Nat) : List Char :=
  [':'].intercalate (groups.map (Nat.toDigits 16))

/-- The octets of a group of sixteen bits. -/
def octetsOfGroup (group : Nat) : List Nat := [group / 256, group % 256]

/-- Octets in decimal with points between them. -/
def printOctets (octets : List Nat) : List Char := ['.'].intercalate (octets.map decimal)

/-- The start and length of the longest run of zeros in the groups from a position on, given the
run that ends there and the longest one before; the first of equal ones counts. -/
def longestZeros (position current : Nat) (best : Nat × Nat) : List Nat → Nat × Nat
  | [] => best
  | group :: rest =>
    if group = 0 then
      let length := current + 1
      let better := if best.2 < length then (position + 1 - length, length) else best
      longestZeros (position + 1) length better rest
    else longestZeros (position + 1) 0 best rest

/-- An IPv6 address. One that embeds an IPv4 address shows its octets. -/
def printIpv6 (groups : List Nat) : List Char :=
  match groups with
  | [0, 0, 0, 0, 0, 65535, high, low] =>
    "::ffff:".toList ++ printOctets (octetsOfGroup high ++ octetsOfGroup low)
  | _ =>
    let (start, length) := longestZeros 0 0 (0, 0) groups
    if 1 < length then
      printGroups (groups.take start) ++ "::".toList ++ printGroups (groups.drop (start + length))
    else printGroups groups

/-- The text of a socket address. -/
def print : SocketAddress → String
  | .v4 octets port => String.ofList (printOctets octets ++ ':' :: decimal port)
  | .v6 groups scope port =>
    let shown := if scope = 0 then [] else '%' :: decimal scope
    String.ofList ('[' :: printIpv6 groups ++ shown ++ ']' :: ':' :: decimal port)

/-! ## Resolution -/

/-- Why a text is no address. -/
inductive Flaw where
  /-- There is nothing but blanks. -/
  | empty
  /-- There is no colon. -/
  | noPort
  /-- What follows the last colon is no port. -/
  | badPort
  /-- What stands before the last colon is no address; names are not looked up. -/
  | unknownHost
  deriving DecidableEq, Repr

/-- The wording of a flaw. -/
def Flaw.message : Flaw → String
  | .empty => "address cannot be empty"
  | .noPort => "invalid socket address"
  | .badPort => "invalid port value"
  | .unknownHost => "failed to lookup address information"

/-- What stands before and after the last colon of a text, if it has one. -/
def splitLastColon? (chars : List Char) : Option (List Char × List Char) :=
  let after := chars.reverse.takeWhile (· ≠ ':')
  if ':' ∈ chars then some ((chars.reverse.drop (after.length + 1)).reverse, after.reverse)
  else none

/-- The port that a whole text spells, possibly after a plus sign. -/
def portText? (chars : List Char) : Option Nat :=
  let digits := match chars with
    | '+' :: rest => rest
    | all => all
  match number? 10 65536 none true digits with
  | some (port, []) => some port
  | _ => none

/-- A part of an IPv4 address in the old style: hexadecimal after "0x", octal after a zero, or
decimal. -/
def oldPart? (chars : List Char) : Option Nat :=
  let read := fun base digits =>
    match number? base UInt32.size none true digits with
    | some (value, []) => some value
    | _ => none
  match chars with
  | '0' :: 'x' :: digits | '0' :: 'X' :: digits => read 16 digits
  | '0' :: digit :: digits => read 8 (digit :: digits)
  | digits => read 10 digits

/-- The octets of the parts of an IPv4 address in the old style: every part but the last is one
octet, and the last one fills the rest. -/
def oldOctets? (parts : List Nat) : Option (List Nat) :=
  match parts with
  | [all] =>
    if all < 0x100000000 then
      some [all / 0x1000000, all / 0x10000 % 256, all / 256 % 256, all % 256]
    else none
  | [first, rest] =>
    if first < 256 ∧ rest < 0x1000000 then
      some [first, rest / 0x10000, rest / 256 % 256, rest % 256]
    else none
  | [first, second, rest] =>
    if first < 256 ∧ second < 256 ∧ rest < 0x10000 then
      some [first, second, rest / 256, rest % 256]
    else none
  | [first, second, third, fourth] =>
    if first < 256 ∧ second < 256 ∧ third < 256 ∧ fourth < 256 then
      some [first, second, third, fourth]
    else none
  | _ => none

/-- The pieces of a text between the occurrences of a character. -/
def splitAtChar (separator : Char) : List Char → List (List Char)
  | [] => [[]]
  | c :: rest =>
    if c = separator then [] :: splitAtChar separator rest
    else
      match splitAtChar separator rest with
      | [] => [[c]]
      | piece :: pieces => (c :: piece) :: pieces

/-- The socket address of a numeric host and a port: an IPv4 address in the old style, or an IPv6
address without brackets. -/
def ofHost? (host : List Char) (port : Nat) : Option SocketAddress :=
  match (splitAtChar '.' host).mapM oldPart? >>= oldOctets? with
  | some octets => some (.v4 octets port)
  | none =>
    match ipv6? host with
    | some (groups, []) => some (.v6 groups 0 port)
    | _ => none

/-- The address of a text: a socket address, or a numeric host and a port around the last colon. -/
def resolve (text : String) : Except Flaw SocketAddress :=
  match parse? text with
  | some address => .ok address
  | none =>
    match splitLastColon? text.toList with
    | none => .error .noPort
    | some (host, port) =>
      match portText? port with
      | none => .error .badPort
      | some port =>
        match ofHost? host port with
        | some address => .ok address
        | none => .error .unknownHost

/-- A way to find the addresses of a text, in order of preference, or why it has none; another one may
know the addresses of names. -/
abbrev Lookup := String → Except String (List SocketAddress)

/-- What is said when a lookup finds nothing. -/
def noneFound : String := "no addresses found"

/-- The lookup that knows no names. -/
def numericLookup : Lookup := fun text =>
  match resolve text with
  | .ok address => .ok [address]
  | .error flaw => .error flaw.message

end SocketAddress

end MetricPipeline
