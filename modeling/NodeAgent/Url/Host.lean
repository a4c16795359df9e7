import NodeAgent.Text.Composed
import NodeAgent.Text.LowerCase
import NodeAgent.Url.Direction
import NodeAgent.Url.HostTable
import NodeAgent.Url.Percent
import NodeAgent.Url.Punycode

/-!
# Hosts

The host of a URL is a name or an address.  Names are brought into one form: the one in which they are
looked up.  Addresses are numbers, and each has one written form however it was spelled.

## Main definitions

* `UrlError`: what can be wrong with a URL.
* `Host`: a name, an IPv4 address or an IPv6 address.
* `asciiName?`: the form in which a name is looked up.
* `Host.parse`, `Host.parseOpaque`: reading the host of a special scheme, or of another scheme.
* `Host.text`: the written form of a host.
-/

namespace NodeAgent

open Text

/-- **What can be wrong with a URL.** -/
inductive UrlError
  | emptyHost
  | internationalName
  | invalidPort
  | invalidIpv4
  | invalidIpv6
  | invalidHostCharacter
  | relativeWithoutBase
  | relativeToOpaque
deriving DecidableEq, Repr, Inhabited

/-- What is said about a wrong URL. -/
def UrlError.message : UrlError → String
  | emptyHost => "empty host"
  | internationalName => "invalid international domain name"
  | invalidPort => "invalid port number"
  | invalidIpv4 => "invalid IPv4 address"
  | invalidIpv6 => "invalid IPv6 address"
  | invalidHostCharacter => "invalid domain character"
  | relativeWithoutBase => "relative URL without a base"
  | relativeToOpaque => "relative URL with a cannot-be-a-base base"

/-- **The host of a URL.** -/
inductive Host
  | name (text : String)
  | ipv4 (address : UInt32)
  | ipv6 (pieces : List UInt16)
deriving DecidableEq, Repr, Inhabited

/-! ## Names -/

/-- ASCII characters that no name holds. -/
def isDeniedInName (c : Char) : Bool :=
  isControl c || c == ' ' || c == '#' || c == '%' || c == '/' || c == ':' || c == '<' || c == '>'
    || c == '?' || c == '@' || c == '[' || c == '\\' || c == ']' || c == '^' || c == '|'

/-- Characters that are visible or join others, and yet may not stand in a name. -/
def excludedFromNames : List (Nat × Nat) := [
  (0x115F, 0x1160), (0x17B4, 0x17B5), (0x2FF0, 0x2FFB), (0x3164, 0x3164), (0xFFA0, 0xFFA0),
  (0xFFFC, 0xFFFD)]

/-- Whether a character beyond ASCII may stand in a name that has been mapped. -/
def isNameChar (c : Char) : Bool :=
  c == '\u200C' || c == '\u200D' || (!isInvisible c && !inRanges excludedFromNames c.toNat)

/-- What a character of a name stands for; `none` if it may not stand in a name. -/
def mapNameChar (c : Char) : Option (List Char) :=
  if c.toNat < 0x80 then some [c.toLower]
  else
    match findEntry hostMapping c.toNat with
    | some e =>
      match e.target with
      | [t] => some [Char.ofNat (t + (c.toNat - e.first))]
      | ts => some (ts.map Char.ofNat)
    | none => if isNameChar c then some [c] else none

/-- The mapped and composed form of a name. -/
def mapName (cs : List Char) : Option (List Char) :=
  (cs.mapM mapNameChar).map fun parts => composed parts.flatten

/-- Whether the joiners in a label stand where they may: right behind a mark that kills a vowel. -/
def joinersInPlace : Option Char → List Char → Bool
  | _, [] => true
  | before, c :: rest =>
    ((c != '\u200C' && c != '\u200D') || before.any fun b => combiningClass b == 9)
      && joinersInPlace (some c) rest

/-- Whether a mapped label may stand in a name. -/
def isValidLabel (label : List Char) : Bool :=
  label.all (fun c => if c.toNat < 0x80 then !isDeniedInName c else isNameChar c)
    && !(label.head?.any isMark) && joinersInPlace none label

/-- Whether a label that says it is encoded really is the encoded form of a mapped label. -/
def isEncodedLabel (tail : List Char) : Bool :=
  match Punycode.decode? tail with
  | some label =>
    !label.all (·.toNat < 0x80) && mapName label == some label && isValidLabel label
      && Punycode.encode label == tail
  | none => false

/-- The ASCII form of a mapped label. -/
def asciiLabel? (label : List Char) : Option (List Char) :=
  if ['x', 'n', '-', '-'].isPrefixOf label then
    if isEncodedLabel (label.drop 4) then some label else none
  else if !isValidLabel label then none
  else if label.all (·.toNat < 0x80) then some label
  else some (['x', 'n', '-', '-'] ++ Punycode.encode label)

/-- A mapped label as it is shown. -/
def shownLabel (label : List Char) : List Char :=
  if ['x', 'n', '-', '-'].isPrefixOf label then (Punycode.decode? (label.drop 4)).getD label else label

/-- Whether the characters of a label run in one direction, the one of its first character.  Numbers may
run the other way, but not numbers of two kinds. -/
def runsOneWay (label : List Char) : Bool :=
  match label.map direction with
  | [] => true
  | first :: rest =>
    let backwards := rest.reverse.dropWhile (· == .nonspacing)
    match first with
    | .leftToRight =>
      backwards.all (fun d => d != .rightToLeft && d != .arabicNumber)
        && backwards.head?.all fun d => d == .leftToRight || d == .europeanNumber
    | .rightToLeft =>
      backwards.all (· != .leftToRight)
        && backwards.head?.all (· != .neutral)
        && !(backwards.contains .europeanNumber && backwards.contains .arabicNumber)
    | _ => false

/-- Whether a label holds characters that run from right to left. -/
def isTurned (label : List Char) : Bool :=
  label.any fun c => direction c == .rightToLeft || direction c == .arabicNumber

/-- Whether labels can be told apart when they are shown: if one of them is turned, each runs one way. -/
def directionsFit (labels : List (List Char)) : Bool :=
  !labels.any isTurned || labels.all runsOneWay

/-- **The form in which a name is looked up**; `none` if it is no name. -/
def asciiName? (cs : List Char) : Option String := do
  let labels := splitOnChar '.' (← mapName cs)
  let written ← labels.mapM asciiLabel?
  -- Directions are judged on the name as it is shown, not as it is looked up.
  guard (directionsFit (labels.map shownLabel))
  return String.ofList (['.'].intercalate written)

/-! ## IPv4 addresses -/

/-- A part of an IPv4 address: decimal, octal behind `0` or hexadecimal behind `0x`.  The outer result
says whether it is a number, the inner one whether the number has 32 bits. -/
def ipv4Number? (cs : List Char) : Option (Option Nat) :=
  let (radix, digits) : Nat × List Char :=
    match cs with
    | '0' :: 'x' :: rest | '0' :: 'X' :: rest => (16, rest)
    | '0' :: d :: rest => (8, d :: rest)
    | _ => (10, cs)
  if cs.isEmpty then none
  else
    match digits.mapM fun c => (hexValue? c).filter (· < radix) with
    | none => none
    | some ds =>
      let n := ds.foldl (fun acc d => acc * radix + d) 0
      some (if n < UInt32.size then some n else none)

/-- The parts of a name between its dots, without an empty last one. -/
def dottedParts (cs : List Char) : List (List Char) :=
  let parts := splitOnChar '.' cs
  if parts.getLast?.any (·.isEmpty) then parts.dropLast else parts

/-- Whether a name ends in a number, and so must be an IPv4 address. -/
def endsInNumber (cs : List Char) : Bool :=
  match (dottedParts cs).getLast? with
  | none => false
  | some [] => false
  | some part => part.all Char.isDigit || (ipv4Number? part).isSome

/-- Reads an IPv4 address.  The last part fills all bytes that are left. -/
def ipv4? (cs : List Char) : Option UInt32 := do
  let parts := dottedParts cs
  if 4 < parts.length then none
  let numbers ← parts.mapM fun part => (ipv4Number? part).bind id
  -- The last part counts for all the bytes that the parts before it leave.
  let last ← numbers.getLast?
  let front := numbers.dropLast
  if 1 <<< (8 * (4 - front.length)) ≤ last then none
  if front.any (255 < ·) then none
  let (high, _) := front.foldl (fun (acc, k) n => (acc + (n <<< (8 * k)), k - 1)) (0, 3)
  return (high + last).toUInt32

/-- The written form of an IPv4 address. -/
def ipv4Text (address : UInt32) : String :=
  let n := address.toNat
  ".".intercalate ([n >>> 24, n >>> 16 % 256, n >>> 8 % 256, n % 256].map toString)

/-! ## IPv6 addresses -/

/-- Reads up to four hexadecimal digits. -/
def ipv6Digits : Nat → Nat → List Char → Nat × List Char
  | 0, value, cs => (value, cs)
  | _ + 1, value, [] => (value, [])
  | n + 1, value, c :: rest =>
    match hexValue? c with
    | some d => ipv6Digits n (value * 16 + d) rest
    | none => (value, c :: rest)

/-- A decimal byte without leading zeros. -/
def decimalByte? (cs : List Char) : Option Nat :=
  match cs with
  | [] => none
  | ['0'] => some 0
  | '0' :: _ => none
  | _ =>
    if cs.all Char.isDigit && cs.length ≤ 3 then
      let n := cs.foldl (fun acc c => acc * 10 + (c.toNat - 0x30)) 0
      if n ≤ 255 then some n else none
    else none

/-- The two pieces that an IPv4 address at the end of an IPv6 address stands for. -/
def ipv4Pieces? (cs : List Char) : Option (List Nat) := do
  match ← (splitOnChar '.' cs).mapM decimalByte? with
  | [a, b, c, d] => return [a * 256 + b, c * 256 + d]
  | _ => none

/-- Reads the pieces of an IPv6 address behind the pieces read so far, in at most `tries` steps.
`gap` is the place of the `::`, if there was one. -/
def ipv6Pieces? : Nat → List Nat → Option Nat → List Char → Option (List Nat × Option Nat)
  | _, pieces, gap, [] => some (pieces, gap)
  | 0, _, _, _ :: _ => none
  | tries + 1, pieces, gap, ':' :: rest =>
    if pieces.length = 8 || gap.isSome then none
    else ipv6Pieces? tries pieces (some pieces.length) rest
  | tries + 1, pieces, gap, cs@(_ :: _) =>
    let used := pieces.length + (if gap.isSome then 1 else 0)
    if used ≥ 8 then none
    else
      match ipv6Digits 4 0 cs with
      | (value, []) => some (pieces ++ [value], gap)
      | (value, ':' :: rest) =>
        if rest.isEmpty then none else ipv6Pieces? tries (pieces ++ [value]) gap rest
      | (_, '.' :: _) =>
        if 6 < used || (ipv6Digits 4 0 cs).2.length = cs.length then none
        else
          (ipv4Pieces? cs).map fun tail => (pieces ++ tail, gap)
      | _ => none

/-- Reads an IPv6 address.  A `::` stands for at least one zero piece. -/
def ipv6? (cs : List Char) : Option (List UInt16) := do
  if cs.length < 2 then none
  let (start, gap) : List Char × Option Nat :=
    match cs with
    | ':' :: ':' :: rest => (rest, some 0)
    | _ => (cs, none)
  if gap.isNone && cs.head? == some ':' then none
  let (pieces, gap) ← ipv6Pieces? (cs.length + 1) [] gap start
  let all ←
    match gap with
    | none => if pieces.length = 8 then some pieces else none
    | some place =>
      if pieces.length ≤ 7 then
        some (pieces.take place ++ List.replicate (8 - pieces.length) 0 ++ pieces.drop place)
      else none
  return all.map Nat.toUInt16

/-- The length of the run of zeros at the front. -/
def zerosInFront : List UInt16 → Nat
  | [] => 0
  | p :: rest => if p = 0 then zerosInFront rest + 1 else 0

/-- The place and length of the first longest run of zeros, given the place of the front. -/
def longestZeros (place : Nat) : List UInt16 → Nat × Nat
  | [] => (place, 0)
  | p :: rest =>
    let here := zerosInFront (p :: rest)
    let later := longestZeros (place + 1) rest
    if here < later.2 then later else (place, here)

/-- The written form of an IPv6 address, without brackets.  The first longest run of at least two zero
pieces is left out. -/
def ipv6Text (pieces : List UInt16) : String :=
  let write (ps : List UInt16) : String :=
    ":".intercalate (ps.map fun p => String.ofList (Nat.toDigits 16 p.toNat))
  let (place, length) := longestZeros 0 pieces
  if 2 ≤ length then write (pieces.take place) ++ "::" ++ write (pieces.drop (place + length))
  else write pieces

/-! ## Any host -/

namespace Host

/-- **The written form of a host.** -/
def text : Host → String
  | name t => t
  | ipv4 address => ipv4Text address
  | ipv6 pieces => "[" ++ ipv6Text pieces ++ "]"

/-- Reads an address in brackets, given what follows the opening one. -/
def parseBracketed (rest : List Char) : Except UrlError Host :=
  match rest.getLast? with
  | some ']' =>
    match ipv6? rest.dropLast with
    | some pieces => .ok (.ipv6 pieces)
    | none => .error .invalidIpv6
  | _ => .error .invalidIpv6

/-- **Reads the host of a special scheme**: percent escapes count as what they stand for. -/
def parse (cs : List Char) : Except UrlError Host :=
  match cs with
  | '[' :: rest => parseBracketed rest
  | _ =>
    match asciiName? (decodeUtf8Lossy (percentDecode cs)).toList with
    | none => .error .internationalName
    | some "" => .error .emptyHost
    | some t =>
      if endsInNumber t.toList then
        match ipv4? t.toList with
        | some address => .ok (.ipv4 address)
        | none => .error .invalidIpv4
      else .ok (.name t)

/-- Characters that no host holds. -/
def isDenied (c : Char) : Bool :=
  c == '\x00' || c == '\t' || c == '\n' || c == '\r' || c == ' ' || c == '#' || c == '/' || c == ':'
    || c == '<' || c == '>' || c == '?' || c == '@' || c == '[' || c == '\\' || c == ']' || c == '^'
    || c == '|'

/-- **Reads the host of a scheme that is not special.**  It may be empty. -/
def parseOpaque (cs : List Char) : Except UrlError Host :=
  match cs with
  | '[' :: rest => parseBracketed rest
  | _ =>
    if cs.any isDenied then .error .invalidHostCharacter
    else .ok (.name (String.ofList (percentEncode isControl cs)))

end Host

end NodeAgent
