/-!
# Punycode

A label of a host name may hold any letters; on the wire it holds ASCII only.  Punycode writes the
characters beyond ASCII, in increasing order, as distances between where one was inserted and where
the next is.  A distance is a number in base 36 whose digits have varying weights: the lowest digit
that continues a number adapts to the distances seen so far.

## Main definitions

* `Punycode.encode`: the ASCII form of a label.
* `Punycode.decode?`: the label of an ASCII form.
-/

namespace NodeAgent.Punycode

/-- The character of a digit. -/
def digitChar (d : Nat) : Char :=
  if d < 26 then Char.ofNat (0x61 + d) else Char.ofNat (0x30 + d - 26)

/-- The value of a digit, in either case. -/
def digitValue? (c : Char) : Option Nat :=
  if 'a' ≤ c ∧ c ≤ 'z' then some (c.toNat - 0x61)
  else if 'A' ≤ c ∧ c ≤ 'Z' then some (c.toNat - 0x41)
  else if '0' ≤ c ∧ c ≤ '9' then some (c.toNat - 0x30 + 26)
  else none

/-- The lowest digit at a position that says "another digit follows".  Positions step by 36. -/
def threshold (position bias : Nat) : Nat :=
  if position ≤ bias then 1 else if bias + 26 ≤ position then 26 else position - bias

theorem one_le_threshold (position bias : Nat) : 1 ≤ threshold position bias := by
  unfold threshold
  split
  · omega
  · split <;> omega

theorem threshold_le (position bias : Nat) : threshold position bias ≤ 26 := by
  unfold threshold
  split
  · omega
  · split <;> omega

/-- Scales a distance down by powers of 35. -/
def scale (distance steps : Nat) : Nat × Nat :=
  if 455 < distance then scale (distance / 35) (steps + 36) else (distance, steps)
termination_by distance
decreasing_by exact Nat.div_lt_self (by omega) (by omega)

/-- The bias after a distance was written, with the number of characters now placed. -/
def adapt (distance placed : Nat) (first : Bool) : Nat :=
  let d := if first then distance / 700 else distance / 2
  let (rest, steps) := scale (d + d / placed) 0
  steps + 36 * rest / (rest + 38)

/-- The digits of a distance. -/
def digits (distance position bias : Nat) : List Char :=
  let t := threshold position bias
  if distance < t then [digitChar distance]
  else
    digitChar (t + (distance - t) % (36 - t)) ::
      digits ((distance - t) / (36 - t)) (position + 36) bias
termination_by distance
decreasing_by
  have h₁ := one_le_threshold position bias
  have h₂ := threshold_le position bias
  simp only [t] at *
  calc (distance - threshold position bias) / (36 - threshold position bias)
      ≤ distance - threshold position bias := Nat.div_le_self _ _
    _ < distance := by omega

/-- The state of the encoder between two characters. -/
structure Encoder where
  distance : Nat := 0
  bias : Nat := 72
  placed : Nat
  first : Bool := true

/-- Goes through a label for the character `n`: smaller characters lengthen the distance, each
occurrence of `n` writes it. -/
def encodePass (n : Nat) : Encoder → List Char → Encoder × List Char
  | e, [] => (e, [])
  | e, c :: rest =>
    if c.toNat < n then encodePass n { e with distance := e.distance + 1 } rest
    else if c.toNat = n then
      let out := digits e.distance 36 e.bias
      let e' : Encoder :=
        { distance := 0, bias := adapt e.distance (e.placed + 1) e.first, placed := e.placed + 1,
          first := false }
      let (e'', more) := encodePass n e' rest
      (e'', out ++ more)
    else encodePass n e rest

/-- Places the given characters, in increasing order, each after all smaller ones. -/
def encodeAll (label : List Char) : Nat → Encoder → List Nat → List Char
  | _, _, [] => []
  | from_, e, n :: rest =>
    let e := { e with distance := e.distance + (n - from_) * (e.placed + 1) }
    let (e, out) := encodePass n e label
    out ++ encodeAll label (n + 1) { e with distance := e.distance + 1 } rest

/-- Inserts a number into an increasing list, once. -/
def insertNumber (n : Nat) : List Nat → List Nat
  | [] => [n]
  | m :: rest => if n < m then n :: m :: rest else if n = m then m :: rest else m :: insertNumber n rest

/-- **The ASCII form of a label**, without the mark in front of it. -/
def encode (label : List Char) : List Char :=
  let basic := label.filter (·.toNat < 0x80)
  let others := (label.filter (0x80 ≤ ·.toNat)).foldl (fun acc c => insertNumber c.toNat acc) []
  let start : Encoder := { placed := basic.length }
  let tail := encodeAll label 0x80 start others
  if basic.isEmpty then tail else basic ++ '-' :: tail

/-- Reads the digits of a distance, and gives what follows them. -/
def readDistance (bias : Nat) : Nat → Nat → Nat → List Char → Option (Nat × List Char)
  | _, _, _, [] => none
  | position, weight, value, c :: rest =>
    match digitValue? c with
    | none => none
    | some d =>
      let value := value + d * weight
      let t := threshold position bias
      if UInt32.size ≤ value then none
      else if d < t then some (value, rest)
      else readDistance bias (position + 36) (weight * (36 - t)) value rest

/-- Reads distances and inserts their characters.  At most as many are read as there are digits. -/
def decodeAll : Nat → Nat → Nat → Nat → Bool → List Char → List Char → Option (List Char)
  | _, _, _, _, _, label, [] => some label
  | 0, _, _, _, _, _, _ :: _ => none
  | tries + 1, n, index, bias, first, label, input@(_ :: _) =>
    match readDistance bias 36 1 0 input with
    | none => none
    | some (distance, rest) =>
      let size := label.length + 1
      let position := index + distance
      let n := n + position / size
      let place := position % size
      if 0x10FFFF < n || (0xD800 ≤ n && n ≤ 0xDFFF) then none
      else
        decodeAll tries n (place + 1) (adapt distance size first) false
          (label.take place ++ Char.ofNat n :: label.drop place) rest

/-- The parts of a text around its last hyphen. -/
def splitAtLastHyphen (cs : List Char) : List Char × List Char :=
  match cs.reverse.span (· != '-') with
  | (_, []) => ([], cs)
  | (tail, _ :: front) => (front.reverse, tail.reverse)

/-- **The label of an ASCII form**, which comes without the mark in front of it. -/
def decode? (cs : List Char) : Option (List Char) :=
  let (basic, tail) := splitAtLastHyphen cs
  if cs.all (·.toNat < 0x80) then decodeAll tail.length 0x80 0 72 true basic tail else none

end NodeAgent.Punycode
