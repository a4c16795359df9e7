import NodeAgent.Text.ComposedTable

/-!
# Composed characters

The composed form of a text, also called Normalization Form C: characters are decomposed, marks are put
into the order of their classes, and whatever pairs have a composed character are composed again.

## Main definitions

* `decompose`: a text with every composed character taken apart and its marks in order.
* `compose`: a decomposed text with the pairs put together.
* `composed`: the composed form of a text.
-/

namespace NodeAgent.Text

/-- The class by which a mark is ordered; zero for all but marks. -/
def combiningClass (c : Char) : Nat :=
  let n := c.toNat
  if n < 0x300 then 0
  else
    match combiningClasses.find? fun (first, last, _) => first ≤ n && n ≤ last with
    | some (_, _, k) => k
    | none => 0

/-- Takes a Hangul syllable apart. -/
def hangulParts (n : Nat) : List Char :=
  let i := n - 0xAC00
  let parts := [Char.ofNat (0x1100 + i / 588), Char.ofNat (0x1161 + i % 588 / 28)]
  if i % 28 = 0 then parts else parts ++ [Char.ofNat (0x11A7 + i % 28)]

/-- Takes a character apart, `depth` times over. -/
def charParts : Nat → Char → List Char
  | 0, c => [c]
  | depth + 1, c =>
    let n := c.toNat
    if n < 0xC0 then [c]
    else if 0xAC00 ≤ n ∧ n ≤ 0xD7A3 then hangulParts n
    else
      match findEntry decompositions n with
      | some e => (e.target.map Char.ofNat).flatMap (charParts depth)
      | none => [c]

/-- Inserts a mark in front of a reversed text, behind the marks of a greater class. -/
def placeMark (c : Char) : List Char → List Char
  | [] => [c]
  | d :: before =>
    if combiningClass c < combiningClass d then d :: placeMark c before else c :: d :: before

/-- **The decomposed form**: no character has a decomposition, and marks are in order. -/
def decompose (cs : List Char) : List Char :=
  ((cs.flatMap (charParts 4)).foldl
    (fun acc c => if combiningClass c = 0 then c :: acc else placeMark c acc) []).reverse

/-- The composed character of a pair. -/
def pairChar? (a b : Char) : Option Char :=
  let m := a.toNat
  let n := b.toNat
  if 0x1100 ≤ m ∧ m ≤ 0x1112 ∧ 0x1161 ≤ n ∧ n ≤ 0x1175 then
    some (Char.ofNat (0xAC00 + ((m - 0x1100) * 21 + (n - 0x1161)) * 28))
  else if 0xAC00 ≤ m ∧ m ≤ 0xD7A3 ∧ (m - 0xAC00) % 28 = 0 ∧ 0x11A8 ≤ n ∧ n ≤ 0x11C2 then
    some (Char.ofNat (m + (n - 0x11A7)))
  else
    (decompositions.find? fun e => !e.marked && e.target == [m, n]).map fun e => Char.ofNat e.first

/-- Composes what follows a starter.  `kept` are the marks since the starter that stay, reversed. -/
def composeFrom (starter : Char) (kept : List Char) : List Char → List Char
  | [] => starter :: kept.reverse
  | c :: rest =>
    let blocked :=
      match kept with
      | [] => false
      | d :: _ => combiningClass d = 0 || combiningClass c ≤ combiningClass d
    match if blocked then none else pairChar? starter c with
    | some joined => composeFrom joined kept rest
    | none =>
      if combiningClass c = 0 then starter :: kept.reverse ++ composeFrom c [] rest
      else composeFrom starter (c :: kept) rest

/-- **Puts pairs together** that have a composed character. -/
def compose : List Char → List Char
  | [] => []
  | c :: rest =>
    if combiningClass c = 0 then composeFrom c [] rest else c :: compose rest

/-- **The composed form of a text.** -/
def composed (cs : List Char) : List Char :=
  if cs.all (·.toNat < 0xC0) then cs else compose (decompose cs)

end NodeAgent.Text
