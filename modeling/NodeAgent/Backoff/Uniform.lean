/-!
# Uniform choice from random words

A random number below `n` is made from random words of 64 bits.  The product of a word and `n` has 128
bits.  Its upper half is below `n`, and it is the result, provided that the lower half is inside a zone
that gives every result equally many words.  Words outside the zone are thrown away.

## Main definitions

* `Words`: a source of words.
* `Words.progression`: the source that counts in equal steps.
* `accepted?`: the number below `n` that one word stands for.
* `Words.below`: the number that the first accepted word stands for.
-/

namespace NodeAgent

/-- **A source of random words.** -/
structure Words where
  /-- What the source has kept so far. -/
  State : Type
  /-- Hands out a word. -/
  next : State → UInt64 × State

/-- The source that starts with a word and adds a step each time, modulo `2 ^ 64`. -/
def Words.progression (step : UInt64) : Words where
  State := UInt64
  next word := (word, word + step)

/-- The number of leading zeros of a number as a word of 64 bits. -/
def leadingZeros (n : Nat) : Nat :=
  if n = 0 then 64 else 63 - n.log2

/-- The greatest lower half that is accepted for results below `n`. -/
def zone (n : Nat) : Nat :=
  (n <<< leadingZeros n) - 1

/-- **The number below `n` that a word stands for**, if the word is accepted. -/
def accepted? (n : Nat) (word : UInt64) : Option Nat :=
  let product := word.toNat * n
  if product % UInt64.size ≤ zone n then some (product / UInt64.size) else none

/-- The number below `n` that the first accepted one of at most `tries` words stands for; `0` if none
of them is accepted. -/
def Words.belowWithin (source : Words) (n : Nat) : Nat → source.State → Nat × source.State
  | 0, state => (0, state)
  | tries + 1, state =>
    let (word, state) := source.next state
    match accepted? n word with
    | some result => (result, state)
    | none => source.belowWithin n tries state

/-- **A random number below `n`.**  As many words are tried as there are: at least half of all words
are accepted, so that a source that offers none of them until then does not offer random words. -/
def Words.below (source : Words) (n : Nat) (state : source.State) : Nat × source.State :=
  source.belowWithin n UInt64.size state

/-- **A random number from `0` to `top`.**  No word is spent when there is nothing to choose, and a
word that may be any number stands for itself. -/
def Words.upTo (source : Words) (top : UInt64) (state : source.State) : UInt64 × source.State :=
  if top = 0 then (0, state)
  else if top.toNat + 1 = UInt64.size then source.next state
  else
    let (result, state) := source.below (top.toNat + 1) state
    (result.toUInt64, state)

/-- **A random member of a list**, `none` if the list is empty. -/
def Words.choose {α : Type} (source : Words) (xs : List α) (state : source.State) :
    Option α × source.State :=
  if xs.isEmpty then (none, state)
  else
    let (index, state) := source.below xs.length state
    (xs[index]?, state)

end NodeAgent
