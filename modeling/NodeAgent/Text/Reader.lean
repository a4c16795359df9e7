/-!
# Readers

A reader takes something off the front of a text, or fails.  Loops in readers are bounded by the length of
the text, which every round shortens.

## Main definitions

* `Reader`: a reader that may fail for a reason of a given kind.
* `comesNext`, `takeText?`, `takeText`, `takeWhile`: the simplest readers.
-/

namespace NodeAgent.Text

/-- **A reader of the front of a text.** -/
abbrev Reader (ε : Type) := StateT (List Char) (Except ε)

/-- The rest of a text behind another one. -/
def afterPrefix? : List Char → List Char → Option (List Char)
  | [], rest => some rest
  | _ :: _, [] => none
  | p :: ps, c :: cs => if p = c then afterPrefix? ps cs else none

namespace Reader

variable {ε : Type}

/-- Whether the rest starts with a text. -/
def comesNext (text : String) : Reader ε Bool :=
  fun cs => .ok ((afterPrefix? text.toList cs).isSome, cs)

/-- Whether the rest starts with a character of a class. -/
def charComesNext (p : Char → Bool) : Reader ε Bool :=
  fun cs => .ok ((cs.head?.map p).getD false, cs)

/-- Reads a text if it comes next; tells whether it did. -/
def takeText? (text : String) : Reader ε Bool := fun cs =>
  match afterPrefix? text.toList cs with
  | some rest => .ok (true, rest)
  | none => .ok (false, cs)

/-- Reads a text that has to come next. -/
def takeText (text : String) (failure : ε) : Reader ε Unit := fun cs =>
  match afterPrefix? text.toList cs with
  | some rest => .ok ((), rest)
  | none => .error failure

/-- Reads the characters of a class. -/
def takeWhile (p : Char → Bool) : Reader ε (List Char) :=
  fun cs => .ok (cs.takeWhile p, cs.dropWhile p)

/-- Reads any one character. -/
def takeChar (failure : ε) : Reader ε Char
  | [] => .error failure
  | c :: rest => .ok (c, rest)

/-- The number of characters that are left. -/
def remaining : Reader ε Nat :=
  fun cs => .ok (cs.length, cs)

end Reader

end NodeAgent.Text
