/-!
# Similarity of words

How similar two words are is a number from zero to one. It starts from the mean of three ratios:
how much of the first word is matched in the second, how much of the second is matched, and how
many of the matches come in order. Characters match when they are equal and not too far apart,
each at most once. A beginning that the words share then closes a tenth of what is missing to one
for every character of it.

**Words that begin with the same ten characters count as the same**, because ten tenths of what
is missing are all of it.

The ratios are numbers of double precision and are put together in the order written here, since
the last digit decides which of two words is the more similar.
-/

namespace Duet.Text

/-- What is found while the characters of the first word are looked up in the second: which
places of the second are taken, how many matches there are, how many of them step back, and the
place of the last one. -/
structure Matching where
  taken : List Nat := []
  matched : Nat := 0
  stepsBack : Nat := 0
  last : Nat := 0
  deriving DecidableEq, Repr

/-- The first free place of a character between two bounds. -/
def Matching.place? (m : Matching) (c : Char) (low high : Nat) (word : List Char) : Option Nat :=
  (word.zipIdx.find? fun (x, j) => low ≤ j && j ≤ high && x = c && !m.taken.contains j).map (·.2)

/-- Takes a place. -/
def Matching.take (m : Matching) (place : Nat) : Matching where
  taken := place :: m.taken
  matched := m.matched + 1
  stepsBack := if place < m.last then m.stepsBack + 1 else m.stepsBack
  last := place

/-- Looks up every character of the first word in the second. -/
def Matching.of (a b : List Char) : Matching :=
  let reach := max a.length b.length / 2 - 1
  a.zipIdx.foldl (fun m (c, i) =>
    match m.place? c (i - reach) (i + reach) b with
    | some place => m.take place
    | none => m) {}

/-- A count as a number of double precision. -/
def ratioOf (count total : Nat) : Float :=
  count.toFloat / total.toFloat

/-- The mean of the three ratios. -/
def matchingRatio (a b : List Char) : Float :=
  let m := Matching.of a b
  if m.matched = 0 then 0.0
  else
    (1.0 / 3.0) * ((ratioOf m.matched a.length + ratioOf m.matched b.length)
      + ratioOf (m.matched - m.stepsBack) m.matched)

/-- The number of characters that two words share at their beginning. -/
def sharedStart : List Char → List Char → Nat
  | a :: as, b :: bs => if a = b then sharedStart as bs + 1 else 0
  | _, _ => 0

/-- How similar two words are, from zero to one. -/
def similarity (a b : List Char) : Float :=
  let ratio := matchingRatio a b
  let raised := ratio + 0.1 * (sharedStart a b).toFloat * (1.0 - ratio)
  if raised ≤ 1.0 then raised else 1.0

/-- Of the words more similar than the bound, the most similar; of equals the last. -/
def mostSimilar? (bound : Float) (word : List Char) (candidates : List (List Char)) :
    Option (List Char) :=
  (candidates.foldl (fun best candidate =>
    let found := similarity word candidate
    if found ≤ bound then best
    else
      match best with
      | some (top, _) => if found < top then best else some (found, candidate)
      | none => some (found, candidate)) (none : Option (Float × List Char))).map (·.2)

end Duet.Text
