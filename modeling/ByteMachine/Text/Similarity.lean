/-!
# Similarity of words

The Jaro similarity of two words `a` and `b` is the mean of `m / |a|`, `m / |b|` and
`(m - t) / m`, where `m` counts the characters that the words share near the same place and `t` is
half the number of those that come in another order. It decides whether a mistyped option is close
enough to a known one.
-/

namespace ByteMachine.Text

/-- How far from its own place a character is looked for in the other word. -/
def reach (a b : List Char) : Nat :=
  max a.length b.length / 2 - 1

/-- The first free place of `c` in `b` that is within reach of place `i`. -/
def partner? (b : List Char) (reach : Nat) (taken : List Nat) (c : Char) (i : Nat) : Option Nat :=
  (List.range b.length).find? fun j =>
    i ≤ j + reach && j ≤ i + reach && b[j]? == some c && !taken.contains j

/-- The places of `b` that the characters of `a` take from left to right, each with the character
that took it. -/
def sharing (a b : List Char) : List (Char × Nat) :=
  a.zipIdx.foldl (fun pairs (c, i) =>
    match partner? b (reach a b) (pairs.map Prod.snd) c i with
    | some j => pairs ++ [(c, j)]
    | none => pairs) []

/-- The characters of `b` in the places taken, in the order of `b`. -/
def sharedInOrder (b : List Char) (pairs : List (Char × Nat)) : List Char :=
  (b.zipIdx.filter fun (_, j) => (pairs.map Prod.snd).contains j).map Prod.fst

/-- The number of shared characters that come in another order in `b`. -/
def displaced (b : List Char) (pairs : List (Char × Nat)) : Nat :=
  ((pairs.map Prod.fst).zip (sharedInOrder b pairs)).countP fun (x, y) => x != y

/-- Whether the Jaro similarity is at least `7 / 10`, in whole numbers: both sides of the
comparison are multiplied by `30 · |a| · |b| · m`. -/
def areSimilar (a b : List Char) : Bool :=
  let pairs := sharing a b
  let m := pairs.length
  let t := displaced b pairs / 2
  m != 0 &&
    21 * (a.length * b.length * m) ≤
      10 * (m * m * b.length + m * m * a.length + (m - t) * (a.length * b.length))

end ByteMachine.Text
