/-!
# Similar words

Two words are compared by the longest run of characters that they share, and by the runs that they
share before it and behind it.  The similarity is the part of all their characters that lies in such
runs.

* `similarTo` — the words of a list that come close to a word, the closest first
-/

namespace BusinessModel

/-- The length of the common beginning of two words. -/
def commonStart : List Char → List Char → Nat
  | a :: as, b :: bs => if a = b then commonStart as bs + 1 else 0
  | _, _ => 0

/-- A run of characters that two words share. -/
structure SharedRun where
  first : Nat
  second : Nat
  length : Nat

/-- The longest shared run; of several the one that begins first in the first word, and then in the
second. -/
def longestShared (a b : List Char) : SharedRun :=
  (List.range a.length).foldl
    (fun best i => (List.range b.length).foldl
      (fun best j =>
        let length := commonStart (a.drop i) (b.drop j)
        if best.length < length then ⟨i, j, length⟩ else best)
      best)
    ⟨0, 0, 0⟩

/-- How many characters lie in shared runs. -/
def sharedLength : Nat → List Char → List Char → Nat
  | 0, _, _ => 0
  | fuel + 1, a, b =>
    let run := longestShared a b
    if run.length = 0 then 0
    else
      sharedLength fuel (a.take run.first) (b.take run.second) + run.length +
        sharedLength fuel (a.drop (run.first + run.length)) (b.drop (run.second + run.length))

/-- The similarity of two words as a numerator over a denominator. -/
def similarity (a b : String) : Nat × Nat :=
  (2 * sharedLength (a.length + 1) a.toList b.toList, a.length + b.length)

/-- Whether one word with its similarity comes before another one. -/
def isCloser (x y : (Nat × Nat) × String) : Bool :=
  let left := x.1.1 * y.1.2
  let right := y.1.1 * x.1.2
  right < left || (left == right && decide (y.2 ≤ x.2))

/-- The words, at most three, that share at least three fifths with a word. -/
def similarTo (word : String) (words : List String) : List String :=
  let rated := words.map fun other => (similarity other word, other)
  let close := rated.filter fun r => 3 * r.1.2 ≤ 5 * r.1.1
  ((close.mergeSort isCloser).map (·.2)).take 3

end BusinessModel
