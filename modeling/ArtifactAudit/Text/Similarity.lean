/-!
# Similar texts

Two texts are compared by their common stretches: the longest one, then the
longest to the left and to the right of it, and so on. Their similarity is twice
the number of characters in these stretches as a share of the characters of both
texts. It serves to guess which word was meant.
-/

set_option autoImplicit false

namespace ArtifactAudit.Text

/-- The length of the common beginning of two lists. -/
def commonLength : List Char → List Char → Nat
  | a :: as, b :: bs => if a = b then commonLength as bs + 1 else 0
  | _, _ => 0

/-- A common stretch of two lists: where it begins in each, and its length. -/
structure Stretch where
  /-- Where it begins in the first list. -/
  first : Nat
  /-- Where it begins in the second list. -/
  second : Nat
  /-- How long it is. -/
  length : Nat

/-- The longest common stretch. Of several it is the one that begins earliest in
the first list and, of those, earliest in the second. -/
def longestStretch (a b : List Char) : Stretch :=
  (List.range a.length).foldl
    (fun best i =>
      (List.range b.length).foldl
        (fun best j =>
          let length := commonLength (a.drop i) (b.drop j)
          if best.length < length then ⟨i, j, length⟩ else best)
        best)
    ⟨0, 0, 0⟩

/-- The number of characters in the common stretches, found one inside the other
at most `depth` times. -/
def commonCharacters : (depth : Nat) → List Char → List Char → Nat
  | 0, _, _ => 0
  | depth + 1, a, b =>
    let best := longestStretch a b
    if best.length = 0 then 0
    else
      best.length + commonCharacters depth (a.take best.first) (b.take best.second) +
        commonCharacters depth (a.drop (best.first + best.length))
          (b.drop (best.second + best.length))

/-- How similar two texts are: a numerator and a denominator. -/
def similarity (a b : List Char) : Nat × Nat :=
  (2 * commonCharacters (a.length + 1) a b, a.length + b.length)

/-- Whether two texts are similar enough for a guess: three fifths or more. -/
def isSimilar (a b : List Char) : Bool :=
  let (numerator, denominator) := similarity a b
  3 * denominator ≤ 5 * numerator

/-- Whether the first word is a better guess for `text` than the second; of equal
guesses it is the later one in the order of texts. -/
def isBetterGuess (text first second : String) : Bool :=
  let (n, d) := similarity first.toList text.toList
  let (n', d') := similarity second.toList text.toList
  n' * d < n * d' || (n' * d == n * d' && second ≤ first)

/-- The words most similar to a text, the best guess first, three at most. -/
def guesses (text : String) (words : List String) : List String :=
  let similar := words.filter fun word => isSimilar word.toList text.toList
  (similar.mergeSort (isBetterGuess text)).take 3

end ArtifactAudit.Text
