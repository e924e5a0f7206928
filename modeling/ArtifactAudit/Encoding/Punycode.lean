import ArtifactAudit.Text.Cut

/-!
# Punycode

The encoding of RFC 3492 writes any text in lower-case ASCII letters, digits and
hyphens. The ASCII characters stand in front. Behind a hyphen follow the other
characters in ascending order, each as the distance to the one before: the steps
that a counter takes through all places of all characters. A distance is written
in digits to the base 36 whose first one is the least; a threshold per digit,
which adapts to the distances seen so far, marks the last one.
-/

set_option autoImplicit false

namespace ArtifactAudit.Punycode

/-! ## Digits -/

/-- The character for a digit: a letter up to 25, then a decimal digit. -/
def digitChar (digit : Nat) : Char :=
  if digit < 26 then Char.ofNat (0x61 + digit) else Char.ofNat (0x30 + (digit - 26))

/-- The digit that a character stands for. -/
def digitOf? (c : Char) : Option Nat :=
  if 'a' ≤ c ∧ c ≤ 'z' then some (c.toNat - 0x61)
  else if 'A' ≤ c ∧ c ≤ 'Z' then some (c.toNat - 0x41)
  else if '0' ≤ c ∧ c ≤ '9' then some (c.toNat - 0x30 + 26)
  else none

/-- The least digit at a position that is not the last one. Positions are counted
in steps of 36. -/
def threshold (bias position : Nat) : Nat :=
  max 1 (min 26 (position - bias))

theorem threshold_pos (bias position : Nat) : 1 ≤ threshold bias position :=
  Nat.le_max_left _ _

theorem threshold_le (bias position : Nat) : threshold bias position ≤ 26 :=
  Nat.max_le.2 ⟨by omega, Nat.min_le_left _ _⟩

/-- The bias that suits a distance of this size. -/
def biasFor (distance : Nat) (steps : Nat) : Nat :=
  if 455 < distance then biasFor (distance / 35) (steps + 36)
  else steps + 36 * distance / (distance + 38)
termination_by distance
decreasing_by exact Nat.div_lt_self (by omega) (by omega)

/-- The bias after a distance, when the text has grown to `length` characters. -/
def adapt (distance length : Nat) (isFirst : Bool) : Nat :=
  let scaled := if isFirst then distance / 700 else distance / 2
  biasFor (scaled + scaled / length) 0

/-- The bias in front of the first distance. -/
def firstBias : Nat := 72

/-! ## Writing -/

/-- The digits of a distance from a position on. -/
def distanceDigits (bias position distance : Nat) : List Char :=
  let least := threshold bias position
  if distance < least then [digitChar distance]
  else
    digitChar (least + (distance - least) % (36 - least)) ::
      distanceDigits bias (position + 36) ((distance - least) / (36 - least))
termination_by distance
decreasing_by
  have atLeast := threshold_pos bias position
  have atMost := threshold_le bias position
  exact Nat.lt_of_le_of_lt (Nat.div_le_self _ _) (by omega)

/-- What has been written, and where the counter is. -/
structure Progress where
  /-- The digits written so far. -/
  written : List Char
  /-- The steps since the last character. -/
  distance : Nat
  bias : Nat
  /-- How many characters have been written, those of ASCII included. -/
  length : Nat

/-- Passes one place of the text while the counter is at the character `code`. -/
def Progress.pass (basicLength code : Nat) (progress : Progress) (c : Char) : Progress :=
  if c.toNat < code then { progress with distance := progress.distance + 1 }
  else if c.toNat = code then
    { written := progress.written ++ distanceDigits progress.bias 36 progress.distance
      distance := 0
      bias := adapt progress.distance (progress.length + 1) (progress.length == basicLength)
      length := progress.length + 1 }
  else progress

/-- Writes the characters with the given code points, from the point `reached`
on. -/
def writeFrom (s : List Char) (basicLength reached : Nat) (progress : Progress) :
    List Nat → List Char
  | [] => progress.written
  | code :: rest =>
    let start :=
      { progress with
        distance := progress.distance + (code - reached) * (progress.length + 1) }
    let passed := s.foldl (Progress.pass basicLength code) start
    writeFrom s basicLength (code + 1) { passed with distance := passed.distance + 1 } rest

/-- The encoding of a text. -/
def encode (s : List Char) : List Char :=
  let basic := s.filter (·.toNat < 0x80)
  let others := ((s.filter (0x80 ≤ ·.toNat)).map Char.toNat).eraseDups.mergeSort
  (if basic.isEmpty then [] else basic ++ ['-']) ++
    writeFrom s basic.length 0x80 ⟨[], 0, firstBias, basic.length⟩ others

/-! ## Reading -/

/-- Reads a distance: the digits up to the last one, weighted, and what is left of
the text. -/
def readDistance? (bias : Nat) :
    List Char → (position weight sum : Nat) → Option (Nat × List Char)
  | [], _, _, _ => none
  | c :: rest, position, weight, sum =>
    (digitOf? c).bind fun digit =>
      let least := threshold bias position
      if digit < least then some (sum + digit * weight, rest)
      else readDistance? bias rest (position + 36) (weight * (36 - least)) (sum + digit * weight)

/-- Reads distances and puts their characters into the text. Every distance takes
a digit, so there are no more of them than digits. -/
def readFrom? (bias reached place : Nat) (isFirst : Bool) (s : List Char) :
    (fuel : Nat) → List Char → Option (List Char)
  | _, [] => some s
  | 0, _ => none
  | fuel + 1, digits =>
    (readDistance? bias digits 36 1 0).bind fun (distance, rest) =>
      let length := s.length + 1
      let code := reached + (place + distance) / length
      let index := (place + distance) % length
      if code.isValidChar then
        readFrom? (adapt distance length isFirst) code (index + 1) false
          (s.take index ++ Char.ofNat code :: s.drop index) fuel rest
      else none

/-- The text that an encoding denotes. -/
def decode? (s : List Char) : Option (List Char) :=
  let digits := Text.afterLast '-' s
  readFrom? firstBias 0x80 0 true ((Text.beforeLast? '-' s).getD []) digits.length digits

end ArtifactAudit.Punycode
