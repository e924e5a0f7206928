/-!
# Runs of code points

A property of characters is given by runs of code points, one or two apart, that
have it. Two apart are, for instance, the small letters of a script that lists
every capital before its small letter. Most letters move by a constant to their
other case, within such a run.
-/

set_option autoImplicit false

namespace ArtifactAudit.Text

/-- A run of code points `step` apart. -/
structure CodeRun where
  /-- The first code point. -/
  first : Nat
  /-- The last code point. -/
  last : Nat
  /-- The distance between neighbours. -/
  step : Nat
  deriving DecidableEq, Repr

/-- Whether a code point belongs to the run. -/
def CodeRun.covers (run : CodeRun) (code : Nat) : Bool :=
  run.first ≤ code && code ≤ run.last && (code - run.first) % run.step == 0

/-- Whether a character belongs to one of the runs. -/
def isIn (runs : List CodeRun) (c : Char) : Bool :=
  runs.any (·.covers c.toNat)

/-- A run of letters `step` apart whose forms in the other case all lie the same
distance away. -/
structure CaseRun where
  /-- The first letter of the run. -/
  first : Nat
  /-- The last letter of the run. -/
  last : Nat
  /-- The distance between neighbours of the run. -/
  step : Nat
  /-- What is added to reach the other case. -/
  offset : Int

/-- Whether the code point belongs to the run. -/
def CaseRun.covers (run : CaseRun) (code : Nat) : Bool :=
  run.first ≤ code && code ≤ run.last && (code - run.first) % run.step == 0

end ArtifactAudit.Text
