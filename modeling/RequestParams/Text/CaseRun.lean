/-!
# Runs of case mappings

Case mappings come in runs: neighbouring letters, or every second one, that all lie at the same
distance from their images.
-/

namespace RequestParams.Text

/-- A run of code points mapped at a constant distance. -/
structure CaseRun where
  /-- First code point of the run. -/
  first : Nat
  /-- Last code point of the run. -/
  last : Nat
  /-- Distance between neighbouring code points of the run. -/
  stride : Nat
  /-- Image of the first code point. -/
  image : Nat

namespace CaseRun

/-- The image of a code point of the run. -/
def map? (r : CaseRun) (n : Nat) : Option Nat :=
  if r.first ≤ n && n ≤ r.last && (n - r.first) % r.stride == 0 then
    some (r.image + (n - r.first))
  else
    none

/-- The code point of the run with this image. -/
def preimage? (r : CaseRun) (n : Nat) : Option Nat :=
  let candidate := n - r.image + r.first
  if r.image ≤ n && r.map? candidate == some n then some candidate else none

end CaseRun

end RequestParams.Text
