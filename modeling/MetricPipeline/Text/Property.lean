/-!
Character properties given as lists of boundaries.

A property of characters is true on runs of neighbouring code points. It is written down as the
ascending code points at which it changes, starting from "false" below the first one, so a code
point has the property exactly when an odd number of boundaries lie at or below it.
-/

namespace MetricPipeline.Text

/-- Whether a code point has the property that changes at the given boundaries. -/
def holdsBetween (boundaries : List Nat) (code : Nat) : Bool :=
  (boundaries.takeWhile (· ≤ code)).length % 2 == 1

end MetricPipeline.Text
