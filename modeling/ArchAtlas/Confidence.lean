/-!
Confidence scores: numbers between zero and one attached to what is derived.
-/

namespace ArchAtlas.Confidence

/-- An interface matched by method names. -/
def heuristic : Float := 1.0

/-- An interface matched by an oracle. -/
def oracle : Float := 0.99

/-- A field whose type is known. -/
def fieldUsage : Float := 0.9

/-- A call found in the body of a handler. -/
def directCall : Float := 0.7

/-- The nearest number between zero and one; what is no number stays as it is. -/
def clamp (x : Float) : Float :=
  let x := if x < 0 then 0 else x
  if 1 < x then 1 else x

/-- Whether a number lies between zero and one. -/
def isScore (x : Float) : Bool :=
  0 ≤ x && x ≤ 1

end ArchAtlas.Confidence
