import PageLoad.Number.Double

/-!
Lengths of time, counted in nanoseconds, and numbers of seconds.
-/

namespace PageLoad.Number

def nanosecondsPerSecond : Nat := 1000000000

def addSeconds : Double → Double → Double
  | .finite _ whole, .finite _ part => Double.addMagnitudes whole part
  | whole, _ => whole

/-- The number of seconds in a length of time. The whole seconds and the rest are rounded by
themselves before they are added. -/
def secondsOf (nanoseconds : Nat) : Double :=
  addSeconds (Double.ofQuotient false (nanoseconds / nanosecondsPerSecond) 1)
    (Double.ofQuotient false (nanoseconds % nanosecondsPerSecond) nanosecondsPerSecond)

/-- The length of time that is nearest to a number of seconds. Numbers below zero or from 2⁶⁴
have none. -/
def nanosecondsOf? : Double → Option Nat
  | .nan | .infinite _ => none
  | .finite negative units =>
    if (negative && units ≠ 0) || UInt64.size * unitsPerOne ≤ units then none
    else some (nearest (units * nanosecondsPerSecond) unitsPerOne)

end PageLoad.Number
