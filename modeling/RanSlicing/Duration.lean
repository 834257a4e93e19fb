/-!
# Durations

Time is counted in whole milliseconds. The text of a duration takes the largest unit that leaves a
whole part, and drops the zeros at the end of its fraction.
-/

namespace RanSlicing

/-- A number of milliseconds. -/
abbrev Millis := Nat

/-- The text of a duration: `0ns`, `15ms`, `1.5s`, `60s`. -/
def Millis.text (ms : Millis) : String :=
  if ms = 0 then "0ns"
  else if ms < 1000 then toString ms ++ "ms"
  else
    let fraction := ms % 1000
    let digits := (Nat.toDigits 10 (1000 + fraction)).drop 1
    let kept := (digits.reverse.dropWhile (· = '0')).reverse
    let tail := if kept.isEmpty then "" else "." ++ String.ofList kept
    toString (ms / 1000) ++ tail ++ "s"

end RanSlicing
