/-!
# Durations

Durations are counted in milliseconds. From one second on they are written in seconds, with up to
three decimals and no zeros at the end; shorter ones are written in milliseconds, and none at all
as zero nanoseconds.
-/

namespace ContentEngine

/-- The digits of a number below 1000 as three decimals, without zeros at the end. -/
def decimalsText (n : Nat) : String :=
  let digits := toString n
  let padded := List.replicate (3 - digits.length) '0' ++ digits.toList
  String.ofList ((padded.reverse.dropWhile (· = '0')).reverse)

/-- The text of a duration. -/
def durationText (millis : Nat) : String :=
  if millis = 0 then "0ns"
  else if millis < 1000 then toString millis ++ "ms"
  else if millis % 1000 = 0 then toString (millis / 1000) ++ "s"
  else toString (millis / 1000) ++ "." ++ decimalsText (millis % 1000) ++ "s"

end ContentEngine
