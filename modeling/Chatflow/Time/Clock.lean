import Chatflow.Decimal.Amount
import Chatflow.Decimal.Notation
import Chatflow.Decimal.Reading
import Chatflow.Time.Instant

/-! Clocks that count seconds. What is kept for a while compares the readings of a clock; the service reads
seconds since the beginning of 1970 as floating-point numbers, which tell the present time to a fraction of a
microsecond only and are rounded with every step. -/

namespace Chatflow

/-- How readings of a clock are compared and written down. -/
class Clock (τ : Type) where
  /-- The reading at the beginning of 1970. -/
  start : τ
  /-- The reading so many seconds after another. -/
  after : τ → Amount → τ
  /-- Whether a time is reached by now. -/
  reached (time now : τ) : Bool
  /-- Whether so many seconds have passed from a time until now. -/
  passed (time now : τ) (seconds : Amount) : Bool
  write : τ → String
  read? : String → Option τ

/-- A reading of the service's clock. -/
abbrev Reading := Float

instance : Clock Reading where
  start := 0.0
  after time seconds := time + seconds.toFloat
  reached time now := time ≤ now
  passed time now seconds := seconds.spannedBy (now - time)
  write := Decimal.write Decimal.shown
  read? text := Decimal.readAnyNumber text.toList

def Instant.reading (t : Instant) : Reading :=
  let x := Decimal.ofScientific t.micros.natAbs (-6)
  if t.micros < 0 then -x else x

end Chatflow
