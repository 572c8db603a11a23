/-
ReleaseKit.Duration — how long a run took.

A duration is whole seconds and nanoseconds below one second. It is shown in
seconds with one decimal: first as the binary floating point sum of its two
parts, then that number's exact value rounded, a tie to the even digit.
-/
import ReleaseKit.Number.Decimal

namespace ReleaseKit

structure Duration where
  seconds : Nat
  nanoseconds : Nat
deriving DecidableEq, Repr

namespace Duration

/-- A duration of so many seconds and nanoseconds, which may be more than a
second's. -/
def ofParts (seconds nanoseconds : Nat) : Duration :=
  ⟨seconds + nanoseconds / 1000000000, nanoseconds % 1000000000⟩

/-- The duration in seconds. -/
def inSeconds (d : Duration) : Binary64 :=
  (Binary64.ofNat d.seconds).add
    ((Binary64.ofNat d.nanoseconds).div (Binary64.ofNat 1000000000))

/-- Whole milliseconds. -/
def inMilliseconds (d : Duration) : Nat := d.seconds * 1000 + d.nanoseconds / 1000000

/-- Seconds with one decimal. -/
def text (d : Duration) : String := d.inSeconds.oneDecimalText ++ "s"

end Duration

end ReleaseKit
