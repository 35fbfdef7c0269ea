import ContainerFleet.Duration.Basic

/-!
Moments on the line of time, for clocks, timers and the age of containers.
-/

namespace ContainerFleet

/-- Nanoseconds since 1970 in universal time. -/
abbrev Moment : Type := Int

namespace Moment

/-- From this many seconds on a wait is too long for a timer, and is cut. The library of timers cuts
a wait when its clock has no number for the end, so its limit is lower the later the clock is; 2^63
seconds is that of a clock at zero, and stands for it whatever the clock reads. -/
def timerLimit : Nat := 9223372036854775808

/-- How long a wait lasts that is too long for a timer: thirty years. -/
def longestWait : Nat := 30 * 365 * 86400 * 1000000000

/-- When a wait of this length is over. Only its length decides whether it is cut, not the start. -/
def after (start : Moment) (wait : Duration) : Moment :=
  if wait.secs < timerLimit then start + wait.inNanos else start + longestWait

/-- The time from a moment to a later one; none when it lies in the future. -/
def elapsed? (since now : Moment) : Option Duration :=
  if since ≤ now then Duration.ofParts? 0 (now - since).toNat else none

end Moment

end ContainerFleet
