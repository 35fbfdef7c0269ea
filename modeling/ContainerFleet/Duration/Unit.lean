/-!
The units that a written span of time may use. A month is a twelfth of a year, and a year has
365 days and a quarter.
-/

namespace ContainerFleet

inductive TimeUnit where
  | nanosecond
  | microsecond
  | millisecond
  | second
  | minute
  | hour
  | day
  | week
  | month
  | year
deriving DecidableEq, Repr

namespace TimeUnit

/-- How long a unit is: a number of nanoseconds, or a number of seconds. -/
inductive Length where
  | nanos (n : Nat)
  | secs (n : Nat)
deriving DecidableEq, Repr

def length : TimeUnit → Length
  | nanosecond => .nanos 1
  | microsecond => .nanos 1000
  | millisecond => .nanos 1000000
  | second => .secs 1
  | minute => .secs 60
  | hour => .secs 3600
  | day => .secs 86400
  | week => .secs 604800
  | month => .secs 2630016
  | year => .secs 31557600

/-- What the fraction of a term counts. Below the hour a fraction must come out in whole
nanoseconds, from the hour on in whole seconds; nanoseconds have no fraction. -/
def fractionLength? : TimeUnit → Option Length
  | nanosecond => none
  | microsecond => some (.nanos 1000)
  | millisecond => some (.nanos 1000000)
  | second => some (.nanos 1000000000)
  | minute => some (.nanos 60000000000)
  | unit => some unit.length

/-- The spellings of each unit; case matters. -/
def names : TimeUnit → List String
  | nanosecond => ["nanos", "nsec", "ns"]
  | microsecond => ["usec", "us", "µs"]
  | millisecond => ["millis", "msec", "ms"]
  | second => ["seconds", "second", "secs", "sec", "s"]
  | minute => ["minutes", "minute", "min", "mins", "m"]
  | hour => ["hours", "hour", "hrs", "hr", "h"]
  | day => ["days", "day", "d"]
  | week => ["weeks", "week", "wks", "wk", "w"]
  | month => ["months", "month", "M"]
  | year => ["years", "year", "yrs", "yr", "y"]

def all : List TimeUnit :=
  [nanosecond, microsecond, millisecond, second, minute, hour, day, week, month, year]

/-- The unit with this spelling. -/
def ofName? (name : List Char) : Option TimeUnit :=
  all.find? fun unit => unit.names.any fun spelling => spelling.toList == name

end TimeUnit

end ContainerFleet
