/-!
# Duration — lengths of time and timeouts

This file defines:

* `Duration`, in nanoseconds, and its text in the greatest unit that fits,
* `TimeoutOverride`, what a request says about its timeout.
-/

namespace RestTemplates

structure Duration where
  nanoseconds : Nat
  deriving DecidableEq, Repr

namespace Duration

def ofParts (seconds nanoseconds : Nat) : Duration := ⟨seconds * 1000000000 + nanoseconds⟩

def ofMilliseconds (n : Nat) : Duration := ⟨n * 1000000⟩

def seconds (d : Duration) : Nat := d.nanoseconds / 1000000000

/-- The nanoseconds beyond the whole seconds. -/
def subsecond (d : Duration) : Nat := d.nanoseconds % 1000000000

/-- The whole milliseconds. -/
def milliseconds (d : Duration) : Nat := d.nanoseconds / 1000000

/-- A fraction with this many digits, without the zeros at its end. -/
def fractionText (n width : Nat) : String :=
  let digits := Nat.toDigits 10 n
  let padded := List.replicate (width - digits.length) '0' ++ digits
  let kept := (padded.reverse.dropWhile (· = '0')).reverse
  if kept = [] then "" else String.ofList ('.' :: kept)

/-- A number of units of `10 ^ width` nanoseconds. -/
def unitText (d : Duration) (width : Nat) (unit : String) : String :=
  let size := Nat.pow 10 width
  toString (d.nanoseconds / size) ++ fractionText (d.nanoseconds % size) width ++ unit

def text (d : Duration) : String :=
  if d.nanoseconds ≥ 1000000000 then d.unitText 9 "s"
  else if d.nanoseconds ≥ 1000000 then d.unitText 6 "ms"
  else if d.nanoseconds ≥ 1000 then d.unitText 3 "µs"
  else toString d.nanoseconds ++ "ns"

end Duration

inductive TimeoutOverride
  /-- The timeout of the client. -/
  | inherit
  /-- No timeout. -/
  | clear
  | set (d : Duration)
  deriving DecidableEq, Repr

/-- The timeout of a request of a client with the given one. -/
def TimeoutOverride.apply (t : TimeoutOverride) (inherited : Option Duration) : Option Duration :=
  match t with
  | .inherit => inherited
  | .clear => none
  | .set d => some d

end RestTemplates
