/-!
# Debug levels — how much is shown of an exchange

The levels are ranked, and each one shows all that those below it show.
-/

namespace RestTemplates

inductive DebugLevel
  | none
  /-- The start of a request and the status of its response. -/
  | verbose
  /-- Headers and bodies as well. -/
  | veryVerbose
  deriving DecidableEq, Repr, Inhabited

namespace DebugLevel

def text : DebugLevel → String
  | .none => "none"
  | .verbose => "v"
  | .veryVerbose => "vv"

def rank : DebugLevel → Nat
  | .none => 0
  | .verbose => 1
  | .veryVerbose => 2

/-- Does the level show what another one shows? -/
def shows (level detail : DebugLevel) : Bool := detail.rank ≤ level.rank

def isEnabled (level : DebugLevel) : Bool := level ≠ .none

def isVerbose (level : DebugLevel) : Bool := level.shows .verbose

def isVeryVerbose (level : DebugLevel) : Bool := level.shows .veryVerbose

end DebugLevel

end RestTemplates
