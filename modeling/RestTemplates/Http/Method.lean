/-!
# Method — request methods

A method is a case-sensitive token.
-/

namespace RestTemplates

structure Method where
  token : String
  deriving DecidableEq, Repr

namespace Method

def get : Method := ⟨"GET"⟩

def head : Method := ⟨"HEAD"⟩

def post : Method := ⟨"POST"⟩

def put : Method := ⟨"PUT"⟩

def delete : Method := ⟨"DELETE"⟩

def options : Method := ⟨"OPTIONS"⟩

/-- May a request be sent again without a further effect? -/
def isIdempotent (m : Method) : Bool := [get, head, put, delete, options].contains m

end Method

end RestTemplates
