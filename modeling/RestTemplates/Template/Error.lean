import RestTemplates.Text.Quoted

/-!
# Template errors — why a URL template is refused or cannot be rendered

This file defines the causes and, for each of them, the one text in which it is reported:

* `PathFault`, `QueryFault` and `ParameterFault`, the reasons,
* `TemplateError`, a reason with the text it speaks of,
* `ResolutionError`, an error together with the whole template.
-/

namespace RestTemplates

/-! ## Reasons -/

/-- Why a path is no template. -/
inductive PathFault
  /-- A `{` without its `}`. -/
  | unterminatedPlaceholder
  /-- A `{` directly followed by `}`. -/
  | emptyPlaceholder
  /-- A `{` inside a placeholder. -/
  | nestedBrace
  /-- A `}` outside every placeholder. -/
  | unmatchedClosingBrace
  /-- A second placeholder of the same name. -/
  | duplicateName (name : String)
  deriving DecidableEq, Repr

def PathFault.message : PathFault → String
  | .unterminatedPlaceholder => "unterminated placeholder"
  | .emptyPlaceholder => "empty placeholder name"
  | .nestedBrace => "'\x7b' inside a placeholder"
  | .unmatchedClosingBrace => "'\x7d' without matching '\x7b'"
  | .duplicateName name => "duplicate placeholder '" ++ name ++ "'"

/-- Why a text is no query. -/
inductive QueryFault
  /-- A `%` that is not followed by two hexadecimal digits. -/
  | invalidEscape
  /-- Escapes that stand for bytes outside UTF-8. -/
  | invalidUtf8
  deriving DecidableEq, Repr

def QueryFault.message : QueryFault → String
  | .invalidEscape => "invalid percent escape"
  | .invalidUtf8 => "escapes do not decode to UTF-8"

/-- Why a value cannot take the place of a placeholder. -/
inductive ParameterFault
  /-- The values `.` and `..`, which would move within the path. -/
  | dotSegment
  deriving DecidableEq, Repr

def ParameterFault.message : ParameterFault → String
  | .dotSegment => "value is a dot segment"

/-! ## Errors -/

inductive TemplateError
  /-- The offset counts the bytes of the path before the offending brace. -/
  | malformedTemplate (template : String) (offset : Nat) (fault : PathFault)
  | malformedQuery (query : String) (fault : QueryFault)
  | missingParameter (name : String)
  | invalidParameter (name : String) (fault : ParameterFault)
  deriving DecidableEq, Repr

namespace TemplateError

def message : TemplateError → String
  | .malformedTemplate template offset fault =>
    "malformed template " ++ Quoted.quote template ++ ": " ++ fault.message ++
      " (byte " ++ toString offset ++ ")"
  | .malformedQuery query fault =>
    "malformed query " ++ Quoted.quote query ++ ": " ++ fault.message
  | .missingParameter name => "missing parameter: " ++ name
  | .invalidParameter name fault => "invalid parameter " ++ name ++ ": " ++ fault.message

def isMalformedTemplate : TemplateError → Bool
  | .malformedTemplate .. => true
  | _ => false

def isMalformedQuery : TemplateError → Bool
  | .malformedQuery .. => true
  | _ => false

/-- The name of an unbound placeholder. -/
def missingParameter? : TemplateError → Option String
  | .missingParameter name => some name
  | _ => none

/-- The name of a placeholder whose value was refused. -/
def invalidParameter? : TemplateError → Option String
  | .invalidParameter name _ => some name
  | _ => none

end TemplateError

/-- An error with the whole template in which it arose. -/
structure ResolutionError where
  template : String
  source : TemplateError
  deriving DecidableEq, Repr

def ResolutionError.message (e : ResolutionError) : String :=
  "cannot resolve " ++ Quoted.quote e.template ++ ": " ++ e.source.message

end RestTemplates
