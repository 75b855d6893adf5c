import RestTemplates.Dictionary
import RestTemplates.Percent
import RestTemplates.Template.Error

/-!
# Path templates — literals and placeholders

A path template such as `/users/{id}/files` is a list of segments: literal text, and placeholders
given by a name in braces.  Braces stand in a template only around names, every name is used once,
and two literals never stand side by side.

This file defines:

* `PathTemplate` with its index of names,
* `PathTemplate.compile`, which reads a template or says where it is malformed,
* `PathTemplate.text`, the text of a template, and `PathTemplate.render`, its text with values in
  the places of the placeholders.
-/

namespace RestTemplates

inductive Segment
  | literal (text : String)
  | placeholder (name : String)
  deriving DecidableEq, Repr

namespace Segment

/-- The literal text, or the bare name. -/
def label : Segment → String
  | .literal text => text
  | .placeholder name => name

/-- The segment as it stands in a template. -/
def text : Segment → String
  | .literal text => text
  | .placeholder name => "\x7b" ++ name ++ "\x7d"

def name? : Segment → Option String
  | .literal _ => none
  | .placeholder name => some name

end Segment

/-- A compiled path: its segments, and for each placeholder name its place among them. -/
structure PathTemplate where
  segments : List Segment
  names : Dictionary Nat
  deriving DecidableEq

/-- The values bound to placeholder names. -/
abbrev PathParams := Dictionary String

namespace PathTemplate

/-! ## Views -/

def empty : PathTemplate := ⟨[], .empty⟩

instance : Inhabited PathTemplate := ⟨empty⟩

/-- The place of a placeholder among the segments. -/
def position? (t : PathTemplate) (name : String) : Option Nat := t.names.find? name

/-- The names of the placeholders in the order of the text. -/
def placeholders (t : PathTemplate) : List String := t.segments.filterMap Segment.name?

def isStatic (t : PathTemplate) : Bool := t.names.isEmpty

/-- The text that compiles to the template. -/
def text (t : PathTemplate) : String := String.join (t.segments.map Segment.text)

/-! ## Compiling -/

def addLiteral (t : PathTemplate) (text : String) : PathTemplate :=
  { t with segments := t.segments ++ [.literal text] }

def addPlaceholder (t : PathTemplate) (name : String) : PathTemplate :=
  { segments := t.segments ++ [.placeholder name]
    names := t.names.insert name t.segments.length }

def isBrace (c : Char) : Bool := c = '\x7b' || c = '\x7d'

/-- The longest brace-free text at the front, and the rest. -/
def spanPlain (cs : List Char) : List Char × List Char :=
  (cs.takeWhile fun c => !isBrace c, cs.dropWhile fun c => !isBrace c)

/-- The number of bytes of a text. -/
def byteLength : List Char → Nat
  | [] => 0
  | c :: rest => c.utf8Size + byteLength rest

theorem length_spanPlain_le (cs : List Char) : (spanPlain cs).2.length ≤ cs.length :=
  (List.dropWhile_sublist _).length_le

theorem length_spanPlain_lt {c : Char} (h : isBrace c = false) (cs : List Char) :
    (spanPlain (c :: cs)).2.length < (c :: cs).length := by
  simp only [spanPlain, List.dropWhile_cons, h, Bool.not_false, if_true, List.length_cons]
  exact Nat.lt_succ_of_le (length_spanPlain_le cs)

/-- Reads the text from an offset on, after the segments already read. -/
def scan (offset : Nat) (t : PathTemplate) (cs : List Char) :
    Except (Nat × PathFault) PathTemplate :=
  match cs with
  | [] => .ok t
  | c :: rest =>
    if c = '\x7d' then .error (offset, .unmatchedClosingBrace)
    else if c = '\x7b' then
      let name := (spanPlain rest).1
      let stop := offset + 1 + byteLength name
      match hrest : (spanPlain rest).2 with
      | [] => .error (offset, .unterminatedPlaceholder)
      | brace :: after =>
        if brace = '\x7b' then .error (stop, .nestedBrace)
        else if name = [] then .error (offset, .emptyPlaceholder)
        else if t.names.contains (String.ofList name) then
          .error (offset, .duplicateName (String.ofList name))
        else scan (stop + 1) (t.addPlaceholder (String.ofList name)) after
    else
      let plain := (spanPlain (c :: rest)).1
      scan (offset + byteLength plain) (t.addLiteral (String.ofList plain))
        (spanPlain (c :: rest)).2
termination_by cs.length
decreasing_by
  · have hle := length_spanPlain_le rest
    rw [hrest] at hle
    simp only [List.length_cons] at hle ⊢
    omega
  · exact length_spanPlain_lt (by simp_all [isBrace]) rest

/-- Reads a template; the empty text is one empty literal. -/
def compile (raw : String) : Except TemplateError PathTemplate :=
  match scan 0 empty raw.toList with
  | .ok t => .ok (if t.segments.isEmpty then t.addLiteral "" else t)
  | .error (offset, fault) => .error (.malformedTemplate raw offset fault)

/-! ## Rendering -/

def isDotSegment (value : String) : Bool := value = "." || value = ".."

/-- A value as part of one path segment: every byte that is not unreserved is escaped. -/
def encodeValue (value : String) : String :=
  String.ofList (Percent.encode Percent.isUnreserved (Utf8.encode value))

/-- A segment with its value in place.  Dot segments are refused because no escape keeps them from
being read as a move within the path. -/
def renderSegment (params : PathParams) : Segment → Except TemplateError String
  | .literal text => .ok text
  | .placeholder name =>
    match params.find? name with
    | none => .error (.missingParameter name)
    | some value =>
      if isDotSegment value then .error (.invalidParameter name .dotSegment)
      else .ok (encodeValue value)

/-- The path with every placeholder replaced by its value; the first failing one decides. -/
def render (t : PathTemplate) (params : PathParams) : Except TemplateError String :=
  (t.segments.mapM (renderSegment params)).map String.join

end PathTemplate

end RestTemplates
