import MetricPipeline.Text.Quoted
import MetricPipeline.Json.Printer

/-!
Templates: texts with references to variables.

A reference is a dollar sign and a name of ASCII letters, digits and underscores, or a dollar sign and
any text in braces. A dollar sign without a name stands for itself. Templates are parsed once and
rendered against the variables of each request.
-/

namespace MetricPipeline

/-- Why a template could not be parsed or rendered. -/
inductive ResolveError where
  /-- A variable has no value. -/
  | unknownVariable (name : String)
  /-- A brace is not closed. -/
  | unterminated (source : String)
  /-- A failure of the host's own. -/
  | custom (text : String)
  deriving DecidableEq, Repr

/-- The wording of a failure. -/
def ResolveError.message : ResolveError → String
  | .unknownVariable name => "unknown variable: " ++ name
  | .unterminated source => "unterminated variable reference in " ++ Text.quoted source
  | .custom text => text

/-- A piece of a template. -/
inductive Segment where
  /-- Text that stands for itself. -/
  | literal (text : String)
  /-- A reference to a variable. -/
  | reference (name : String)
  deriving DecidableEq, Repr

/-- A parsed template. -/
structure Template where
  /-- The pieces in order. -/
  segments : List Segment
  deriving DecidableEq, Repr

/-- Request data: the value of each known variable. -/
abbrev Variables := String → Option String

namespace Variables

/-- Variables given as pairs; of two pairs with one name the later counts. -/
def ofPairs (pairs : List (String × String)) : Variables := fun name => pairs.reverse.lookup name

/-- Variables given as the fields of a JSON object. A null is unknown, a string is its own value and
anything else is its compact text. -/
def ofJson (fields : List (String × Json)) : Variables := fun name =>
  match Json.lookupLast name fields with
  | none | some .null => none
  | some (.string text) => some text
  | some other => some other.compact

end Variables

namespace Template

/-- A character of a name without braces. -/
def isNameChar (c : Char) : Bool := c.isAlphanum || c = '_'

/-- Where a scan of a template's source stands. Characters are listed last one first; the literal is
the text since the last reference. -/
inductive Position where
  /-- In text. -/
  | literal (text : List Char)
  /-- Right after a dollar sign. -/
  | dollar (text : List Char)
  /-- In a name without braces. -/
  | name (text : List Char) (read : List Char)
  /-- In a name between braces. -/
  | braced (text : List Char) (read : List Char)
  deriving DecidableEq, Repr

/-- The piece for a literal, last character first; an empty one gives none. -/
def literalSegment (text : List Char) : List Segment :=
  if text = [] then [] else [.literal (String.ofList text.reverse)]

/-- The pieces for a literal and the reference after it. -/
def referenceSegments (text name : List Char) : List Segment :=
  literalSegment text ++ [.reference (String.ofList name.reverse)]

/-- The pieces of the rest of a source; none when a brace is not closed. -/
def scan : Position → List Char → Option (List Segment)
  | .literal text, [] => some (literalSegment text)
  | .dollar text, [] => some (literalSegment ('$' :: text))
  | .name text read, [] => some (referenceSegments text read)
  | .braced _ _, [] => none
  | .literal text, c :: rest =>
    if c = '$' then scan (.dollar text) rest else scan (.literal (c :: text)) rest
  | .dollar text, c :: rest =>
    if c = '\x7b' then scan (.braced text []) rest
    else if isNameChar c then scan (.name text [c]) rest
    else if c = '$' then scan (.dollar ('$' :: text)) rest
    else scan (.literal (c :: '$' :: text)) rest
  | .name text read, c :: rest =>
    if isNameChar c then scan (.name text (c :: read)) rest
    else if c = '$' then (scan (.dollar []) rest).map (referenceSegments text read ++ ·)
    else (scan (.literal [c]) rest).map (referenceSegments text read ++ ·)
  | .braced text read, c :: rest =>
    if c = '\x7d' then
      if read = [] then scan (.literal ('$' :: text)) rest
      else (scan (.literal []) rest).map (referenceSegments text read ++ ·)
    else scan (.braced text (c :: read)) rest

/-- Parses the source of a template. -/
def parse (source : String) : Except ResolveError Template :=
  match scan (.literal []) source.toList with
  | some segments => .ok { segments }
  | none => .error (.unterminated source)

/-- The names of the variables a template refers to, in order. -/
def variableNames (template : Template) : List String :=
  template.segments.filterMap fun
    | .reference name => some name
    | .literal _ => none

/-- The text of one piece. An unknown variable is empty, or an error when strict. -/
def renderSegment (bindings : Variables) (strict : Bool) : Segment → Except ResolveError String
  | .literal text => .ok text
  | .reference name =>
    match bindings name with
    | some value => .ok value
    | none => if strict then .error (.unknownVariable name) else .ok ""

/-- The text of a list of pieces. -/
def renderSegments (bindings : Variables) (strict : Bool) :
    List Segment → Except ResolveError String
  | [] => .ok ""
  | segment :: rest => do
    let text ← renderSegment bindings strict segment
    let after ← renderSegments bindings strict rest
    return text ++ after

/-- The text of a template for given variables. -/
def render (template : Template) (bindings : Variables) (strict : Bool) :
    Except ResolveError String :=
  renderSegments bindings strict template.segments

end Template

/-- What a host supplies for loading definitions: how the source of a template is compiled, and
whether a variable can ever have a value. -/
structure TemplateLanguage (τ : Type) where
  /-- Compiles the source of a template. -/
  compile : String → Except ResolveError τ
  /-- Whether a variable can ever have a value. -/
  canExist : String → Bool

/-- How the built-in template language is set up. -/
structure Interpolator where
  /-- The variables that can exist; without a list any name can. -/
  known : Option (List String)
  /-- Whether an unknown variable is an error. -/
  strict : Bool
  deriving Repr, Inhabited

namespace Interpolator

/-- Whether a variable can ever have a value; dollar signs before its name do not matter. -/
def isKnown (interpolator : Interpolator) (name : String) : Bool :=
  let bare := String.ofList (name.toList.dropWhile (· = '$'))
  match interpolator.known with
  | some names => names.contains bare
  | none => bare ≠ ""

/-- The template language of an interpolator. -/
def language (interpolator : Interpolator) : TemplateLanguage Template :=
  { compile := Template.parse, canExist := interpolator.isKnown }

/-- Resolves templates against given variables. -/
def resolve (interpolator : Interpolator) (bindings : Variables) (template : Template) :
    Except ResolveError String :=
  template.render bindings interpolator.strict

end Interpolator

end MetricPipeline
