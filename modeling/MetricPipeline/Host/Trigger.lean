import MetricPipeline.Config.Reader
import MetricPipeline.Text.Blank

/-!
Triggers: what the host is told about one completed unit of work.

A trigger is a line with a JSON object. Its fields may be missing, and fields it does not know are
skipped, whatever they hold.
-/

namespace MetricPipeline

/-- A completed unit of work. -/
structure Trigger where
  /-- The site it concerns; all sites when there is none. -/
  site : Option String
  /-- The phase it belongs to. -/
  phase : Option String
  /-- The variables, as the fields of a JSON object. -/
  bindings : List (String × Json)

namespace Trigger

/-- The fields of an object all of whose parts have a value. -/
def fields? : Json → Option (List (String × Json))
  | .object fields => if (Json.object fields).sound then some fields else none
  | _ => none

/-- The trigger of a JSON value. -/
def ofJson? (json : Json) : Option Trigger := do
  match ← Json.record? ["site", "phase", "vars"] true json with
  | [site, phase, bindings] =>
    return {
      site := ← Json.orDefault none (Json.nullable? Json.text?) site
      phase := ← Json.orDefault none (Json.nullable? Json.text?) phase
      bindings := ← Json.orDefault [] fields? bindings }
  | _ => none

/-- The trigger of a line. -/
def read? (line : String) : Option Trigger := (Json.read? line).bind ofJson?

/-- A way to read triggers; why a line is none is told. -/
abbrev Reader := String → Except String Trigger

/-- Reads the trigger of a line. -/
def read : Reader := fun line =>
  match read? line with
  | some trigger => .ok trigger
  | none => .error "this is not a trigger"

end Trigger

/-! ## Lines -/

/-- A line that has been read. -/
inductive InputLine where
  /-- Its text, without the end of the line. -/
  | readable (text : String)
  /-- Its bytes are not UTF-8. -/
  | notUtf8
  deriving DecidableEq, Repr

namespace InputLine

/-- The byte that ends a line. -/
def newline : UInt8 := 10

/-- The byte that may stand before the end of a line. -/
def carriageReturn : UInt8 := 13

/-- The bytes of a line, given last one first, without a carriage return at their end. -/
def withoutReturn : List UInt8 → List UInt8
  | byte :: earlier => if byte = carriageReturn then earlier else byte :: earlier
  | [] => []

/-- The lines of bytes, given what has been read of the first one, last byte first. A line that is not
ended keeps a carriage return at its end. -/
def splitFrom (read : List UInt8) : List UInt8 → List (List UInt8)
  | [] => if read = [] then [] else [read.reverse]
  | byte :: rest =>
    if byte = newline then (withoutReturn read).reverse :: splitFrom [] rest
    else splitFrom (byte :: read) rest

/-- The line of bytes. -/
def ofBytes (bytes : List UInt8) : InputLine :=
  match String.fromUTF8? ⟨bytes.toArray⟩ with
  | some text => .readable text
  | none => .notUtf8

/-- The lines of an input. -/
def ofInput (input : List UInt8) : List InputLine := (splitFrom [] input).map ofBytes

/-- What follows the end of a line is split on its own. -/
theorem splitFrom_append (read first rest : List UInt8) :
    splitFrom read (first ++ newline :: rest) =
      splitFrom read (first ++ [newline]) ++ splitFrom [] rest := by
  induction first generalizing read with
  | nil => simp [splitFrom]
  | cons byte first ih =>
    simp only [List.cons_append, splitFrom]
    split
    · simp [ih]
    · exact ih _

/-- An input may be read line by line. -/
theorem ofInput_append (first rest : List UInt8) :
    ofInput (first ++ newline :: rest) = ofInput (first ++ [newline]) ++ ofInput rest := by
  rw [ofInput, splitFrom_append, List.map_append]
  rfl

end InputLine

end MetricPipeline
