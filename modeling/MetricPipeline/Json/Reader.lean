import MetricPipeline.Json.Token

/-!
Reading a JSON text.

The lexemes drive a machine whose stack holds the arrays and objects that are still open, so the
depth of a text is the height of that stack. `Json.read?` accepts the texts of the grammar;
`Json.parse?` accepts those of them in which every part has a value.
-/

namespace MetricPipeline.Json

/-- An array or object that is still open, its parts last one first. -/
inductive Frame where
  /-- An array and the items it has so far. -/
  | array (items : List Json)
  /-- An object, the fields it has so far, and the name of the field being read. A name that holds
  half of a surrogate pair is missing. -/
  | object (fields : List (Option String × Json)) (name : Option String)
  deriving Repr, Inhabited

/-- What the machine waits for. -/
inductive Expectation where
  /-- A value. -/
  | value
  /-- A value, or the end of the array that has just been opened. -/
  | firstItem
  /-- A field, or the end of the object that has just been opened. -/
  | firstField
  /-- The name of a field. -/
  | fieldName
  /-- The colon after the name of a field. -/
  | colon
  /-- A comma or the end of what is open. -/
  | separator
  /-- The end of the text. -/
  | finish
  deriving DecidableEq, Repr, Inhabited

/-- The state of the machine. -/
structure Machine where
  /-- What is open, the innermost first. -/
  stack : List Frame
  /-- What may come next. -/
  expecting : Expectation
  /-- The value of the text, once it is complete. -/
  result : Option Json
  deriving Repr, Inhabited

/-- How many arrays and objects may be open at once. -/
def depthLimit : Nat := 127

namespace Machine

/-- The machine before the first lexeme. -/
def initial : Machine := { stack := [], expecting := .value, result := none }

/-- A complete value goes into the innermost open frame, or is the value of the text. -/
def complete (machine : Machine) (value : Json) : Machine :=
  match machine.stack with
  | [] => { machine with expecting := .finish, result := some value }
  | .array items :: rest =>
    { machine with stack := .array (value :: items) :: rest, expecting := .separator }
  | .object fields name :: rest =>
    { machine with
      stack := .object ((name, value) :: fields) none :: rest
      expecting := .separator }

/-- The object of fields, last one first; one whose names are not all there has no value. -/
def objectOf (fields : List (Option String × Json)) : Json :=
  match fields.reverse.mapM fun (name, value) => name.map fun name => (name, value) with
  | some fields => .object fields
  | none => .flawed

/-- A value of an array or object that is closed while the given frames stay open around it. -/
def closed (outer : List Frame) (value : Json) : Json :=
  if outer.length < depthLimit then value else .flawed

/-- Whether a value may come next. -/
def takesValue (machine : Machine) : Bool :=
  machine.expecting = .value || machine.expecting = .firstItem

/-- The machine after one lexeme; none when the lexeme may not stand there. -/
def step? (machine : Machine) (token : Token) : Option Machine :=
  match token with
  | .openArray =>
    if machine.takesValue then
      some { machine with stack := .array [] :: machine.stack, expecting := .firstItem }
    else none
  | .openObject =>
    if machine.takesValue then
      some { machine with stack := .object [] none :: machine.stack, expecting := .firstField }
    else none
  | .closeArray =>
    match machine.stack, machine.expecting with
    | .array items :: rest, .firstItem | .array items :: rest, .separator =>
      some (({ machine with stack := rest } : Machine).complete
        (closed rest (.array items.reverse)))
    | _, _ => none
  | .closeObject =>
    match machine.stack, machine.expecting with
    | .object fields _ :: rest, .firstField | .object fields _ :: rest, .separator =>
      some (({ machine with stack := rest } : Machine).complete
        (closed rest (objectOf fields)))
    | _, _ => none
  | .comma =>
    match machine.stack, machine.expecting with
    | .array _ :: _, .separator => some { machine with expecting := .value }
    | .object _ _ :: _, .separator => some { machine with expecting := .fieldName }
    | _, _ => none
  | .colon =>
    if machine.expecting = .colon then some { machine with expecting := .value } else none
  | .text text =>
    if machine.takesValue then
      some (machine.complete (match text with
        | some text => .string text
        | none => .flawed))
    else
      match machine.stack, machine.expecting with
      | .object fields _ :: rest, .firstField | .object fields _ :: rest, .fieldName =>
        some { machine with stack := .object fields text :: rest, expecting := .colon }
      | _, _ => none
  | .plain value => if machine.takesValue then some (machine.complete value) else none

/-- The value of the text, when the machine may stop. -/
def finish? (machine : Machine) : Option Json :=
  if machine.expecting = .finish then machine.result else none

end Machine

/-- The value of a text of the grammar; parts without a value are marked as flawed. -/
def read? (text : String) : Option Json := do
  let tokens ← tokens? text
  let machine ← tokens.foldlM Machine.step? Machine.initial
  machine.finish?

/-- The value of a text in which every part has a value. -/
def parse? (text : String) : Option Json := (read? text).filter Json.sound

end MetricPipeline.Json
