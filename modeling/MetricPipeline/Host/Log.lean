/-!
What the host says while it runs, and which of it is shown.

A filter is a list of rules. A rule lets the notices of the targets that start with its own through, up
to a limit. Of several rules for one target the most specific one counts.
-/

namespace MetricPipeline

/-- How important a notice is. -/
inductive Severity where
  /-- Something is lost. -/
  | error
  /-- Something may be lost. -/
  | warn
  /-- The normal course of events. -/
  | info
  /-- Details. -/
  | debug
  deriving DecidableEq, Repr

namespace Severity

/-- The word for a severity. -/
def word : Severity → String
  | .error => "ERROR"
  | .warn => "WARN"
  | .info => "INFO"
  | .debug => "DEBUG"

/-- The least limit that lets a severity through. -/
def rank : Severity → Nat
  | .error => 1
  | .warn => 2
  | .info => 3
  | .debug => 4

end Severity

/-- Something that is said. -/
structure Notice where
  /-- How important it is. -/
  severity : Severity
  /-- The part of the program that says it. -/
  target : String
  /-- What it says. -/
  text : String
  deriving DecidableEq, Repr

/-- The line that shows a notice. -/
def Notice.line (notice : Notice) : String :=
  notice.severity.word ++ " " ++ notice.target ++ ": " ++ notice.text

/-- How wide the longest word for a severity is. -/
def Severity.width : Nat := 5

/-- The line that shows a notice below others, with the words for severities ending in one column. -/
def Notice.alignedLine (notice : Notice) : String :=
  "".pushn ' ' (Severity.width - notice.severity.word.length) ++ notice.line

/-- A rule of a filter. -/
structure LogRule where
  /-- What the targets start with. -/
  target : String
  /-- The greatest rank that is let through. -/
  limit : Nat
  deriving DecidableEq, Repr

/-- Which notices are shown. -/
structure LogFilter where
  /-- The rules. -/
  rules : List LogRule
  deriving DecidableEq, Repr

namespace LogFilter

/-- The limit that lets everything through. -/
def maxLimit : Nat := 5

/-- The limit of a word. -/
def limit? (word : String) : Option Nat :=
  match word with
  | "off" | "0" => some 0
  | "error" | "1" => some 1
  | "warn" | "2" => some 2
  | "info" | "3" => some 3
  | "debug" | "4" => some 4
  | "trace" | "5" => some maxLimit
  | _ => none

/-- A character of a target. -/
def isTargetChar (c : Char) : Bool := c.isAlphanum || c = '_' || c = ':' || c = '-'

/-- The rule of a text: a limit for all targets, a target, or a target and its limit after an equals
sign. A target without a limit is let through. -/
def rule? (text : String) : Option LogRule :=
  match limit? text with
  | some limit => some { target := "", limit }
  | none =>
    let chars := text.toList
    let target := chars.takeWhile (· ≠ '=')
    if target.all isTargetChar then
      match chars.drop target.length with
      | [] | ['='] => some { target := String.ofList target, limit := maxLimit }
      | _ :: word =>
        (limit? (String.ofList word)).map fun limit => { target := String.ofList target, limit }
    else none

/-- The pieces of a text between commas, the empty ones left out. -/
def pieces (text : String) : List String := (text.splitOn ",").filter (· ≠ "")

/-- The filter of a text: rules between commas. Without any rule only errors are shown. -/
def parse? (text : String) : Option LogFilter := do
  match ← (pieces text.toLower).mapM rule? with
  | [] => return { rules := [{ target := "", limit := Severity.error.rank }] }
  | rules => return { rules }

/-- The filter of a host that is told nothing. -/
def standard : LogFilter := { rules := [{ target := "", limit := Severity.info.rank }] }

/-- The limit for a target: that of the longest rule that covers it, of the last one among equals, and
zero when there is none. -/
def limitFor (filter : LogFilter) (target : String) : Nat :=
  let best := filter.rules.foldl
    (fun (length, limit) (rule : LogRule) =>
      if rule.target.toList.isPrefixOf target.toList ∧ length ≤ rule.target.length then
        (rule.target.length, rule.limit)
      else (length, limit))
    (0, 0)
  best.2

/-- Whether a notice is shown. -/
def shows (filter : LogFilter) (notice : Notice) : Bool :=
  notice.severity.rank ≤ filter.limitFor notice.target

end LogFilter

end MetricPipeline
