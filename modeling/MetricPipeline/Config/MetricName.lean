import MetricPipeline.Text.Blank

/-!
Names of metrics: an ASCII letter followed by ASCII letters, digits, underscores and points.
-/

namespace MetricPipeline.MetricName

/-- A character that may follow the first one of a name. -/
def isNameChar (c : Char) : Bool := c.isAlphanum || c = '_' || c = '.'

/-- The name a text spells; blanks around it do not count. -/
def parse? (text : String) : Option String :=
  match Text.trimChars text.toList with
  | first :: rest =>
    if first.isAlpha && rest.all isNameChar then some (String.ofList (first :: rest)) else none
  | [] => none

/-- What is said about a text that is no name; nothing is said about blanks alone. -/
def complaint? (text : String) : Option String :=
  let trimmed := Text.trim text
  match trimmed.toList with
  | [] => none
  | first :: rest =>
    if !first.isAlpha then
      some ("Metric name must start with a letter, got: '" ++ trimmed ++
        "'. Rejecting configuration.")
    else
      (rest.find? (!isNameChar ·)).map fun c =>
        "Metric name contains invalid character '" ++ String.singleton c ++ "' in '" ++ trimmed ++
          "'. Only ASCII alphanumerics, underscores, and periods are allowed." ++
          " Rejecting configuration."

end MetricPipeline.MetricName
