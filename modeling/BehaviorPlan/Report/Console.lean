import BehaviorPlan.Report.Markup
import BehaviorPlan.Report.Plain

/-! # The console report

The report in colour, for a console of a given width. Text lines are written with markup and are
wrapped; the rules with the titles and the table of metrics are laid out here. -/
namespace BehaviorPlan.Report.Console

open Text

def dashes (n : Nat) : String :=
  String.ofList (List.replicate n '─')

def bold : Style := { on := [.bold] }

def coloured (style : Style) (colour : Colour) : Style :=
  { style with foreground := some colour }

def ruleStyle : Style := coloured .plain .brightGreen

def titleRule (width : Nat) (style : Style) (title : String) : String :=
  let side := (width - title.length) / 2
  Line.write [styled ruleStyle (dashes (side - 1) ++ " "), styled style title,
    styled ruleStyle (" " ++ dashes (width - (side - 1) - 2 - title.length))]

def severityTag : Severity → String
  | .error => "bold red"
  | .warning => "yellow"
  | .info => "cyan"

def marked (tag text : String) : String :=
  s!"[{tag}]{text}[/{tag}]"

/-- A subject and its message are escaped one by one, so that a tag which begins in the subject
may end in the message. -/
def findingLines (options : ReportOptions) (f : Finding) : List String :=
  ("    " ++ marked (severityTag f.severity) f.severity.label ++
      s!" {Markup.escape f.subject}: {Markup.escape f.message}") ::
    (if options.suggestions then
      (present? f.suggestion).toList.map fun s => "      " ++ marked "dim" (Markup.escape s)
    else [])

def groupLines (options : ReportOptions) (group : Category × List Finding) : List String :=
  ["  " ++ marked "bold" group.1.label ++ s!" ({group.2.length})"] ++
    (shown options group.2).flatMap (findingLines options) ++
    (if 0 < hidden options group.2 then
      ["    " ++ marked "dim" s!"... and {hidden options group.2} more"] else [])

def findingsLines (options : ReportOptions) (findings : List Finding) : List String :=
  (if findings = [] then ["  " ++ marked "green" "No issues found"]
    else (groupByCategory findings).flatMap (groupLines options)) ++ [""]

def phaseLine (number title : String) : String :=
  Line.write [styled bold "Phase ", styled (coloured bold .cyan) number, styled bold s!": {title}"]

def padRight (width : Nat) (s : String) : String :=
  s ++ String.ofList (List.replicate (width - s.length) ' ')

def padLeftText (width : Nat) (s : String) : String :=
  String.ofList (padLeft width ' ' s.toList)

def labelWidth : Nat := 16

def metricRows (a : Analysis) : List (String × String) :=
  [("Behaviors", toString a.behaviorCount), ("Dependencies", toString a.dependencyCount),
    ("Max depth", toString a.metrics.maxDepth),
    ("Avg dependencies", a.metrics.averageDependencies.rounded),
    ("Cycles", toString a.metrics.cycleCount), ("Coupling factor", a.metrics.coupling.rounded),
    ("Cohesion score", a.metrics.cohesion.rounded)]

def border (left middle right line : Char) (width : Nat) : String :=
  String.ofList ([left] ++ List.replicate (labelWidth + 2) line ++ [middle] ++
    List.replicate (width + 2) line ++ [right])

/-- The table of metrics. It is never wrapped. -/
def table (a : Analysis) : List String :=
  let rows := metricRows a
  let width := (rows.map (·.2.length)).foldl max 5
  let total := width + labelWidth + 7
  let title := "Dependency Analysis"
  let left := (total - title.length) / 2
  let header := fun (text : String) =>
    Line.write [styled bold " ", styled bold text, styled bold " "]
  [Line.write [styled { on := [.italic] } (padRight total (padLeftText (left + title.length) title))],
    border '┏' '┳' '┓' '━' width,
    "┃" ++ header (padRight labelWidth "Metric") ++ "┃" ++
      header (padLeftText width "Value") ++ "┃",
    border '┡' '╇' '┩' '━' width] ++
    rows.map (fun (label, value) =>
      "│ " ++ padRight labelWidth label ++ " │ " ++ padLeftText width value ++ " │") ++
    [border '└' '┴' '┘' '─' width]

def analysisLines (a : Analysis) (order : List String) : List String :=
  (if order = [] then [] else [s!"  Initialization order: {arrows order}"]) ++
    a.cycles.map (fun c =>
      "  " ++ marked "bold red" c.grade.label ++ s!" cycle: {Markup.escape c.path}") ++ [""]

def statusLines (v : Verdict) : List String :=
  [s!"Errors: {v.count .error}  Warnings: {v.count .warning}  Info: {v.count .info}"] ++
    (v.nextSteps.zipIdx.map fun (s, i) => s!"  {i + 1}. {s}") ++
    v.recommendations.map (fun s => "  " ++ marked "dim" "-" ++ s!" {s}") ++ [""]

def print (width : Nat) (texts : List String) : Outcome (List String) := do
  let lines ← texts.mapM Markup.line
  return lines.flatMap (Line.printed width)

def lines (options : ConsoleOptions) (r : Run) : Outcome (List String) := do
  let width := options.width.toNat
  let structural ← print width (findingsLines options.toReportOptions r.structuralFindings)
  let analysis ← match r.analysis with
    | some a => do pure (table a ++ (← print width (analysisLines a r.order)))
    | none => pure []
  let issues ← print width (findingsLines options.toReportOptions r.issues)
  let status ← print width (statusLines r.verdict)
  return ["", titleRule width bold "MULTI-BEHAVIOR VALIDATION", "",
      phaseLine "1" "Structural Validation"] ++ structural ++ analysis ++
    [phaseLine "2" "Generated Code Validation"] ++ issues ++
    [titleRule width (coloured bold (if r.passed then Colour.green else .red)) r.verdict.status] ++ status

def render (options : ConsoleOptions) (r : Run) : Outcome String :=
  unlines <$> lines options r

end BehaviorPlan.Report.Console
