import BehaviorPlan.Config
import BehaviorPlan.Finding
import BehaviorPlan.Function

/-! # Checking declarations

All problems of the declared functions and their tags are reported together: names declared
twice, illegal behavior names, and illegal events, dependencies and event targets. -/
namespace BehaviorPlan.Declared

def repeatFinding (function : String) : Finding :=
  { category := .invalidAttribute
    severity := .error
    message := s!"Function '{function}' is declared more than once"
    function := some function }

/-- A finding for every function whose name was declared before. -/
def repeatsFrom (seen : List String) : List FunctionDecl → List Finding
  | [] => []
  | f :: fs =>
    (if f.name ∈ seen then [repeatFinding f.name] else []) ++ repeatsFrom (f.name :: seen) fs

def explicitNames (functions : List FunctionDecl) : List String :=
  (functions.filterMap fun f => present? (f.tag.bind (·.name))).eraseDups

/-- The behavior of a tagged function: the name in its tag, else the only name in any tag, else
the one that its own name suggests. -/
def behaviorName (explicit : List String) (function : String) (declared : Option String) :
    String :=
  match declared, explicit with
  | some name, _ => name
  | none, [name] => name
  | none, _ => Name.inferBehavior function

def nameProblem? (config : Config) (name : String) : Option (String × String) :=
  if name = "" then
    some ("Behavior name must not be empty",
      "Provide a name or omit it to derive one from the function name")
  else if Name.isKeyword name then
    some (s!"Behavior name '{name}' is a reserved C# keyword",
      "Choose a name that is not a C# keyword")
  else if !Name.isClassName name then
    some (s!"Behavior name '{name}' is not a valid identifier",
      "Use letters, digits and underscores, not starting with a digit")
  else if name ∈ config.reservedNames then
    some (s!"Behavior name '{name}' collides with a generated class", "Rename the behavior")
  else none

def nameFinding (behavior function : String) (problem : String × String) : Finding :=
  { category := .invalidUnitName
    severity := .error
    message := problem.1
    behavior := present? (some behavior)
    function := some function
    suggestion := some problem.2 }

abbrev TagProblem := String × Option String

def eventProblem? (function event : String) : Option TagProblem :=
  if Name.isEvent event then none
  else some (s!"Invalid event '{event}' on function '{function}'",
    some "Use a Unity event name such as Start or Update, or a custom method name")

def dependencyProblem? (behavior function dependency : String) : Option TagProblem :=
  if dependency = "" then some (s!"Empty dependency name on function '{function}'", none)
  else if !Name.isPascal dependency then
    some (s!"Dependency '{dependency}' on function '{function}' must be a PascalCase behavior name",
      none)
  else if dependency = behavior then
    some (s!"Behavior '{behavior}' cannot depend on itself",
      some "Remove the dependency or move the function to another behavior")
  else none

def eventTargetProblem? (function target : String) : Option TagProblem :=
  if target = "" then some (s!"Empty event target on function '{function}'", none)
  else if !Name.isIdentifier target then
    some (s!"Event target '{target}' on function '{function}' is not a valid name", none)
  else none

def tagProblems (behavior function : String) (tag : BehaviorTag) : List TagProblem :=
  tag.events.filterMap (eventProblem? function) ++
    tag.dependencies.filterMap (dependencyProblem? behavior function) ++
    tag.eventTargets.filterMap (eventTargetProblem? function)

def tagFinding (behavior function : String) (problem : TagProblem) : Finding :=
  { category := .invalidAttribute
    severity := .error
    message := problem.1
    behavior := present? (some behavior)
    function := some function
    suggestion := problem.2 }

/-- Findings on the tags. A bad behavior name is reported once, for the first function that has
it; `reported` holds the names that were reported already. -/
def tagFindingsFrom (config : Config) (explicit reported : List String) :
    List FunctionDecl → List Finding
  | [] => []
  | f :: fs =>
    match f.tag with
    | none => tagFindingsFrom config explicit reported fs
    | some tag =>
      let behavior := behaviorName explicit f.name tag.name
      let problem := if behavior ∈ reported then none else nameProblem? config behavior
      (problem.map (nameFinding behavior f.name)).toList ++
        (tagProblems behavior f.name tag).map (tagFinding behavior f.name) ++
        tagFindingsFrom config explicit
          (if problem.isSome then behavior :: reported else reported) fs

def findings (config : Config) (functions : List FunctionDecl) : List Finding :=
  repeatsFrom [] functions ++ tagFindingsFrom config (explicitNames functions) [] functions

/-- The tagged functions with their behaviors. -/
def owners (functions : List FunctionDecl) : List (String × String) :=
  let explicit := explicitNames functions
  functions.filterMap fun f => f.tag.map fun tag => (f.name, behaviorName explicit f.name tag.name)

end BehaviorPlan.Declared
