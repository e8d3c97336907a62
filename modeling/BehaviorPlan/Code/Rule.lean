import BehaviorPlan.Code.Scan
import BehaviorPlan.Config
import BehaviorPlan.Finding

/-! # Rules for generated code

Seven rules look at a generated class each by itself. Findings come class by class, and for one
class rule by rule. -/
namespace BehaviorPlan

inductive Rule where
  | wellFormed
  | inheritance
  | naming
  | access
  | networkSync
  | performance
  | nullSafety
  deriving DecidableEq, Repr

namespace Rule

def all : List Rule :=
  [wellFormed, inheritance, naming, access, networkSync, performance, nullSafety]

def label : Rule → String
  | wellFormed => "csharp_syntax"
  | inheritance => "inheritance"
  | naming => "naming_convention"
  | access => "access_modifier"
  | networkSync => "network_sync"
  | performance => "performance"
  | nullSafety => "null_safety"

def enabled (config : Config) : List Rule :=
  all.filter fun r => r.label ∉ config.disabledRules

def labelled (labels : List String) : List Rule :=
  all.filter fun r => r.label ∈ labels

end Rule

namespace Code

open Text

/-- What a rule says about a class. -/
structure Remark where
  severity : Severity
  message : String
  function : Option String := none
  line : Option Nat := none
  suggestion : String
  deriving DecidableEq, Repr

def Remark.finding (rule : Rule) (c : ClassSource) (r : Remark) : Finding :=
  { category := .generatedCodeIssue
    severity := r.severity
    message := r.message
    behavior := some c.name
    function := r.function
    rule := some rule.label
    line := r.line.map Int.ofNat
    suggestion := some r.suggestion }

def nameRemarks (name : String) : List Remark :=
  if !Name.isIdentifier name then
    [{ severity := .error
       message := s!"Invalid C# class name: {name}"
       suggestion := "Use a valid C# identifier for the class name" }]
  else if Name.isKeyword name then
    [{ severity := .error
       message := s!"Class name '{name}' is a reserved C# keyword"
       suggestion := "Rename the class" }]
  else []

def balanceRemarks (code : List Char) (opening closing : Char) (what : String) : List Remark :=
  let opened := code.count opening
  let closed := code.count closing
  if opened = closed then []
  else
    [{ severity := .error
       message := s!"Unbalanced {what}: {opened} open, {closed} close"
       suggestion := s!"Check for missing or extra {what} in the generated code" }]

def wellFormedRemarks (c : ClassSource) : List Remark :=
  let code := stripLiterals c.source.toList
  nameRemarks c.name ++ balanceRemarks code '\x7b' '\x7d' "braces" ++
    balanceRemarks code '(' ')' "parentheses"

def baseClass : List Char := "UdonSharpBehaviour".toList

def startsWithBase (cs : List Char) : Bool :=
  baseClass.isPrefixOf cs && !(cs.drop baseClass.length).head?.any isWordChar

/-- A colon and the base class after it. -/
def inheritsBase : List Char → Bool
  | [] => false
  | c :: cs => (c == ':' && startsWithBase (cs.dropWhile isBlank)) || inheritsBase cs

def inheritanceRemarks (c : ClassSource) : List Remark :=
  if inheritsBase c.source.toList then []
  else
    [{ severity := .error
       message := "Class must inherit from UdonSharpBehaviour"
       suggestion := "Add ': UdonSharpBehaviour' to class declaration" }]

def namingRemarks (c : ClassSource) : List Remark :=
  (if Name.isPascal c.name then []
    else
      [{ severity := .warning
         message := s!"Class name '{c.name}' should use PascalCase"
         suggestion := "Use PascalCase for class names (e.g., PlayerManager)" }]) ++
    ((declaredMethods c).filter fun m => !Name.isPascal m.name).map fun m =>
      { severity := .warning
        message := s!"Method name '{m.name}' should use PascalCase"
        function := some m.name
        line := declarationLine? c.source m.declaration
        suggestion := "Use PascalCase for method names (e.g., UpdatePlayerCount)" }

/-- Events that are only sent to public methods. -/
def publicEvents : List String := ["Start", "Update", "OnEnable", "OnDisable", "OnTriggerEnter"]

def accessRemarks (c : ClassSource) : List Remark :=
  ((declaredMethods c).filter fun m =>
      publicEvents.contains m.name && !occursIn "public " m.declaration).map fun m =>
    { severity := .warning
      message := s!"Unity event method '{m.name}' should be public"
      function := some m.name
      line := declarationLine? c.source m.declaration
      suggestion := "Make Unity event methods public" }

def networkSyncRemarks (c : ClassSource) : List Remark :=
  if !occursIn "[UdonSynced" c.source then []
  else
    (if occursIn "Networking.IsMaster" c.source then []
      else
        [{ severity := .warning
           message := "Synchronized fields should have master client validation"
           suggestion := "Add Networking.IsMaster checks before modifying synced fields" }]) ++
    (if occursIn "RequestSerialization" c.source then []
      else
        [{ severity := .warning
           message := "UdonSynced fields detected but no RequestSerialization calls found"
           suggestion := "Call RequestSerialization() after modifying synchronized fields" }])

/-- Methods that run once per frame. -/
def frameMethods : List String := ["Update", "LateUpdate", "FixedUpdate"]

def lookup : String := "GameObject.Find"

def performanceRemarks (c : ClassSource) : List Remark :=
  ((declaredMethods c).filter fun m =>
      frameMethods.contains m.name && occursIn lookup m.body).map fun m =>
    { severity := .warning
      message := s!"GameObject.Find in {m.name} method can impact performance"
      function := some m.name
      line := declarationLine? c.source m.declaration
      suggestion := "Cache GameObject references in Start() instead" }

def hasNullCheck (line : List Char) : Bool :=
  contains "!= null".toList line || contains "== null".toList line

/-- The line with the given index and up to two lines on each side of it. -/
def window (lines : List (List Char)) (index : Nat) : List (List Char) :=
  (lines.take (index + 3)).drop (index - 2)

/-- Indices of lines that look an object up with no null check near. -/
def uncheckedLookups (lines : List (List Char)) : List Nat :=
  (lines.zipIdx.filter fun (line, i) =>
    contains lookup.toList line && !(window lines i).any hasNullCheck).map (·.2)

def nullSafetyRemarks (c : ClassSource) : List Remark :=
  (uncheckedLookups (splitLines c.source.toList)).map fun i =>
    { severity := .info
      message := "GameObject.Find call without null check"
      line := some (i + 1)
      suggestion := "Add null check after GameObject.Find" }

def remarks : Rule → ClassSource → List Remark
  | .wellFormed => wellFormedRemarks
  | .inheritance => inheritanceRemarks
  | .naming => namingRemarks
  | .access => accessRemarks
  | .networkSync => networkSyncRemarks
  | .performance => performanceRemarks
  | .nullSafety => nullSafetyRemarks

def findingsOn (rules : List Rule) (c : ClassSource) : List Finding :=
  rules.flatMap fun r => (remarks r c).map (Remark.finding r c)

def findings (rules : List Rule) (classes : List ClassSource) : List Finding :=
  classes.flatMap (findingsOn rules)

theorem findings_append (rules : List Rule) (xs ys : List ClassSource) :
    findings rules (xs ++ ys) = findings rules xs ++ findings rules ys := by
  simp [findings]

theorem rule_of_mem_findingsOn {rules : List Rule} {c : ClassSource} {f : Finding}
    (h : f ∈ findingsOn rules c) : ∃ r ∈ rules, f.rule = some r.label := by
  simp only [findingsOn, List.mem_flatMap, List.mem_map] at h
  obtain ⟨r, hr, _, _, rfl⟩ := h
  exact ⟨r, hr, rfl⟩

end Code

end BehaviorPlan
