import BehaviorPlan.Code.Scan
import BehaviorPlan.Config
import BehaviorPlan.Text.Character
import BehaviorPlan.Text.Lines

/-! # Generated startup code

The coordinator is a class that starts behaviors step by step. Each step stops the sequence if
its reference is missing, activates the behavior, waits, marks it ready, and stops the sequence
after the timeout. The editor script enters execution priorities into the Unity project. -/
namespace BehaviorPlan

structure Step where
  index : Int
  behavior : String
  fieldName : String
  flagName : String
  deriving DecidableEq, Repr

instance : Checked Step where
  defect? s := (defectIf (decide (s.index < 1)) (.below "index" 1 s.index)).or
    (blank? "unit" s.behavior)

/-- An execution priority; lower ones run earlier. -/
structure OrderHint where
  script : String
  priority : Int
  deriving DecidableEq, Repr

namespace Startup

def floatLiteral (q : Quantity) : Outcome String := do
  return Numeral.ofDouble (← q.toDouble) ++ "f"

structure CodeLine where
  depth : Nat
  text : String
  deriving DecidableEq, Repr

def openBrace : String := "\x7b"

def closeBrace : String := "\x7d"

def indent : String := "    "

def indentation (depth : Nat) : String :=
  String.join (List.replicate depth indent)

/-- Inside a namespace everything is indented by one more level. -/
def baseIndent (codeNamespace : Option String) : String :=
  if codeNamespace.isSome then indent else ""

/-- An empty line stays empty. -/
def CodeLine.render (base : String) (l : CodeLine) : String :=
  if l.text = "" then "" else base ++ indentation l.depth ++ l.text

/-- A method to be written; the first line of its body is indented by two levels. -/
structure MethodBlock where
  name : String
  declaration : String
  body : List String
  deriving DecidableEq, Repr

namespace MethodBlock

def bodyLines (m : MethodBlock) : List CodeLine :=
  m.body.map fun text => ⟨2, Text.withoutTrailingBlanks text⟩

def lines (m : MethodBlock) : List CodeLine :=
  [⟨1, m.declaration⟩, ⟨1, openBrace⟩] ++ m.bodyLines ++ [⟨1, closeBrace⟩]

def method (base : String) (m : MethodBlock) : Method :=
  ⟨m.name, m.declaration, "\n".intercalate (m.bodyLines.map (·.render base))⟩

end MethodBlock

def wrapped (codeNamespace : Option String) (lines : List CodeLine) : List String :=
  let body := lines.map (·.render (baseIndent codeNamespace))
  match codeNamespace with
  | some name => ["namespace " ++ name, openBrace] ++ body ++ [closeBrace]
  | none => body

def usings : List String :=
  ["UnityEngine", "VRC.SDKBase", "VRC.Udon", "UdonSharp", "System.Collections"]

def logged (name text : String) : String :=
  s!"\"[{name}] {text}\""

def startMethod : MethodBlock :=
  { name := "Start"
    declaration := "public void Start()"
    body :=
      ["_initializationStartTime = Time.time;", "StartCoroutine(nameof(InitializeBehaviors));"] }

def stepBody (name delay : String) (s : Step) : List String :=
  ["",
    s!"// Step {s.index}: Initialize {s.behavior}",
    s!"_currentInitializationStep = {s.index};",
    "Debug.Log(" ++ logged name s!"Initializing behavior: {s.behavior}" ++ ");",
    s!"if ({s.fieldName} == null)",
    openBrace,
    indent ++ "Debug.LogError(" ++ logged name s!"{s.behavior} behavior reference is null!" ++ ");",
    indent ++ "yield break;",
    closeBrace,
    s!"{s.fieldName}.gameObject.SetActive(true);",
    "// Wait for behavior to initialize",
    s!"yield return new WaitForSeconds({delay});",
    s!"{s.flagName} = true;",
    "if (Time.time - _initializationStartTime > _initializationTimeout)",
    openBrace,
    indent ++ "Debug.LogError(" ++ logged name "Initialization timeout reached!" ++ ");",
    indent ++ "yield break;",
    closeBrace]

def sequenceMethod (name delay : String) (steps : List Step) : MethodBlock :=
  { name := "InitializeBehaviors"
    declaration := "public IEnumerator InitializeBehaviors()"
    body :=
      ["Debug.Log(" ++ logged name "Starting behavior initialization sequence" ++ ");"] ++
        steps.flatMap (stepBody name delay) ++
        ["",
          "_initializationComplete = true;",
          "Debug.Log(" ++ logged name "All behaviors initialized successfully" ++ ");",
          "SendCustomEvent(\"OnInitializationComplete\");"] }

def queryMethod (name : String) (steps : List Step) : MethodBlock :=
  { name := "IsBehaviorInitialized"
    declaration := "public bool IsBehaviorInitialized(string behaviorName)"
    body :=
      ["switch (behaviorName)", openBrace] ++
        steps.flatMap (fun s =>
          [indent ++ s!"case \"{s.behavior}\":",
            indent ++ indent ++ s!"return {s.flagName};"]) ++
        [indent ++ "default:",
          indent ++ indent ++ "Debug.LogWarning(" ++ logged name "Unknown behavior name: " ++
            " + behaviorName);",
          indent ++ indent ++ "return false;",
          closeBrace] }

def completeMethod (name : String) : MethodBlock :=
  { name := "OnInitializationComplete"
    declaration := "public void OnInitializationComplete()"
    body := ["Debug.Log(" ++ logged name "Initialization sequence completed!" ++ ");"] }

def resetMethod (steps : List Step) : MethodBlock :=
  { name := "ReinitializeBehaviors"
    declaration := "public void ReinitializeBehaviors()"
    body :=
      ["if (Application.isPlaying)",
        openBrace,
        indent ++ "_initializationComplete = false;",
        indent ++ "_currentInitializationStep = 0;"] ++
        steps.map (fun s => indent ++ s!"{s.flagName} = false;") ++
        [indent ++ "_initializationStartTime = Time.time;",
          indent ++ "StartCoroutine(nameof(InitializeBehaviors));",
          closeBrace] }

def emptyLine : CodeLine := ⟨0, ""⟩

def headLines (name : String) (steps : List Step) : List CodeLine :=
  [⟨0, "/// <summary>"⟩,
    ⟨0, "/// Initialization coordinator for multi-behavior UdonSharp system"⟩,
    ⟨0, s!"/// Manages the startup sequence of {steps.length} behaviors"⟩,
    ⟨0, "/// </summary>"⟩,
    ⟨0, "[UdonBehaviourSyncMode(BehaviourSyncMode.Manual)]"⟩,
    ⟨0, s!"public class {name} : UdonSharpBehaviour"⟩]

def fieldLines (timeout : String) (steps : List Step) : List CodeLine :=
  steps.flatMap (fun s =>
      [⟨1, s!"[Header(\"{s.behavior} Behavior\")]"⟩,
        ⟨1, s!"[SerializeField] private {s.behavior} {s.fieldName};"⟩]) ++
    [emptyLine,
      ⟨1, "[Header(\"Initialization State\")]"⟩,
      ⟨1, "[SerializeField] private bool _initializationComplete = false;"⟩,
      ⟨1, "[SerializeField] private int _currentInitializationStep = 0;"⟩,
      ⟨1, s!"[SerializeField] private float _initializationTimeout = {timeout};"⟩,
      ⟨1, "private float _initializationStartTime;"⟩,
      emptyLine,
      ⟨1, "// Initialization status for each behavior"⟩] ++
    steps.map (fun s => ⟨1, s!"private bool {s.flagName} = false;"⟩)

def memberLines (name timeout delay : String) (steps : List Step) : List CodeLine :=
  fieldLines timeout steps ++
    [emptyLine] ++ startMethod.lines ++
    [emptyLine, ⟨1, "/// <summary>"⟩, ⟨1, "/// Initializes behaviors in the correct order"⟩,
      ⟨1, "/// </summary>"⟩] ++
    (sequenceMethod name delay steps).lines ++
    [emptyLine, ⟨1, "public bool IsInitializationComplete => _initializationComplete;"⟩,
      emptyLine, ⟨1, "public int CurrentInitializationStep => _currentInitializationStep;"⟩,
      emptyLine] ++
    (queryMethod name steps).lines ++
    [emptyLine] ++ (completeMethod name).lines ++
    [emptyLine, ⟨1, "[ContextMenu(\"Reinitialize Behaviors\")]"⟩] ++ (resetMethod steps).lines

def coordinatorLines (name timeout delay : String) (steps : List Step) : List CodeLine :=
  headLines name steps ++ [⟨0, openBrace⟩] ++ memberLines name timeout delay steps ++
    [⟨0, closeBrace⟩]

def coordinatorMethods (name delay : String) (steps : List Step) : List MethodBlock :=
  [startMethod, sequenceMethod name delay steps, queryMethod name steps, completeMethod name,
    resetMethod steps]

def fileLines (name timeout delay : String) (codeNamespace : Option String) (steps : List Step) :
    List String :=
  usings.map (fun u => s!"using {u};") ++ [""] ++
    wrapped codeNamespace (coordinatorLines name timeout delay steps)

/-- The wait between two steps; it is not read if there are none. -/
def delayLiteral (steps : List Step) (delay : Quantity) : Outcome String :=
  if steps = [] then .ok "" else floatLiteral delay

/-- The coordinator class for the given steps. An empty namespace counts as none. -/
def render (name : String) (steps : List Step) (settings : StartupSettings) :
    Outcome ClassSource := do
  let timeout ← floatLiteral settings.timeout
  let delay ← delayLiteral steps settings.stepDelay
  let codeNamespace := settings.codeNamespace.filter (· ≠ "")
  let methods ← checkedAll
    ((coordinatorMethods name delay steps).map (·.method (baseIndent codeNamespace)))
  checked
    { name
      source := Text.unlines (fileLines name timeout delay codeNamespace steps)
      methods }

def editorClass : String := "MultiBehaviorExecutionOrderSetup"

def editorLines (hints : List OrderHint) : List CodeLine :=
  [⟨0, "/// <summary>"⟩,
    ⟨0, "/// Automatically sets script execution order for multi-behavior system"⟩,
    ⟨0, "/// </summary>"⟩,
    ⟨0, "[InitializeOnLoad]"⟩,
    ⟨0, s!"public static class {editorClass}"⟩,
    ⟨0, openBrace⟩,
    ⟨1, s!"static {editorClass}()"⟩,
    ⟨1, openBrace⟩,
    ⟨2, "SetExecutionOrder();"⟩,
    ⟨1, closeBrace⟩,
    emptyLine,
    ⟨1, "private static void SetExecutionOrder()"⟩,
    ⟨1, openBrace⟩] ++
    hints.map (fun h => ⟨2, s!"SetScriptExecutionOrder(\"{h.script}\", {h.priority});"⟩) ++
    [⟨1, closeBrace⟩,
      emptyLine,
      ⟨1, "private static void SetScriptExecutionOrder(string scriptName, int order)"⟩,
      ⟨1, openBrace⟩,
      ⟨2, "var script = AssetDatabase.FindAssets(\"t:MonoScript \" + scriptName).FirstOrDefault();"⟩,
      ⟨2, "if (script != null)"⟩,
      ⟨2, openBrace⟩,
      ⟨3, "var scriptPath = AssetDatabase.GUIDToAssetPath(script);"⟩,
      ⟨3, "var monoScript = AssetDatabase.LoadAssetAtPath<MonoScript>(scriptPath);"⟩,
      ⟨3, "if (monoScript != null)"⟩,
      ⟨3, openBrace⟩,
      ⟨4, "MonoImporter.SetExecutionOrder(monoScript, order);"⟩,
      ⟨3, closeBrace⟩,
      ⟨2, closeBrace⟩,
      ⟨1, closeBrace⟩,
      ⟨0, closeBrace⟩]

/-- Script that enters the hints into the Unity project when the editor loads. An empty namespace
counts as none. -/
def editorScript (hints : List OrderHint) (codeNamespace : Option String) : String :=
  Text.unlines
    (["#if UNITY_EDITOR", "using System.Linq;", "using UnityEngine;", "using UnityEditor;", ""] ++
      wrapped (codeNamespace.filter (· ≠ "")) (editorLines hints) ++ ["#endif"])

theorem CodeLine.render_empty (base : String) : emptyLine.render base = "" := rfl

theorem length_wrapped (codeNamespace : Option String) (lines : List CodeLine) :
    (wrapped codeNamespace lines).length = lines.length + if codeNamespace.isSome then 3 else 0 := by
  cases codeNamespace <;> simp [wrapped]

end Startup

end BehaviorPlan
