import BehaviorPlan.Proofs.Code.Rule
import BehaviorPlan.Proofs.Startup.Lines
import BehaviorPlan.Startup.Coordinator

/-! # The coordinator text is free of errors

Names and numerals are quiet, so every line of the coordinator class is neutral except for the
braces, which are paired. With a legal class name no rule finds an error in it. -/
namespace BehaviorPlan

open Code (Quiet Plain isFrame)

structure Step.IsQuiet (s : Step) : Prop where
  behavior : Quiet s.behavior.toList
  fieldName : Quiet s.fieldName.toList
  flagName : Quiet s.flagName.toList

theorem Step.IsWordlike.isQuiet {s : Step} (h : s.IsWordlike) : s.IsQuiet where
  behavior := Code.quiet_of_isIdentifierText h.behavior
  fieldName := Code.quiet_of_wordlike h.fieldName
  flagName := Code.quiet_of_wordlike h.flagName

namespace Startup

section Steps

theorem isQuiet_of_mem_steps {order : List String} (h : ∀ b ∈ order, Name.isIdentifier b = true)
    {s : Step} (hs : s ∈ steps order) : s.IsQuiet :=
  (isWordlike_of_mem_steps h hs).isQuiet

theorem numeric_floatLiteral {q : Quantity} {text : String} (h : floatLiteral q = .ok text) :
    Numeral.Numeric text.toList := by
  obtain ⟨d, _, htext⟩ := Outcome.bind_eq_ok_iff.mp h
  obtain rfl := Except.ok.inj htext
  rw [String.toList_append]
  exact (Numeral.numeric_ofDouble d).append (by decide)

end Steps

section Methods

variable {name delay : String} {steps : List Step}

theorem plain_append {s t : String} (hs : Plain s.toList) (ht : Plain t.toList) :
    Plain (s ++ t).toList := by
  rw [String.toList_append]
  exact hs.append ht

theorem plain_ofList {cs : List Char} (h : Plain cs) :
    Plain (String.ofList cs).toList := by
  rwa [String.toList_ofList]

theorem plain_around {before after : List Char} {middle : String} (hmiddle : Plain middle.toList)
    (hbefore : Plain before) (hafter : Plain after) :
    Plain (String.ofList before ++ middle ++ String.ofList after).toList :=
  plain_append (plain_append (plain_ofList hbefore) hmiddle) (plain_ofList hafter)

theorem quiet_ofList {cs : List Char} (h : Quiet cs) :
    Quiet (String.ofList cs).toList := by
  rwa [String.toList_ofList]

theorem quiet_append {s t : String} (hs : Quiet s.toList) (ht : Quiet t.toList) :
    Quiet (s ++ t).toList := by
  rw [String.toList_append]
  exact hs.append ht

/-- What stops the sequence: a message, and the end of the coroutine. -/
theorem balanced_stop {text : String} (hname : Quiet name.toList) (htext : Quiet text.toList) :
    Balanced
      [indent ++ "Debug.LogError(" ++ logged name text ++ ");", indent ++ "yield break;"] := by
  have hmessage : Neutral ("Debug.LogError(" ++ logged name text ++ ");") :=
    neutral_logged hname htext rfl
  have hbreak : Neutral "yield break;" := neutral_fixed rfl
  have hindented := hmessage.indented
  simp only [← String.append_assoc] at hindented
  exact .line hindented <| .line hbreak.indented .nil

theorem balanced_stepBody {s : Step} (hname : Quiet name.toList) (hdelay : Quiet delay.toList)
    (hs : s.IsQuiet) : Balanced (stepBody name delay s) := by
  have hindex : Quiet (toString s.index).toList :=
    Code.quiet_of_numeric (Numeral.numeric_toString_int s.index)
  have hcomment : Neutral s!"// Step {s.index}: Initialize {s.behavior}" :=
    neutral_of_plain
      (plain_append (plain_around hindex.plain (by decide) (by decide)) hs.behavior.plain)
  have hcurrent : Neutral s!"_currentInitializationStep = {s.index};" := neutral_around hindex rfl
  have hstarting : Neutral
      ("Debug.Log(" ++ logged name s!"Initializing behavior: {s.behavior}" ++ ");") :=
    neutral_logged hname (quiet_append (quiet_ofList (by decide)) hs.behavior) rfl
  have hguard : Neutral s!"if ({s.fieldName} == null)" := neutral_around hs.fieldName rfl
  have hmissing : Quiet s!"{s.behavior} behavior reference is null!".toList :=
    quiet_append hs.behavior (quiet_ofList (by decide))
  have hactive : Neutral ("" ++ s.fieldName ++ ".gameObject.SetActive(true);") :=
    neutral_around hs.fieldName rfl
  have hwait : Neutral s!"yield return new WaitForSeconds({delay});" := neutral_around hdelay rfl
  have hready : Neutral ("" ++ s.flagName ++ " = true;") := neutral_around hs.flagName rfl
  rw [String.empty_append] at hactive hready
  exact .fixed rfl <| .line hcomment <| .line hcurrent <| .line hstarting <| .line hguard <|
    .block [_, _] (balanced_stop hname hmissing) <| .line hactive <| .fixed rfl <| .line hwait <|
    .line hready <| .fixed rfl <|
    .block [_, _] (balanced_stop hname (quiet_ofList (by decide))) .nil

theorem balanced_lines {m : MethodBlock} (hdeclaration : Neutral m.declaration)
    (hbody : Balanced m.body) : Balanced (m.lines.map (·.text)) := by
  have htexts : m.lines.map (·.text) =
      m.declaration :: openBrace :: (m.body.map Text.withoutTrailingBlanks ++ [closeBrace]) := by
    simp [MethodBlock.lines, MethodBlock.bodyLines]
  rw [htexts]
  exact .line hdeclaration hbody.trim.enclose

theorem balanced_startBody : Balanced startMethod.body :=
  .fixed rfl <| .fixed rfl .nil

theorem balanced_sequenceBody (hname : Quiet name.toList) (hdelay : Quiet delay.toList)
    (hsteps : ∀ s ∈ steps, s.IsQuiet) : Balanced (sequenceMethod name delay steps).body := by
  have hstart : Neutral
      ("Debug.Log(" ++ logged name "Starting behavior initialization sequence" ++ ");") :=
    neutral_logged hname (quiet_ofList (by decide)) rfl
  have hend : Neutral
      ("Debug.Log(" ++ logged name "All behaviors initialized successfully" ++ ");") :=
    neutral_logged hname (quiet_ofList (by decide)) rfl
  have hevent : Neutral ("SendCustomEvent(" ++ ("\"" ++ "OnInitializationComplete" ++ "\"") ++ ");") :=
    neutral_quoted (quiet_ofList (by decide)) rfl
  refine .append (.append (.line hstart .nil) ?_) ?_
  · exact .flatMap fun s hs => balanced_stepBody hname hdelay (hsteps s hs)
  · exact .fixed rfl <| .fixed rfl <| .line hend <| .line hevent .nil

theorem balanced_queryBody (hname : Quiet name.toList) (hsteps : ∀ s ∈ steps, s.IsQuiet) :
    Balanced (queryMethod name steps).body := by
  have hcase {s : Step} (hs : s.IsQuiet) : Balanced
      [indent ++ s!"case \"{s.behavior}\":", indent ++ indent ++ s!"return {s.flagName};"] := by
    have hlabel : Neutral ("case " ++ ("\"" ++ s.behavior ++ "\"") ++ ":") :=
      neutral_quoted hs.behavior rfl
    have hreturn : Neutral s!"return {s.flagName};" := neutral_around hs.flagName rfl
    have htext : "case " ++ ("\"" ++ s.behavior ++ "\"") ++ ":" = s!"case \"{s.behavior}\":" := by
      simp [← String.toList_inj, toString]
    rw [htext] at hlabel
    have hindented := hreturn.indented.indented
    rw [← String.append_assoc] at hindented
    exact .line hlabel.indented <| .line hindented .nil
  have hunknown : Neutral
      ("Debug.LogWarning(" ++ logged name "Unknown behavior name: " ++ " + behaviorName);") :=
    neutral_logged hname (quiet_ofList (by decide)) rfl
  have hdefault : Neutral "default:" := neutral_fixed rfl
  have hfalse : Neutral "return false;" := neutral_fixed rfl
  have hunknown' := hunknown.indented.indented
  have hfalse' := hfalse.indented.indented
  simp only [← String.append_assoc] at hunknown' hfalse'
  have hlast := Balanced.line hdefault.indented <| .line hunknown' <| .line hfalse' .nil
  have hcases := Balanced.flatMap fun s hs => hcase (hsteps s hs)
  have hswitch : Neutral "switch (behaviorName)" := neutral_fixed rfl
  simpa [queryMethod] using Balanced.line hswitch (hcases.append hlast).enclose

theorem balanced_completeBody (hname : Quiet name.toList) :
    Balanced (completeMethod name).body := by
  have hdone : Neutral
      ("Debug.Log(" ++ logged name "Initialization sequence completed!" ++ ");") :=
    neutral_logged hname (quiet_ofList (by decide)) rfl
  exact .line hdone .nil

theorem balanced_resetBody (hsteps : ∀ s ∈ steps, s.IsQuiet) :
    Balanced (resetMethod steps).body := by
  have hflags : Balanced (steps.map fun s => indent ++ s!"{s.flagName} = false;") := by
    refine .of_forall fun text htext => ?_
    obtain ⟨s, hs, rfl⟩ := List.mem_map.mp htext
    have hflag : Neutral ("" ++ s.flagName ++ " = false;") :=
      neutral_around (hsteps s hs).flagName rfl
    rw [String.empty_append] at hflag
    exact hflag.indented
  have hcomplete : Neutral "_initializationComplete = false;" := neutral_fixed rfl
  have hcurrent : Neutral "_currentInitializationStep = 0;" := neutral_fixed rfl
  have htime : Neutral "_initializationStartTime = Time.time;" := neutral_fixed rfl
  have hagain : Neutral "StartCoroutine(nameof(InitializeBehaviors));" := neutral_fixed rfl
  have hbefore := Balanced.line hcomplete.indented <| .line hcurrent.indented .nil
  have hafter := Balanced.line htime.indented <| .line hagain.indented .nil
  have hplaying : Neutral "if (Application.isPlaying)" := neutral_fixed rfl
  simpa [resetMethod] using
    Balanced.line hplaying ((hbefore.append hflags).append hafter).enclose

/-- The braces in the body of every method match. -/
theorem balanced_body (hname : Quiet name.toList) (hdelay : Quiet delay.toList)
    (hsteps : ∀ s ∈ steps, s.IsQuiet) : ∀ m ∈ coordinatorMethods name delay steps,
      Balanced m.body := by
  simp only [coordinatorMethods, List.forall_mem_cons]
  exact ⟨balanced_startBody, balanced_sequenceBody hname hdelay hsteps,
    balanced_queryBody hname hsteps, balanced_completeBody hname, balanced_resetBody hsteps,
    nofun⟩

theorem neutral_declaration : ∀ m ∈ coordinatorMethods name delay steps,
    Neutral m.declaration := by
  simp only [coordinatorMethods, List.forall_mem_cons]
  exact ⟨neutral_fixed rfl, neutral_fixed rfl, neutral_fixed rfl, neutral_fixed rfl,
    neutral_fixed rfl, List.forall_mem_nil _⟩

theorem balanced_methodLines (hname : Quiet name.toList) (hdelay : Quiet delay.toList)
    (hsteps : ∀ s ∈ steps, s.IsQuiet) {m : MethodBlock}
    (hm : m ∈ coordinatorMethods name delay steps) : Balanced (m.lines.map (·.text)) :=
  balanced_lines (neutral_declaration m hm) (balanced_body hname hdelay hsteps m hm)

end Methods

section Class

variable {name timeout delay : String} {steps : List Step}

theorem balanced_headLines (hname : Quiet name.toList) :
    Balanced ((headLines name steps).map (·.text)) := by
  have hcount : Neutral s!"/// Manages the startup sequence of {steps.length} behaviors" :=
    neutral_of_plain (plain_around (Code.quiet_of_numeric (Numeral.numeric_toString_nat _)).plain
      (by decide) (by decide))
  have hclass : Neutral s!"public class {name} : UdonSharpBehaviour" := neutral_around hname rfl
  exact .fixed rfl <| .fixed rfl <| .line hcount <| .fixed rfl <| .fixed rfl <| .line hclass .nil

theorem balanced_fieldLines (htimeout : Quiet timeout.toList) (hsteps : ∀ s ∈ steps, s.IsQuiet) :
    Balanced ((fieldLines timeout steps).map (·.text)) := by
  have hreferences : Balanced (steps.flatMap fun s => [s!"[Header(\"{s.behavior} Behavior\")]",
      s!"[SerializeField] private {s.behavior} {s.fieldName};"]) := by
    refine .flatMap fun s hs => ?_
    have hheader : Neutral ("[Header(" ++ ("\"" ++ (s.behavior ++ " Behavior") ++ "\"") ++ ")]") :=
      neutral_quoted (quiet_append (hsteps s hs).behavior (quiet_ofList (by decide))) rfl
    have htext : "[Header(" ++ ("\"" ++ (s.behavior ++ " Behavior") ++ "\"") ++ ")]" =
        s!"[Header(\"{s.behavior} Behavior\")]" := by
      simp [← String.toList_inj, toString]
    have hfield : Neutral s!"[SerializeField] private {s.behavior} {s.fieldName};" :=
      neutral_of_plain (plain_append (plain_append
        (plain_around (hsteps s hs).behavior.plain (by decide) (by decide))
          (hsteps s hs).fieldName.plain) (plain_ofList (by decide)))
    rw [htext] at hheader
    exact .line hheader <| .line hfield .nil
  have htitle : Neutral ("[Header(" ++ ("\"" ++ "Initialization State" ++ "\"") ++ ")]") :=
    neutral_quoted (quiet_ofList (by decide)) rfl
  have hlimit : Neutral
      s!"[SerializeField] private float _initializationTimeout = {timeout};" :=
    neutral_around htimeout rfl
  have hstate : Balanced ["", "[Header(\"Initialization State\")]",
      "[SerializeField] private bool _initializationComplete = false;",
      "[SerializeField] private int _currentInitializationStep = 0;",
      s!"[SerializeField] private float _initializationTimeout = {timeout};",
      "private float _initializationStartTime;", "",
      "// Initialization status for each behavior"] :=
    .fixed rfl <| .line htitle <| .fixed rfl <| .fixed rfl <| .line hlimit <| .fixed rfl <|
    .fixed rfl <| .fixed rfl .nil
  have hflags : Balanced (steps.map fun s => s!"private bool {s.flagName} = false;") := by
    refine .of_forall fun text htext => ?_
    obtain ⟨s, hs, rfl⟩ := List.mem_map.mp htext
    exact neutral_around (hsteps s hs).flagName rfl
  simpa [fieldLines, emptyLine, List.map_flatMap, Function.comp_def] using
    (hreferences.append hstate).append hflags

theorem balanced_memberLines (hname : Quiet name.toList) (htimeout : Quiet timeout.toList)
    (hdelay : Quiet delay.toList) (hsteps : ∀ s ∈ steps, s.IsQuiet) :
    Balanced ((memberLines name timeout delay steps).map (·.text)) := by
  have hempty : Balanced [""] := .fixed rfl .nil
  have hsummary : Balanced ["", "/// <summary>", "/// Initializes behaviors in the correct order",
      "/// </summary>"] :=
    .fixed rfl <| .fixed rfl <| .fixed rfl <| .fixed rfl .nil
  have hproperties : Balanced
      ["", "public bool IsInitializationComplete => _initializationComplete;", "",
        "public int CurrentInitializationStep => _currentInitializationStep;", ""] :=
    .fixed rfl <| .fixed rfl <| .fixed rfl <| .fixed rfl <| .fixed rfl .nil
  have htitle : Neutral ("[ContextMenu(" ++ ("\"" ++ "Reinitialize Behaviors" ++ "\"") ++ ")]") :=
    neutral_quoted (quiet_ofList (by decide)) rfl
  have hmenu : Balanced ["", "[ContextMenu(\"Reinitialize Behaviors\")]"] :=
    .fixed rfl <| .line htitle .nil
  have hmethods : ∀ m ∈ coordinatorMethods name delay steps, Balanced (m.lines.map (·.text)) :=
    fun m hm => balanced_methodLines hname hdelay hsteps hm
  simp only [coordinatorMethods, List.forall_mem_cons] at hmethods
  obtain ⟨hstart, hsequence, hquery, hcomplete, hreset, -⟩ := hmethods
  have hall := (balanced_fieldLines htimeout hsteps).append <| hempty.append <| hstart.append <|
    hsummary.append <| hsequence.append <| hproperties.append <| hquery.append <|
    hempty.append <| hcomplete.append <| hmenu.append hreset
  simpa only [memberLines, emptyLine, List.map_append, List.map_cons, List.map_nil,
    List.append_assoc] using hall

theorem balanced_coordinatorLines (hname : Quiet name.toList) (htimeout : Quiet timeout.toList)
    (hdelay : Quiet delay.toList) (hsteps : ∀ s ∈ steps, s.IsQuiet) :
    Balanced ((coordinatorLines name timeout delay steps).map (·.text)) := by
  simpa [coordinatorLines] using
    (balanced_headLines hname).append (balanced_memberLines hname htimeout hdelay hsteps).enclose

end Class

end Startup

end BehaviorPlan
