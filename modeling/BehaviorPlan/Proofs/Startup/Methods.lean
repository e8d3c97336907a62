import BehaviorPlan.Proofs.Startup.Coordinator
import BehaviorPlan.Proofs.Startup.Tame

/-! # The methods of the coordinator can be read back

Every line of the coordinator file is tame but for the declarations of its methods, whatever names
the behaviors have. So a scan of the file finds the methods that were written, in their order, each
with the body that was written for it. -/
namespace BehaviorPlan.Startup

open Code (Scans isHeadChar)
open Numeral (Numeric)

section Names

theorem all_isHeadChar_of_wordlike {cs : List Char} (h : Name.Wordlike cs) :
    cs.all isHeadChar = true := by
  rw [List.all_eq_true]
  intro c hc
  rcases h c hc with hword | rfl
  · exact Code.isHeadChar_of_isWordChar (Code.isWordChar_of_isIdentRest hword)
  · decide

theorem all_isHeadChar_of_isIdentifier {name : String} (h : Name.isIdentifier name = true) :
    name.toList.all isHeadChar = true :=
  all_isHeadChar_of_wordlike (Name.wordlike_of_isIdentifierText h)

theorem all_isHeadChar_of_isNamespace {name : String} (h : Name.isNamespace name = true) :
    name.toList.all isHeadChar = true := by
  rw [List.all_eq_true]
  intro c hc
  rcases Name.isIdentRest_or_eq_of_isNamespace h hc with hword | rfl | rfl
  · exact Code.isHeadChar_of_isWordChar (Code.isWordChar_of_isIdentRest hword)
  · decide
  · decide

end Names

section Bodies

variable {name delay : String} {steps : List Step}

theorem tame_stepComment {s : Step} (hs : s.IsWordlike) :
    Tame (Text.withoutTrailingBlanks s!"// Step {s.index}: Initialize {s.behavior}") := by
  have hindex : Numeric (toString s.index).toList := Numeral.numeric_toString_int s.index
  have hnewline : '\n' ∉ (toString s.index).toList := hindex.not_mem (by decide)
  have hfixed : '\n' ∉ "// Step ".toList ∧ '\n' ∉ ": Initialize ".toList := by decide
  have hbefore : Braceless "// Step ".toList := by decide
  have hafter : Braceless ": Initialize ".toList := by decide
  refine tame_comment hs.behavior ?_ ?_ ?_
  · have hslashes : "//".toList <+: "// Step ".toList := by decide
    rw [String.append_assoc, String.toList_append]
    exact hslashes.trans (List.prefix_append _ _)
  · simp only [String.toList_append, List.mem_append, not_or]
    exact ⟨⟨hfixed.1, hnewline⟩, hfixed.2⟩
  · simp only [String.toList_append]
    exact (hbefore.append (braceless_numeral hindex)).append hafter

theorem tame_stepBody {s : Step} (hname : name.toList.all isHeadChar = true)
    (hdelay : Numeric delay.toList) (hs : s.IsWordlike) :
    ∀ text ∈ stepBody name delay s, Tame (Text.withoutTrailingBlanks text) := by
  have hbehavior := all_isHeadChar_of_isIdentifier hs.behavior
  have hfield := all_isHeadChar_of_wordlike hs.fieldName
  have hflag := all_isHeadChar_of_wordlike hs.flagName
  have hcurrent : Mute s!"_currentInitializationStep = {s.index};" :=
    mute_numeral (Numeral.numeric_toString_int s.index) rfl
  have hstarting : Mute ("Debug.Log(" ++
      logged name ("Initializing behavior: " ++ s.behavior ++ "") ++ ");") :=
    mute_logged_around hname hbehavior rfl
  have hguard : Mute s!"if ({s.fieldName} == null)" := mute_around hfield rfl
  have hmissing : Mute ("Debug.LogError(" ++
      logged name ("" ++ s.behavior ++ " behavior reference is null!") ++ ");") :=
    mute_logged_around hname hbehavior rfl
  have hbreak : Mute "yield break;" := mute_fixed rfl
  have hactive : Mute ("" ++ s.fieldName ++ ".gameObject.SetActive(true);") :=
    mute_around hfield rfl
  have hcomment : Mute "// Wait for behavior to initialize" := mute_fixed rfl
  have hwait : Mute s!"yield return new WaitForSeconds({delay});" := mute_call hdelay rfl
  have hready : Mute ("" ++ s.flagName ++ " = true;") := mute_around hflag rfl
  have hlimit : Mute "if (Time.time - _initializationStartTime > _initializationTimeout)" :=
    mute_fixed rfl
  have htimeout : Mute ("Debug.LogError(" ++ logged name "Initialization timeout reached!" ++
      ");") :=
    mute_logged hname rfl
  have hmissing' := hmissing.indented
  have htimeout' := htimeout.indented
  rw [String.empty_append] at hactive hready hmissing'
  rw [String.append_empty] at hstarting
  simp only [← String.append_assoc] at hmissing' htimeout'
  simp only [stepBody, List.forall_mem_cons]
  exact ⟨Tame.empty.trim, tame_stepComment hs, hcurrent.trim, hstarting.trim, hguard.trim,
    (Tame.brace true).trim, hmissing'.trim, hbreak.indented.trim, (Tame.brace false).trim,
    hactive.trim, hcomment.trim, hwait.trim, hready.trim, hlimit.trim, (Tame.brace true).trim,
    htimeout'.trim, hbreak.indented.trim, (Tame.brace false).trim, List.forall_mem_nil _⟩

theorem tame_sequenceBody (hname : name.toList.all isHeadChar = true)
    (hdelay : Numeric delay.toList) (hsteps : ∀ s ∈ steps, s.IsWordlike) :
    ∀ text ∈ (sequenceMethod name delay steps).body, Tame (Text.withoutTrailingBlanks text) := by
  have hstart : Mute
      ("Debug.Log(" ++ logged name "Starting behavior initialization sequence" ++ ");") :=
    mute_logged hname rfl
  have hdone : Mute "_initializationComplete = true;" := mute_fixed rfl
  have hend : Mute
      ("Debug.Log(" ++ logged name "All behaviors initialized successfully" ++ ");") :=
    mute_logged hname rfl
  have hevent : Mute "SendCustomEvent(\"OnInitializationComplete\");" := mute_fixed rfl
  simp only [sequenceMethod, List.forall_mem_append, List.forall_mem_cons]
  refine ⟨⟨⟨hstart.trim, List.forall_mem_nil _⟩, ?_⟩, Tame.empty.trim, hdone.trim, hend.trim,
    hevent.trim, List.forall_mem_nil _⟩
  intro text htext
  obtain ⟨s, hs, htext⟩ := List.mem_flatMap.mp htext
  exact tame_stepBody hname hdelay (hsteps s hs) text htext

theorem tame_queryBody (hname : name.toList.all isHeadChar = true)
    (hsteps : ∀ s ∈ steps, s.IsWordlike) :
    ∀ text ∈ (queryMethod name steps).body, Tame (Text.withoutTrailingBlanks text) := by
  have hswitch : Mute "switch (behaviorName)" := mute_fixed rfl
  have hdefault : Mute "default:" := mute_fixed rfl
  have hunknown : Mute ("Debug.LogWarning(" ++ logged name "Unknown behavior name: " ++
      " + behaviorName);") :=
    mute_logged hname rfl
  have hfalse : Mute "return false;" := mute_fixed rfl
  have hunknown' := hunknown.indented.indented
  have hfalse' := hfalse.indented.indented
  simp only [← String.append_assoc] at hunknown' hfalse'
  simp only [queryMethod, List.forall_mem_append, List.forall_mem_cons]
  refine ⟨⟨⟨hswitch.trim, (Tame.brace true).trim, List.forall_mem_nil _⟩, ?_⟩,
    hdefault.indented.trim, hunknown'.trim, hfalse'.trim, (Tame.brace false).trim,
    List.forall_mem_nil _⟩
  intro text htext
  obtain ⟨s, hs, htext⟩ := List.mem_flatMap.mp htext
  have hlabel : Mute s!"case \"{s.behavior}\":" :=
    mute_around (all_isHeadChar_of_isIdentifier (hsteps s hs).behavior) rfl
  have hreturn : Mute s!"return {s.flagName};" :=
    mute_around (all_isHeadChar_of_wordlike (hsteps s hs).flagName) rfl
  have hreturn' := hreturn.indented.indented
  rw [← String.append_assoc] at hreturn'
  rcases List.mem_pair.mp htext with rfl | rfl
  · exact hlabel.indented.trim
  · exact hreturn'.trim

theorem tame_completeBody (hname : name.toList.all isHeadChar = true) :
    ∀ text ∈ (completeMethod name).body, Tame (Text.withoutTrailingBlanks text) := by
  have hdone : Mute ("Debug.Log(" ++ logged name "Initialization sequence completed!" ++ ");") :=
    mute_logged hname rfl
  exact List.forall_mem_singleton.mpr hdone.trim

theorem tame_resetBody (hsteps : ∀ s ∈ steps, s.IsWordlike) :
    ∀ text ∈ (resetMethod steps).body, Tame (Text.withoutTrailingBlanks text) := by
  have hplaying : Mute "if (Application.isPlaying)" := mute_fixed rfl
  have hcomplete : Mute "_initializationComplete = false;" := mute_fixed rfl
  have hcurrent : Mute "_currentInitializationStep = 0;" := mute_fixed rfl
  have htime : Mute "_initializationStartTime = Time.time;" := mute_fixed rfl
  have hagain : Mute "StartCoroutine(nameof(InitializeBehaviors));" := mute_fixed rfl
  simp only [resetMethod, List.forall_mem_append, List.forall_mem_cons]
  refine ⟨⟨⟨hplaying.trim, (Tame.brace true).trim, hcomplete.indented.trim,
    hcurrent.indented.trim, List.forall_mem_nil _⟩, ?_⟩, htime.indented.trim, hagain.indented.trim,
    (Tame.brace false).trim, List.forall_mem_nil _⟩
  intro text htext
  obtain ⟨s, hs, rfl⟩ := List.mem_map.mp htext
  have hflag : Mute ("" ++ s.flagName ++ " = false;") :=
    mute_around (all_isHeadChar_of_wordlike (hsteps s hs).flagName) rfl
  rw [String.empty_append] at hflag
  exact hflag.indented.trim

theorem tame_startBody : ∀ text ∈ startMethod.body, Tame (Text.withoutTrailingBlanks text) := by
  have htime : Mute "_initializationStartTime = Time.time;" := mute_fixed rfl
  have hfirst : Mute "StartCoroutine(nameof(InitializeBehaviors));" := mute_fixed rfl
  simp only [startMethod, List.forall_mem_cons]
  exact ⟨htime.trim, hfirst.trim, List.forall_mem_nil _⟩

theorem tame_body (hname : name.toList.all isHeadChar = true) (hdelay : Numeric delay.toList)
    (hsteps : ∀ s ∈ steps, s.IsWordlike) : ∀ m ∈ coordinatorMethods name delay steps,
      ∀ text ∈ m.body, Tame (Text.withoutTrailingBlanks text) := by
  simp only [coordinatorMethods, List.forall_mem_cons]
  exact ⟨tame_startBody, tame_sequenceBody hname hdelay hsteps, tame_queryBody hname hsteps,
    tame_completeBody hname, tame_resetBody hsteps, List.forall_mem_nil _⟩

end Bodies

section Methods

variable {name delay : String} {steps : List Step}

theorem exists_declaration : ∀ m ∈ coordinatorMethods name delay steps, ∃ type params,
    Code.isReadable type m.name params = true ∧
      m.declaration = Code.publicMethod type m.name params := by
  have hvoid : ∀ method ∈ ["Start", "OnInitializationComplete", "ReinitializeBehaviors"],
      Code.isReadable "void" method "" = true := by
    decide
  have hsequence : Code.isReadable "IEnumerator" "InitializeBehaviors" "" = true := by
    decide
  have hquery : Code.isReadable "bool" "IsBehaviorInitialized" "string behaviorName" = true := by
    decide
  simp only [List.forall_mem_cons] at hvoid
  obtain ⟨hstart, hcomplete, hreset, -⟩ := hvoid
  simp only [coordinatorMethods, List.forall_mem_cons]
  exact ⟨⟨"void", "", hstart, rfl⟩, ⟨"IEnumerator", "", hsequence, rfl⟩,
    ⟨"bool", "string behaviorName", hquery, rfl⟩, ⟨"void", "", hcomplete, rfl⟩,
    ⟨"void", "", hreset, rfl⟩, List.forall_mem_nil _⟩

theorem body_ne_nil : ∀ m ∈ coordinatorMethods name delay steps, m.body ≠ [] := by
  simp [coordinatorMethods, startMethod, sequenceMethod, queryMethod, completeMethod, resetMethod]

/-- A scan finds each method as it was written. -/
theorem scans_methodLines {base : String} (hbase : base.toList.all Code.isSpaceOrTab = true)
    (hname : Name.isIdentifier name = true) (hdelay : Numeric delay.toList)
    (hsteps : ∀ s ∈ steps, s.IsWordlike) {m : MethodBlock}
    (hm : m ∈ coordinatorMethods name delay steps) :
    Scans (written (m.lines.map (·.render base))) [asScanned base (m.method base)] := by
  obtain ⟨type, params, hread, hdeclaration⟩ := exists_declaration m hm
  have hbalanced := balanced_body (Code.quiet_of_isIdentifierText hname)
    (Code.quiet_of_numeric hdelay) (fun s hs => (hsteps s hs).isQuiet) m hm
  exact scans_method hbase hread hdeclaration hbalanced
    (tame_body (all_isHeadChar_of_isIdentifier hname) hdelay hsteps m hm) (body_ne_nil m hm)

end Methods

section Class

variable {name timeout delay base : String} {codeNamespace : Option String} {steps : List Step}

theorem tame_headLines (hname : Name.isIdentifier name = true) :
    ∀ l ∈ headLines name steps, Tame l.text := by
  have hcount : Mute s!"/// Manages the startup sequence of {steps.length} behaviors" :=
    mute_numeral (Numeral.numeric_toString_nat _) rfl
  have hclass : Mute s!"public class {name} : UdonSharpBehaviour" :=
    mute_around (all_isHeadChar_of_isIdentifier hname) rfl
  simp only [headLines, List.forall_mem_cons]
  exact ⟨.fixed rfl, .fixed rfl, .mute hcount, .fixed rfl, .fixed rfl, .mute hclass,
    List.forall_mem_nil _⟩

theorem tame_fieldLines (htimeout : Numeric timeout.toList) (hsteps : ∀ s ∈ steps, s.IsWordlike) :
    ∀ l ∈ fieldLines timeout steps, Tame l.text := by
  have hlimit : Mute s!"[SerializeField] private float _initializationTimeout = {timeout};" :=
    mute_numeral htimeout rfl
  simp only [fieldLines, List.forall_mem_append, List.forall_mem_cons]
  refine ⟨⟨?_, .empty, .fixed rfl, .fixed rfl, .fixed rfl, .mute hlimit, .fixed rfl, .empty,
    .fixed rfl, List.forall_mem_nil _⟩, ?_⟩
  · intro l hl
    obtain ⟨s, hs, hl⟩ := List.mem_flatMap.mp hl
    have hbehavior := all_isHeadChar_of_isIdentifier (hsteps s hs).behavior
    have hfield := all_isHeadChar_of_wordlike (hsteps s hs).fieldName
    have hheader : Mute s!"[Header(\"{s.behavior} Behavior\")]" := mute_around hbehavior rfl
    have hreference : Mute s!"[SerializeField] private {s.behavior} {s.fieldName};" :=
      mute_two hbehavior hfield rfl
    rcases List.mem_pair.mp hl with rfl | rfl
    · exact .mute hheader
    · exact .mute hreference
  · intro l hl
    obtain ⟨s, hs, rfl⟩ := List.mem_map.mp hl
    have hflag : Mute s!"private bool {s.flagName} = false;" :=
      mute_around (all_isHeadChar_of_wordlike (hsteps s hs).flagName) rfl
    exact .mute hflag

theorem scans_memberLines (hbase : base.toList.all Code.isSpaceOrTab = true)
    (hname : Name.isIdentifier name = true) (htimeout : Numeric timeout.toList)
    (hdelay : Numeric delay.toList) (hsteps : ∀ s ∈ steps, s.IsWordlike) :
    Scans (written ((memberLines name timeout delay steps).map (·.render base)))
      ((coordinatorMethods name delay steps).map fun m => asScanned base (m.method base)) := by
  have hempty : ∀ l ∈ [emptyLine], Tame l.text := List.forall_mem_singleton.mpr .empty
  have hsummary : ∀ l ∈ [emptyLine, ⟨1, "/// <summary>"⟩,
      ⟨1, "/// Initializes behaviors in the correct order"⟩, ⟨1, "/// </summary>"⟩],
      Tame l.text := by
    simp only [List.forall_mem_cons]
    exact ⟨.empty, .fixed rfl, .fixed rfl, .fixed rfl, List.forall_mem_nil _⟩
  have hproperties : ∀ l ∈ [emptyLine,
      ⟨1, "public bool IsInitializationComplete => _initializationComplete;"⟩, emptyLine,
      ⟨1, "public int CurrentInitializationStep => _currentInitializationStep;"⟩, emptyLine],
      Tame l.text := by
    simp only [List.forall_mem_cons]
    exact ⟨.empty, .fixed rfl, .empty, .fixed rfl, .empty, List.forall_mem_nil _⟩
  have hmenu : ∀ l ∈ [emptyLine, ⟨1, "[ContextMenu(\"Reinitialize Behaviors\")]"⟩],
      Tame l.text := by
    simp only [List.forall_mem_cons]
    exact ⟨.empty, .fixed rfl, List.forall_mem_nil _⟩
  have hmethods : ∀ m ∈ coordinatorMethods name delay steps,
      Scans (written (m.lines.map (·.render base))) [asScanned base (m.method base)] :=
    fun m hm => scans_methodLines hbase hname hdelay hsteps hm
  simp only [coordinatorMethods, List.forall_mem_cons] at hmethods
  obtain ⟨hstart, hsequence, hquery, hcomplete, hreset, -⟩ := hmethods
  have hall := (scans_written hbase (tame_fieldLines htimeout hsteps)).append <|
    (scans_written hbase hempty).append <| hstart.append <|
    (scans_written hbase hsummary).append <| hsequence.append <|
    (scans_written hbase hproperties).append <| hquery.append <|
    (scans_written hbase hempty).append <| hcomplete.append <|
    (scans_written hbase hmenu).append hreset
  simp only [memberLines, List.map_append, written_append, List.append_assoc]
  exact hall

theorem scans_coordinatorLines (hbase : base.toList.all Code.isSpaceOrTab = true)
    (hname : Name.isIdentifier name = true) (htimeout : Numeric timeout.toList)
    (hdelay : Numeric delay.toList) (hsteps : ∀ s ∈ steps, s.IsWordlike) :
    Scans (written ((coordinatorLines name timeout delay steps).map (·.render base)))
      ((coordinatorMethods name delay steps).map fun m => asScanned base (m.method base)) := by
  have hhead : ∀ l ∈ headLines name steps, Tame l.text := tame_headLines hname
  have hopen : ∀ l ∈ [⟨0, openBrace⟩], Tame (CodeLine.text l) :=
    List.forall_mem_singleton.mpr (.brace true)
  have hclose : ∀ l ∈ [⟨0, closeBrace⟩], Tame (CodeLine.text l) :=
    List.forall_mem_singleton.mpr (.brace false)
  have hall := (scans_written hbase hhead).append <| (scans_written hbase hopen).append <|
    (scans_memberLines hbase hname htimeout hdelay hsteps).append (scans_written hbase hclose)
  simpa only [coordinatorLines, List.map_append, written_append, List.append_assoc,
    List.nil_append, List.append_nil] using hall

/-- The brace after the name of a namespace stops every line that starts in it. -/
theorem scans_namespaceLines {n : String} (hn : Name.isNamespace n = true) :
    Scans (written ["namespace " ++ n, openBrace]) [] := by
  have hhole : (n.toList ++ ['\n']).all isHeadChar = true := by
    have hnewline : isHeadChar '\n' = true := by decide
    rw [List.all_append, all_isHeadChar_of_isNamespace hn, List.all_cons, hnewline]
    rfl
  have hmute : Code.isMuteFrame ["namespace ".toList, openBrace.toList] = true := by
    decide
  have hfilled := Code.Filled.hole "namespace ".toList hhole (.last openBrace.toList)
  have hnil : ([] : List Char).all Code.isSpaceOrTab = true := rfl
  simpa [written] using hfilled.scans hmute hnil

theorem scans_wrapped {lines : List CodeLine} {methods : List Method}
    (hnamespace : ∀ n, codeNamespace = some n → Name.isNamespace n = true)
    (h : Scans (written (lines.map (·.render (baseIndent codeNamespace)))) methods) :
    Scans (written (wrapped codeNamespace lines)) methods := by
  cases codeNamespace with
  | none => exact h
  | some n =>
    have hopen := scans_namespaceLines (hnamespace n rfl)
    have hclose : Scans (written [closeBrace]) [] := by
      simpa [written] using (Tame.brace false).scans (rfl : [].all Code.isSpaceOrTab = true)
    have hall := (hopen.append h).append hclose
    simpa only [wrapped, written_append, List.nil_append, List.append_nil] using hall

theorem scans_fileLines (hname : Name.isIdentifier name = true) (htimeout : Numeric timeout.toList)
    (hdelay : Numeric delay.toList) (hsteps : ∀ s ∈ steps, s.IsWordlike)
    (hnamespace : ∀ n, codeNamespace = some n → Name.isNamespace n = true) :
    Scans (written (fileLines name timeout delay codeNamespace steps))
      ((coordinatorMethods name delay steps).map fun m =>
        asScanned (baseIndent codeNamespace) (m.method (baseIndent codeNamespace))) := by
  have husings : ∀ u ∈ usings, Tame s!"using {u};" := by
    have hall : ∀ u ∈ usings, u.toList.all isHeadChar = true := by decide
    intro u hu
    have husing : Mute s!"using {u};" := mute_around (hall u hu) rfl
    exact .mute husing
  have hlines : ∀ text ∈ usings.map (fun u => s!"using {u};") ++ [""], Tame text := by
    rw [List.forall_mem_append, List.forall_mem_map, List.forall_mem_singleton]
    exact ⟨husings, .empty⟩
  have hhead := scans_written_of_forall fun text htext =>
    (hlines text htext).scans (rfl : [].all Code.isSpaceOrTab = true)
  have hclass := scans_coordinatorLines (all_isSpaceOrTab_baseIndent codeNamespace) hname htimeout
    hdelay hsteps
  rw [fileLines, written_append]
  exact hhead.append (scans_wrapped hnamespace hclass)

end Class

section Scan

/-- Scanning the code for any sequence of identifiers finds the methods that were recorded when the
code was written: they have the same names and declarations and come in the same order, and their
bodies lie between the line feed after the opening brace and the closing brace. The code can be
written whenever its times are in the range of doubles. -/
theorem declaredMethods_of_render_steps (settings : StartupSettings) (order : List String)
    (hsettings : Checked.defect? settings = none)
    (horder : ∀ b ∈ order, Name.isIdentifier b = true) :
    (∀ c, render settings.coordinatorName (steps order) settings = .ok c →
        c.methods.map (·.name) = ["Start", "InitializeBehaviors", "IsBehaviorInitialized",
          "OnInitializationComplete", "ReinitializeBehaviors"] ∧
        Code.declaredMethods { c with methods := [] } =
          c.methods.map (asScanned (baseIndent (settings.codeNamespace.filter (· ≠ ""))))) ∧
      (settings.timeout.toDouble? ≠ none →
        (order ≠ [] → settings.stepDelay.toDouble? ≠ none) →
        ∃ c, render settings.coordinatorName (steps order) settings = .ok c) := by
  have hlegal := StartupSettings.legal_of_sound hsettings
  have hname := Name.isIdentifier_of_isClassName hlegal.coordinatorName
  refine ⟨fun c hc => ?_, fun htimeout hdelay => ?_⟩
  · obtain ⟨-, timeout, delay, htimeout, hdelay, hsource, hmethods⟩ := render_inv hc
    have hnamespace : ∀ n, settings.codeNamespace.filter (· ≠ "") = some n →
        Name.isNamespace n = true :=
      fun n hn => hlegal.codeNamespace n (Option.eq_some_of_filter_eq_some hn)
    have hscans := scans_fileLines hname htimeout hdelay
      (fun _ => isWordlike_of_mem_steps horder) hnamespace
    rw [← toList_unlines fileLines_ne_nil, ← hsource] at hscans
    constructor
    · rw [hmethods]
      rfl
    · rw [Code.declaredMethods, if_pos rfl, hscans.scanMethods_eq, hmethods, List.map_map]
      rfl
  · have hsome : steps order ≠ [] → order ≠ [] := by
      intro hsteps horder
      exact hsteps (by rw [horder]; rfl)
    exact exists_render_eq_ok (Name.ne_empty_of_isIdentifier hname) htimeout
      fun hsteps => hdelay (hsome hsteps)

theorem exists_declaredMethods_render_steps :
    ∃ c, render "BehaviorCoordinator" (steps ["DoorLock", "door_lock"])
        { codeNamespace := some "House.Entry" } = .ok c ∧
      Code.declaredMethods { c with methods := [] } = c.methods.map (asScanned indent) := by
  obtain ⟨hscan, hrender⟩ := declaredMethods_of_render_steps
    { codeNamespace := some "House.Entry" } ["DoorLock", "door_lock"]
    StartupSettings.sound_houseEntry (by decide)
  obtain ⟨c, hc⟩ := hrender nofun nofun
  exact ⟨c, hc, (hscan c hc).2⟩

end Scan

end BehaviorPlan.Startup
