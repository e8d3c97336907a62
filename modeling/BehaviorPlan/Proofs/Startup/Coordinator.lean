import BehaviorPlan.Proofs.Number.Range
import BehaviorPlan.Proofs.Startup.Source
import BehaviorPlan.Proofs.Table

/-! # Synthesis of the coordinator

For distinct known behaviors and legal settings the coordinator is always synthesized: its steps
follow the order, their fields are told apart, and no rule finds an error in its text. -/
namespace BehaviorPlan

open Code (Quiet Weighs)

/-- Settings with legal names and admissible times. -/
structure StartupSettings.Legal (s : StartupSettings) : Prop where
  coordinatorName : Name.isClassName s.coordinatorName = true
  timeout : s.timeout.le .zero = false
  codeNamespace : ∀ n ∈ s.codeNamespace, Name.isNamespace n = true

theorem StartupSettings.legal_of_sound {s : StartupSettings} (h : Checked.defect? s = none) :
    s.Legal := by
  simp only [Checked.defect?, Option.or_eq_none_iff, defectIf_eq_none_iff, Bool.not_eq_false',
    Option.bind_eq_none_iff] at h
  obtain ⟨⟨⟨_, hname⟩, htimeout, _⟩, hnamespace⟩ := h
  exact ⟨hname, htimeout, hnamespace⟩

theorem StartupSettings.sound_default : Checked.defect? ({} : StartupSettings) = none := by
  decide +kernel

theorem StartupSettings.sound_houseEntry :
    Checked.defect? ({ codeNamespace := some "House.Entry" } : StartupSettings) = none := by
  decide +kernel

theorem Config.sound_default : Checked.defect? ({} : Config) = none := by
  decide +kernel

namespace Code

theorem inheritsBase_append (xs : List Char) {ys : List Char} (h : inheritsBase ys = true) :
    inheritsBase (xs ++ ys) = true := by
  induction xs with
  | nil => exact h
  | cons x xs ih => rw [List.cons_append, inheritsBase, ih, Bool.or_true]

theorem inheritsBase_declaration (rest : List Char) :
    inheritsBase (": UdonSharpBehaviour".toList ++ '\n' :: rest) = true := by
  have hstart : startsWithBase (baseClass ++ '\n' :: rest) = true := by
    have hnewline : Text.isWordChar '\n' = false := by decide
    simp [startsWithBase, hnewline]
  have hblank : (' ' :: (baseClass ++ '\n' :: rest)).dropWhile Text.isBlank =
      baseClass ++ '\n' :: rest := rfl
  have htext : ": UdonSharpBehaviour".toList ++ '\n' :: rest =
      ':' :: ' ' :: (baseClass ++ '\n' :: rest) := rfl
  rw [htext, inheritsBase, hblank, hstart]
  rfl

end Code

namespace Startup

section Text

variable {name timeout delay : String} {codeNamespace : Option String} {steps : List Step}

theorem fileLines_ne_nil : fileLines name timeout delay codeNamespace steps ≠ [] := by
  simp [fileLines]

theorem weighs_fileLines (hname : Quiet name.toList) (htimeout : Quiet timeout.toList)
    (hdelay : Quiet delay.toList) (hsteps : ∀ s ∈ steps, s.IsQuiet)
    (hnamespace : ∀ n, codeNamespace = some n → Quiet n.toList) :
    Weighs (written (fileLines name timeout delay codeNamespace steps)) 0 := by
  have husings : Weighs (written (usings.map (fun u => s!"using {u};") ++ [""])) 0 := by
    refine Code.weighs_flatMap fun text htext => Code.weighs_plain ?_
    revert text
    decide
  rw [fileLines, written_append]
  exact husings.append (weighs_written_wrapped hnamespace
    (balanced_coordinatorLines hname htimeout hdelay hsteps))

theorem mem_wrapped (codeNamespace : Option String) {lines : List CodeLine} {l : CodeLine}
    (h : l ∈ lines) : l.render (baseIndent codeNamespace) ∈ wrapped codeNamespace lines := by
  cases codeNamespace with
  | none => exact List.mem_map_of_mem h
  | some n => exact List.mem_append_left _ (List.mem_append_right _ (List.mem_map_of_mem h))

theorem inheritsBase_fileLines :
    Code.inheritsBase (written (fileLines name timeout delay codeNamespace steps)) = true := by
  have hline : ⟨0, s!"public class {name} : UdonSharpBehaviour"⟩ ∈
      coordinatorLines name timeout delay steps := by
    simp [coordinatorLines, headLines]
  have hmem := List.mem_append_right (usings.map (fun u => s!"using {u};") ++ [""])
    (mem_wrapped codeNamespace hline)
  obtain ⟨before, after, hsplit⟩ := List.append_of_mem hmem
  have hrender : ∃ front : List Char,
      (CodeLine.render (baseIndent codeNamespace)
        ⟨0, s!"public class {name} : UdonSharpBehaviour"⟩).toList =
          front ++ ": UdonSharpBehaviour".toList := by
    refine ⟨(baseIndent codeNamespace ++ indentation 0 ++ s!"public class {name} ").toList, ?_⟩
    simp [CodeLine.render, toString]
  obtain ⟨front, hfront⟩ := hrender
  rw [fileLines, hsplit, written_append, written_cons, hfront]
  simp only [List.append_assoc, List.singleton_append]
  exact Code.inheritsBase_append _ (Code.inheritsBase_append _ (Code.inheritsBase_declaration _))

end Text

section Render

variable {name : String} {steps : List Step} {settings : StartupSettings} {c : ClassSource}

theorem exists_floatLiteral_eq_ok {q : Quantity} (h : q.toDouble? ≠ none) :
    ∃ text, floatLiteral q = .ok text := by
  obtain ⟨d, hd⟩ := Option.ne_none_iff_exists'.mp h
  exact ⟨_, Outcome.bind_eq_ok_iff.mpr ⟨d, Quantity.toDouble_of_some hd, rfl⟩⟩

theorem sound_of_mem_coordinatorMethods {delay : String} {base : String} {m : Method}
    (h : m ∈ (coordinatorMethods name delay steps).map (·.method base)) :
    Checked.defect? m = none := by
  simp only [coordinatorMethods, List.map_cons, List.map_nil, List.mem_cons, List.not_mem_nil,
    or_false] at h
  simp only [Checked.defect?, Option.or_eq_none_iff, blank?_eq_none_iff]
  rcases h with rfl | rfl | rfl | rfl | rfl <;>
    simp [MethodBlock.method, startMethod, sequenceMethod, queryMethod, completeMethod, resetMethod]

theorem exists_render_eq_ok (hname : name ≠ "") (htimeout : settings.timeout.toDouble? ≠ none)
    (hdelay : steps ≠ [] → settings.stepDelay.toDouble? ≠ none) :
    ∃ c, render name steps settings = .ok c := by
  obtain ⟨timeout, htimeout⟩ := exists_floatLiteral_eq_ok htimeout
  obtain ⟨delay, hdelay⟩ : ∃ delay, delayLiteral steps settings.stepDelay = .ok delay := by
    unfold delayLiteral
    split
    · exact ⟨"", rfl⟩
    · rename_i hsteps
      exact exists_floatLiteral_eq_ok (hdelay hsteps)
  refine ⟨_, Outcome.bind_eq_ok_iff.mpr ⟨timeout, htimeout, Outcome.bind_eq_ok_iff.mpr
    ⟨delay, hdelay, Outcome.bind_eq_ok_iff.mpr ⟨_, checkedAll_of_sound fun _ =>
      sound_of_mem_coordinatorMethods, checked_of_sound ?_⟩⟩⟩⟩
  simpa [Checked.defect?] using hname

theorem numeric_delayLiteral {steps : List Step} {delay : Quantity} {text : String}
    (h : delayLiteral steps delay = .ok text) : Numeral.Numeric text.toList := by
  unfold delayLiteral at h
  split at h
  · obtain rfl := Except.ok.inj h
    exact Numeral.numeric_nil
  · exact numeric_floatLiteral h

theorem render_inv (h : render name steps settings = .ok c) : c.name = name ∧
    ∃ timeout delay, Numeral.Numeric timeout.toList ∧ Numeral.Numeric delay.toList ∧
      c.source = Text.unlines (fileLines name timeout delay
        (settings.codeNamespace.filter (· ≠ "")) steps) ∧
      c.methods = (coordinatorMethods name delay steps).map
        (·.method (baseIndent (settings.codeNamespace.filter (· ≠ "")))) := by
  obtain ⟨timeout, htimeout, h⟩ := Outcome.bind_eq_ok_iff.mp h
  obtain ⟨delay, hdelay, h⟩ := Outcome.bind_eq_ok_iff.mp h
  obtain ⟨methods, hmethods, h⟩ := Outcome.bind_eq_ok_iff.mp h
  obtain ⟨_, rfl⟩ := checked_eq_ok_iff.mp h
  exact ⟨rfl, timeout, delay, numeric_floatLiteral htimeout, numeric_delayLiteral hdelay, rfl,
    (checkedAll_eq_ok_iff.mp hmethods).2⟩

/-- A coordinator of quiet steps passes, whatever the times are. -/
theorem passes_of_render (hsettings : settings.Legal) (hname : Name.isClassName name = true)
    (hsteps : ∀ s ∈ steps, s.IsQuiet) (h : render name steps settings = .ok c) :
    Code.Passes c := by
  obtain ⟨rfl, timeout, delay, htimeout, hdelay, hsource, -⟩ := render_inv h
  obtain ⟨hidentifier, hkeyword⟩ := (Name.isClassName_iff c.name).mp hname
  have hnamespace : ∀ n, settings.codeNamespace.filter (· ≠ "") = some n → Quiet n.toList :=
    fun n hn => Code.quiet_of_isNamespace
      (hsettings.codeNamespace n (Option.eq_some_of_filter_eq_some hn))
  have htext : c.source.toList = written (fileLines c.name timeout delay
      (settings.codeNamespace.filter (· ≠ "")) steps) := by
    rw [hsource, toList_unlines fileLines_ne_nil]
  have hweighs := weighs_fileLines (Code.quiet_of_isIdentifierText hidentifier)
    (Code.quiet_of_numeric htimeout) (Code.quiet_of_numeric hdelay) hsteps hnamespace
  rw [← htext] at hweighs
  obtain ⟨hbraces, hparentheses⟩ := Code.count_stripLiterals_of_weighs hweighs
  exact
    { name := by simp [Code.nameRemarks, hidentifier, Name.isKeyword, hkeyword]
      braces := hbraces
      parentheses := hparentheses
      base := htext ▸ inheritsBase_fileLines }

end Render

section Synthesis

variable {settings : StartupSettings} {order : List String} {behaviors : List Behavior}
  {c : Coordinator}

theorem mismatch?_steps (order : List String) :
    Coordinator.mismatch? (steps order) order = none := by
  have hzip := List.map_prod_left_eq_zip (l := steps order) (f := (·.behavior))
  rw [steps_behavior] at hzip
  rw [Coordinator.mismatch?, ← hzip, List.findSome?_eq_none_iff]
  intro p hp
  obtain ⟨s, _, rfl⟩ := List.mem_map.mp hp
  exact if_pos rfl

theorem sound_coordinator {name : String} {source : ClassSource} (hsettings : settings.Legal)
    (hnodup : order.Nodup) : Checked.defect? (Coordinator.mk name order (steps order)
      settings.timeout (.ofKeys order.eraseDups fun _ => false) source) = none := by
  have hflags : (Table.ofKeys order fun _ => false).values.any id = false := by
    simp [Table.ofKeys, Table.values]
  have hnames : Coordinator.sameNames order order = true := by simp [Coordinator.sameNames]
  simp only [Checked.defect?, Option.or_eq_none_iff, defectIf_eq_none_iff, length_steps,
    mismatch?_steps, hnodup, stepNames_nodup, hsettings.timeout, Table.keys_ofKeys,
    eraseDups_eq_self hnodup, hnames, hflags]
  simp

theorem exists_synthesize_eq_ok (hsettings : settings.Legal)
    (htimeout : settings.timeout.toDouble? ≠ none) (hdelay : settings.stepDelay.toDouble? ≠ none)
    (hnodup : order.Nodup) (hmem : ∀ b ∈ order, b ∈ behaviors.map (·.name))
    (hblank : ∀ b ∈ order, b ≠ "") : ∃ c, synthesize settings order behaviors = .ok c := by
  have hname := Name.ne_empty_of_isIdentifier (Name.isIdentifier_of_isClassName hsettings.coordinatorName)
  obtain ⟨source, hsource⟩ : ∃ source, render _ (steps order) settings = .ok source :=
    exists_render_eq_ok hname htimeout fun _ => hdelay
  have hknown : order.find? (· ∉ behaviors.map (·.name)) = none :=
    List.find?_eq_none.mpr fun b hb => by simpa using hmem b hb
  unfold synthesize
  simp only [hknown]
  exact ⟨_, Outcome.bind_eq_ok_iff.mpr ⟨_, checkedAll_of_sound fun _ => sound_of_mem_steps hblank,
    Outcome.bind_eq_ok_iff.mpr
      ⟨source, hsource, checked_of_sound (sound_coordinator hsettings hnodup)⟩⟩⟩

theorem synthesize_inv (h : synthesize settings order behaviors = .ok c) :
    c.name = settings.coordinatorName ∧ c.order = order ∧ c.steps = steps order ∧
      render settings.coordinatorName (steps order) settings = .ok c.source := by
  unfold synthesize at h
  dsimp only at h
  split at h
  · simp at h
  · obtain ⟨_, hsteps, h⟩ := Outcome.bind_eq_ok_iff.mp h
    obtain ⟨_, rfl⟩ := checkedAll_eq_ok_iff.mp hsteps
    obtain ⟨source, hsource, h⟩ := Outcome.bind_eq_ok_iff.mp h
    obtain ⟨_, rfl⟩ := checked_eq_ok_iff.mp h
    exact ⟨rfl, rfl, rfl, hsource⟩

/-- The coordinator of behaviors whose names are identifiers passes. -/
theorem passes_of_synthesize (hsettings : settings.Legal)
    (horder : ∀ b ∈ order, Name.isIdentifier b = true)
    (h : synthesize settings order behaviors = .ok c) : Code.Passes c.source :=
  passes_of_render hsettings hsettings.coordinatorName (fun _ => isQuiet_of_mem_steps horder)
    (synthesize_inv h).2.2.2

/-- Under valid settings, the code for any sequence of identifiers passes, so that no rule finds an
error in it. It can be written whenever its times are in the range of doubles. -/
theorem passes_of_render_steps (settings : StartupSettings) (order : List String)
    (hsettings : Checked.defect? settings = none)
    (horder : ∀ b ∈ order, Name.isIdentifier b = true) :
    (∀ c, render settings.coordinatorName (steps order) settings = .ok c →
        Code.Passes c ∧ ∀ rules, ∀ f ∈ Code.findingsOn rules c, f.isError = false) ∧
      (settings.timeout.toDouble? ≠ none →
        (order ≠ [] → settings.stepDelay.toDouble? ≠ none) →
        checkedAll (steps order) = .ok (steps order) ∧
          ∃ c, render settings.coordinatorName (steps order) settings = .ok c) := by
  have hlegal := StartupSettings.legal_of_sound hsettings
  refine ⟨fun c hc => ?_, fun htimeout hdelay => ?_⟩
  · have hpasses := passes_of_render hlegal hlegal.coordinatorName
      (fun _ => isQuiet_of_mem_steps horder) hc
    exact ⟨hpasses, fun _ _ => hpasses.isError_eq_false⟩
  · have hname := Name.ne_empty_of_isIdentifier (Name.isIdentifier_of_isClassName hlegal.coordinatorName)
    have hblank : ∀ b ∈ order, b ≠ "" := fun b hb => Name.ne_empty_of_isIdentifier (horder b hb)
    have hsome : steps order ≠ [] → order ≠ [] := by
      intro hsteps horder
      exact hsteps (by rw [horder]; rfl)
    exact ⟨checkedAll_of_sound fun _ => sound_of_mem_steps hblank,
      exists_render_eq_ok hname htimeout fun hsteps => hdelay (hsome hsteps)⟩

/-- Two names of one snake case form, inside a namespace. -/
theorem exists_passes_render_steps :
    ∃ c, render "BehaviorCoordinator" (steps ["DoorLock", "door_lock"])
        { codeNamespace := some "House.Entry" } = .ok c ∧
      Code.Passes c ∧ ∀ f ∈ Code.findingsOn Rule.all c, f.isError = false := by
  obtain ⟨hpasses, hrender⟩ := passes_of_render_steps { codeNamespace := some "House.Entry" }
    ["DoorLock", "door_lock"] StartupSettings.sound_houseEntry (by decide)
  obtain ⟨-, c, hc⟩ := hrender nofun nofun
  obtain ⟨hc', hfindings⟩ := hpasses c hc
  exact ⟨c, hc, hc', hfindings Rule.all⟩

end Synthesis

end Startup

end BehaviorPlan
