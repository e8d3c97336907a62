import BehaviorPlan.Pipeline
import BehaviorPlan.Proofs.Analysis.Report
import BehaviorPlan.Proofs.Partition.Entry
import BehaviorPlan.Proofs.Startup.Coordinator
import BehaviorPlan.Proofs.Startup.Order
import BehaviorPlan.Proofs.Verdict

/-! # Stages of a run

The names in a partition that does not block are distinct identifiers. That is all that the later
stages need: the graph is simple, the search for cycles and the ordering agree, and the generated
code is sound. What the stages of a run hand on to each other is kept in one place. -/
namespace BehaviorPlan

/-- The names of behaviors are distinct identifiers, and none is reserved. -/
structure Partition.WellNamed (config : Config) (p : Partition) : Prop where
  nodup : (p.behaviors.map (·.name)).Nodup
  identifier : ∀ n ∈ p.behaviors.map (·.name), Name.isIdentifier n = true
  not_reserved : ∀ n ∈ p.behaviors.map (·.name), n ∉ config.reservedNames

theorem Partition.wellNamed_of_ofFunctions {config : Config} {functions : List FunctionDecl}
    {p : Partition} (h : ofFunctions config functions = .ok p) : p.WellNamed config := by
  cases hb : p.blocking with
  | true =>
    obtain ⟨hnil, -⟩ := eq_empty_of_blocking h hb
    constructor <;> simp [hnil]
  | false =>
    obtain ⟨haccepted, hbehaviors, -⟩ := ofFunctions_inv h hb
    have hnames : p.behaviors.map (·.name) = homes functions := by
      rw [hbehaviors, names_assembledAll]
    have hlegal : ∀ {n}, n ∈ homes functions →
        Name.isClassName n = true ∧ n ∉ config.reservedNames := fun hn =>
      Declared.nameProblem?_eq_none_iff.mp (nameProblem?_of_mem_homes haccepted hn)
    exact
      { nodup := hnames ▸ nodup_eraseDups _
        identifier := fun n hn => Name.isIdentifier_of_isClassName (hlegal (hnames ▸ hn)).1
        not_reserved := fun n hn => (hlegal (hnames ▸ hn)).2 }

namespace Pipeline

section Ordering

variable (settings : StartupSettings) {behaviors : List Behavior} {g : Graph} {a : Analysis}

/-- How the search for an order can end. -/
inductive Ordered (settings : StartupSettings) (g : Graph) : OrderStage → Prop
  | cyclic (hcyclic : ¬ g.Acyclic) : Ordered settings g {}
  | automatic {order : List String} (hauto : settings.automaticOrder = true)
      (horder : g.IsStartupOrder order) : Ordered settings g { order }
  | manual (hmanual : settings.automaticOrder = false)
      (horder : g.IsStartupOrder settings.manualOrder) :
      Ordered settings g { order := settings.manualOrder }
  | refused {messages : List String} (hmanual : settings.automaticOrder = false)
      (horder : ¬ g.IsStartupOrder settings.manualOrder) (hne : messages ≠ []) :
      Ordered settings g { findings := messages.map orderFinding }

theorem exists_orderOrFindings (hg : g.Simple) (hacyclic : g.Acyclic)
    (hnodes : g.nodes = behaviors.map (·.name)) :
    ∃ s, orderOrFindings settings behaviors g = .ok s ∧ Ordered settings g s := by
  cases hauto : settings.automaticOrder with
  | true =>
    obtain ⟨order, horder, hstartup⟩ :=
      Graph.startupOrder_of_acyclic hg.toConsistent hg.balanced hacyclic
    rw [← Startup.order_of_automatic hauto (Startup.matching_of_nodes hnodes)] at horder
    exact ⟨{ order }, by rw [orderOrFindings, horder], .automatic hauto hstartup⟩
  | false =>
    rcases Startup.order_of_manual hg.toConsistent hauto (Startup.matching_of_nodes hnodes) with
      ⟨hstartup, horder⟩ | ⟨hnot, problems, hne, horder⟩
    · exact ⟨_, by rw [orderOrFindings, horder], .manual hauto hstartup⟩
    · have hsound : checkedAll (problems.messages.map orderFinding) =
          .ok (problems.messages.map orderFinding) := by
        refine checkedAll_of_sound fun f hf => ?_
        obtain ⟨message, hmessage, rfl⟩ := List.mem_map.mp hf
        exact (Finding.sound_iff rfl).mpr (Startup.ne_empty_of_mem_messages hmessage)
      refine ⟨{ findings := problems.messages.map orderFinding }, ?_, .refused hauto hnot hne⟩
      simp [orderOrFindings, horder, hsound, bind, Except.bind, pure, Except.pure]

theorem exists_orderStage (hg : g.Simple) (hnodes : g.nodes = behaviors.map (·.name))
    (hcycles : a.hasCycles = false ↔ g.Acyclic) :
    ∃ s, orderStage settings behaviors g a = .ok s ∧ Ordered settings g s := by
  cases hhas : a.hasCycles with
  | true =>
    have hcyclic : ¬ g.Acyclic := fun h => Bool.false_ne_true ((hcycles.mpr h).symm.trans hhas)
    exact ⟨{}, by rw [orderStage, if_pos hhas], .cyclic hcyclic⟩
  | false =>
    obtain ⟨s, hs, hordered⟩ := exists_orderOrFindings settings hg (hcycles.mp hhas) hnodes
    exact ⟨s, by rw [orderStage, hhas]; exact hs, hordered⟩

variable {settings} in
theorem Ordered.isStartupOrder {s : OrderStage} (h : Ordered settings g s) (hne : s.order ≠ []) :
    g.IsStartupOrder s.order := by
  cases h with
  | cyclic => exact absurd rfl hne
  | automatic _ horder => exact horder
  | manual _ horder => exact horder
  | refused => exact absurd rfl hne

end Ordering

section Code

variable {settings : StartupSettings} {order : List String} {behaviors : List Behavior}
  {code : StartupCode}

theorem exists_startupCode_eq_ok (hsettings : settings.Legal)
    (htimeout : settings.timeout.toDouble? ≠ none) (hdelay : settings.stepDelay.toDouble? ≠ none)
    (horder : order ≠ [] → order.Perm (behaviors.map (·.name)))
    (hn : (behaviors.map (·.name)).Nodup)
    (hidentifier : ∀ n ∈ behaviors.map (·.name), Name.isIdentifier n = true) :
    ∃ code, startupCode settings order behaviors = .ok code := by
  unfold startupCode
  split
  · rename_i h
    have hperm := horder h.1
    obtain ⟨c, hc⟩ := Startup.exists_synthesize_eq_ok hsettings htimeout hdelay
      (hperm.nodup_iff.mpr hn) (fun b hb => hperm.mem_iff.mp hb)
      (fun b hb => Name.ne_empty_of_isIdentifier (hidentifier b (hperm.mem_iff.mp hb)))
    exact ⟨_, Outcome.bind_eq_ok_iff.mpr ⟨c, hc, rfl⟩⟩
  · exact ⟨{}, rfl⟩

theorem startupCode_inv (h : startupCode settings order behaviors = .ok code) :
    code = {} ∨ ∃ c, order ≠ [] ∧ Startup.synthesize settings order behaviors = .ok c ∧
      code.coordinator = some c ∧ code.hints = Startup.hints settings order := by
  unfold startupCode at h
  split at h
  · rename_i hgenerate
    obtain ⟨c, hc, h⟩ := Outcome.bind_eq_ok_iff.mp h
    obtain rfl := Except.ok.inj h
    exact Or.inr ⟨c, hgenerate.1, hc, rfl, rfl⟩
  · exact Or.inl (Except.ok.inj h).symm

end Code

/-- What the stages of a run that is not stopped early hand on: the graph of the direct calls, its
analysis, the order, the startup code, the findings on generated code, and the verdict. -/
structure Stages (config : Config) (rules : List Rule) (classes : List ClassSource) (r : Run)
    (g : Graph) (a : Analysis) (s : OrderStage) : Prop where
  graph : r.graph = some g
  simple : g.Simple
  nodes : g.nodes = r.partition.behaviors.map (·.name)
  edge_iff : ∀ x y, g.Edge x y ↔
    DirectCall r.partition.behaviors x y ∧ y ∈ r.partition.behaviors.map (·.name)
  unknownTargets : a.unknownTargets = Graph.unknownTargetsOf r.partition.behaviors
  cycles : a.cycles = [] ↔ g.Acyclic
  order : r.order = s.order
  ordered : Ordered config.startup g s
  code : startupCode config.startup s.order r.partition.behaviors =
    .ok ⟨r.coordinator, r.hints, r.editorScript⟩
  issues : r.issues = Code.findings rules (classes ++ (r.coordinator.map (·.source)).toList)
  verdict : Verdict.decide r.partition.validation (some a) r.issues s.findings
    config.sharedRuntimeName = .ok r.verdict

section Partitioned

variable {config : Config} {rules : List Rule} {classes : List ClassSource} {p : Partition}

theorem cycles_eq_nil_iff_acyclic {behaviors : List Behavior} {g : Graph} {a : Analysis}
    (hg : g.Consistent) (ha : Analysis.ofBehaviors config behaviors (some g) = .ok a) :
    a.cycles = [] ↔ g.Acyclic := by
  rw [← Graph.cycles_eq_nil_iff hg, ← (Analysis.ofBehaviors_inv ha).1, List.map_eq_nil_iff]

theorem stages_of_runPartition {r : Run} (hp : p.WellNamed config)
    (h : runPartition config rules p classes = .ok r) :
    r.partition = p ∧ ∃ g a s, Stages config rules classes r g a s := by
  obtain ⟨g, hg, hsimple, hnodes, hedge, hunknown⟩ := Graph.ofBehaviors_spec hp.nodup
  obtain ⟨g', hg', h⟩ := Outcome.bind_eq_ok_iff.mp h
  obtain rfl := Except.ok.inj (hg'.symm.trans hg)
  obtain ⟨a, ha, h⟩ := Outcome.bind_eq_ok_iff.mp h
  have hcycles := cycles_eq_nil_iff_acyclic hsimple.toConsistent ha
  obtain ⟨s, hs, hordered⟩ := exists_orderStage config.startup (a := a) hsimple hnodes
    (Analysis.hasCycles_eq_false_iff.trans hcycles)
  obtain ⟨s', hs', h⟩ := Outcome.bind_eq_ok_iff.mp h
  obtain rfl := Except.ok.inj (hs'.symm.trans hs)
  obtain ⟨code, hcode, h⟩ := Outcome.bind_eq_ok_iff.mp h
  obtain ⟨issues, hissues, h⟩ := Outcome.bind_eq_ok_iff.mp h
  obtain ⟨_, rfl⟩ := checkedAll_eq_ok_iff.mp hissues
  obtain ⟨verdict, hverdict, h⟩ := Outcome.bind_eq_ok_iff.mp h
  obtain rfl := Except.ok.inj h
  exact ⟨rfl, _, a, _,
    { graph := rfl
      simple := hsimple
      nodes := hnodes
      edge_iff := hedge
      unknownTargets := (Analysis.ofBehaviors_inv ha).2.trans hunknown
      cycles := hcycles
      order := rfl
      ordered := hordered
      code := hcode
      issues := rfl
      verdict := hverdict }⟩

theorem exists_runPartition_eq_ok (rules : List Rule) (classes : List ClassSource)
    (hp : p.WellNamed config) (hsettings : config.startup.Legal)
    (htimeout : config.startup.timeout.toDouble? ≠ none)
    (hdelay : config.startup.stepDelay.toDouble? ≠ none) :
    ∃ r, runPartition config rules p classes = .ok r := by
  obtain ⟨g, hg, hsimple, hnodes, -⟩ := Graph.ofBehaviors_spec hp.nodup
  obtain ⟨a, ha⟩ := Analysis.exists_ofBehaviors_eq_ok config hsimple.toConsistent hnodes
  have hcycles := cycles_eq_nil_iff_acyclic hsimple.toConsistent ha
  obtain ⟨s, hs, hordered⟩ := exists_orderStage config.startup hsimple hnodes
    (Analysis.hasCycles_eq_false_iff.trans hcycles)
  have horder : s.order ≠ [] → s.order.Perm (p.behaviors.map (·.name)) := fun hne =>
    hnodes ▸ (hordered.isStartupOrder hne).perm
  obtain ⟨code, hcode⟩ := exists_startupCode_eq_ok hsettings htimeout hdelay horder hp.nodup
    hp.identifier
  have hissues : checkedAll (Code.findings rules
      (classes ++ (code.coordinator.map (·.source)).toList)) = .ok _ :=
    checkedAll_of_sound fun _ => Code.sound_of_mem_codeFindings
  obtain ⟨verdict, hverdict⟩ := Verdict.exists_decide_eq_ok p.validation (some a)
    (Code.findings rules (classes ++ (code.coordinator.map (·.source)).toList)) s.findings
    config.sharedRuntimeName
  exact ⟨_, Outcome.bind_eq_ok_iff.mpr ⟨g, hg, Outcome.bind_eq_ok_iff.mpr ⟨a, ha,
    Outcome.bind_eq_ok_iff.mpr ⟨s, hs, Outcome.bind_eq_ok_iff.mpr ⟨code, hcode,
      Outcome.bind_eq_ok_iff.mpr ⟨_, hissues, Outcome.bind_eq_ok_iff.mpr
        ⟨verdict, hverdict, rfl⟩⟩⟩⟩⟩⟩⟩

end Partitioned

end Pipeline

end BehaviorPlan
