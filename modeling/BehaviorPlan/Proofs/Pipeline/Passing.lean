import BehaviorPlan.Proofs.Code.Selection
import BehaviorPlan.Proofs.Partition.Content
import BehaviorPlan.Proofs.Pipeline.Success

/-! # When a run passes

A run passes exactly if nothing fatal is in its input. Generated startup code never keeps it from
passing, and neither do events that are sent to unknown behaviors. -/
namespace BehaviorPlan

/-- A direct call from one behavior to another, or to itself. -/
def CallsBehavior (behaviors : List Behavior) (a b : String) : Prop :=
  DirectCall behaviors a b ∧ b ∈ behaviors.map (·.name)

/-- An order that lists every behavior exactly once and nothing else, dependencies first. -/
structure Partition.IsStartupOrder (p : Partition) (order : List String) : Prop where
  nodup : order.Nodup
  mem_iff : ∀ n, n ∈ order ↔ n ∈ p.names
  before : ∀ a b, CallsBehavior p.behaviors a b → order.idxOf b < order.idxOf a

namespace Pipeline

variable {config : Config} {rules : List Rule} {functions : List FunctionDecl}
  {classes : List ClassSource} {r : Run} {g : Graph} {a : Analysis} {s : OrderStage}

/-- Everything in the input that a run depends on to pass. -/
structure Ready (config : Config) (classes : List ClassSource) (p : Partition) : Prop where
  not_blocking : p.blocking = false
  acyclic : ∀ n, ¬ Relation.TransGen (CallsBehavior p.behaviors) n n
  known : ∀ a b, DirectCall p.behaviors a b → b ∈ p.names
  manual : config.startup.automaticOrder = false → p.IsStartupOrder config.startup.manualOrder
  classes : ∀ c ∈ classes, ∀ rule : Rule, rule.label ∉ config.disabledRules →
    ∀ m ∈ Code.remarks rule c, m.severity ≠ .error

namespace Stages

theorem edge_eq (h : Stages config rules classes r g a s) :
    g.Edge = CallsBehavior r.partition.behaviors := by
  funext x y
  exact propext (h.edge_iff x y)

theorem acyclic_iff (h : Stages config rules classes r g a s) :
    g.Acyclic ↔ ∀ n, ¬ Relation.TransGen (CallsBehavior r.partition.behaviors) n n := by
  rw [Graph.Acyclic, h.edge_eq]

theorem isStartupOrder_iff (h : Stages config rules classes r g a s) {order : List String} :
    g.IsStartupOrder order ↔ r.partition.IsStartupOrder order := by
  have hnodes : g.nodes = r.partition.names := h.nodes
  constructor
  · rintro ⟨hperm, hbefore⟩
    exact ⟨hperm.nodup_iff.mpr h.simple.nodup, fun n => hnodes ▸ hperm.mem_iff,
      fun x y hxy => hbefore ((h.edge_iff x y).mpr hxy)⟩
  · rintro ⟨hnodup, hmem, hbefore⟩
    exact ⟨(List.perm_ext_iff_of_nodup hnodup h.simple.nodup).mpr fun n => hnodes ▸ hmem n,
      fun hxy => hbefore _ _ ((h.edge_iff _ _).mp hxy)⟩

theorem unknownTargets_iff (h : Stages config rules classes r g a s) :
    (∀ u ∈ a.unknownTargets, u.kind ≠ .direct) ↔
      ∀ x y, DirectCall r.partition.behaviors x y → y ∈ r.partition.names := by
  rw [h.unknownTargets]
  constructor
  · rintro hnone x y ⟨b, hb, rfl, c, hc, hkind, rfl⟩
    by_contra hnot
    exact hnone ⟨b.name, c.target, c.kind⟩
      (Graph.mem_unknownTargetsOf.mpr ⟨b, hb, c, hc, hnot, rfl⟩) hkind
  · intro hknown u hu hdirect
    obtain ⟨b, hb, c, hc, hnot, rfl⟩ := Graph.mem_unknownTargetsOf.mp hu
    exact hnot (hknown b.name c.target ⟨b, hb, rfl, c, hc, hdirect, rfl⟩)

/-- Without cycles the order is refused exactly if a manual one is asked for that is none. -/
theorem findings_iff (h : Stages config rules classes r g a s) (hacyclic : g.Acyclic) :
    s.findings.any Finding.isError = false ↔ (config.startup.automaticOrder = false →
      r.partition.IsStartupOrder config.startup.manualOrder) := by
  cases h.ordered with
  | cyclic hcyclic => exact absurd hacyclic hcyclic
  | automatic hauto => simp [hauto]
  | manual hmanual horder => simp [hmanual, h.isStartupOrder_iff.mp horder]
  | @refused messages hmanual horder hne =>
    obtain ⟨message, hmessage⟩ := List.exists_mem_of_ne_nil _ hne
    have hany : (messages.map orderFinding).any Finding.isError = true :=
      List.any_eq_true.mpr ⟨_, List.mem_map_of_mem hmessage, rfl⟩
    have hnot := mt h.isStartupOrder_iff.mpr horder
    simp [hmanual, hany, hnot]

theorem order_of_manual (h : Stages config rules classes r g a s)
    (hmanual : config.startup.automaticOrder = false)
    (horder : r.partition.IsStartupOrder config.startup.manualOrder) :
    s.order = config.startup.manualOrder := by
  have hstartup := h.isStartupOrder_iff.mpr horder
  cases h.ordered with
  | cyclic hcyclic => exact absurd hstartup.acyclic hcyclic
  | automatic hauto => exact absurd (hmanual.symm.trans hauto) nofun
  | manual => rfl
  | refused _ hnot => exact absurd hstartup hnot

theorem isError_eq_false_of_coordinator (h : Stages config rules classes r g a s)
    (hp : r.partition.WellNamed config) (hsettings : config.startup.Legal) {c : Coordinator}
    (hc : r.coordinator = some c) {f : Finding} (hf : f ∈ Code.findingsOn rules c.source) :
    f.isError = false := by
  rcases startupCode_inv h.code with hnone | ⟨c', hne, hsynthesize, hcoordinator, -⟩
  · simp [(StartupCode.mk.inj hnone).1] at hc
  · obtain rfl := Option.some.inj (hc.symm.trans hcoordinator)
    have horder := h.isStartupOrder_iff.mp (h.ordered.isStartupOrder hne)
    have hpasses := Startup.passes_of_synthesize hsettings
      (fun b hb => hp.identifier b ((horder.mem_iff b).mp hb)) hsynthesize
    exact hpasses.isError_eq_false hf

theorem issues_iff (h : Stages config (Rule.enabled config) classes r g a s)
    (hp : r.partition.WellNamed config) (hsettings : config.startup.Legal) :
    r.issues.any Finding.isError = false ↔
      ∀ c ∈ classes, ∀ rule : Rule, rule.label ∉ config.disabledRules →
        ∀ m ∈ Code.remarks rule c, m.severity ≠ .error := by
  have hcoordinator : (Code.findings (Rule.enabled config)
      (r.coordinator.map (·.source)).toList).any Finding.isError = false := by
    rw [List.any_eq_false]
    intro f hf
    obtain ⟨source, hsource, hf⟩ := List.mem_flatMap.mp hf
    obtain ⟨c, hc, rfl⟩ := Option.map_eq_some_iff.mp (Option.mem_toList.mp hsource)
    simp [h.isError_eq_false_of_coordinator hp hsettings hc hf]
  rw [h.issues, Code.findings_append, List.any_append, hcoordinator, Bool.or_false]
  simp only [← Code.forall_isError_eq_false_iff]
  simp [Code.findings]

theorem passed_iff (h : Stages config (Rule.enabled config) classes r g a s)
    (hp : r.partition.WellNamed config) (hsettings : config.startup.Legal) :
    r.passed = true ↔ Ready config classes r.partition := by
  rw [Run.passed, Verdict.passed_of_decide_iff h.verdict, h.unknownTargets_iff, h.cycles,
    h.issues_iff hp hsettings]
  constructor
  · rintro ⟨hblocking, hacyclic, hknown, hordering, hclasses⟩
    exact ⟨hblocking, h.acyclic_iff.mp hacyclic, hknown, (h.findings_iff hacyclic).mp hordering,
      hclasses⟩
  · rintro ⟨hblocking, hacyclic, hknown, hmanual, hclasses⟩
    have hacyclic := h.acyclic_iff.mpr hacyclic
    exact ⟨hblocking, hacyclic, hknown, (h.findings_iff hacyclic).mpr hmanual, hclasses⟩

end Stages

/-- Under legal settings a run passes exactly if the partition does not block, the direct calls
between behaviors form no cycle and have no other targets, a manual order is a startup order, and
the rules that are on find no error in a given class. The result is there for valid functions as
long as the times and the number of functions are in the range of doubles. -/
theorem passed_iff_ready (config : Config) (functions : List FunctionDecl)
    (classes : List ClassSource) (hstartup : Checked.defect? config.startup = none) :
    (∀ r, run config (Rule.enabled config) functions classes = .ok r →
      Partition.ofFunctions config functions = .ok r.partition ∧
        (r.passed = true ↔ Ready config classes r.partition)) ∧
    ((∀ f ∈ functions, Checked.defect? f = none) → functions.length ≤ Nat.pow 2 1023 →
      config.startup.timeout.toDouble? ≠ none → config.startup.stepDelay.toDouble? ≠ none →
        ∃ r, run config (Rule.enabled config) functions classes = .ok r) := by
  have hsettings := StartupSettings.legal_of_sound hstartup
  refine ⟨fun r hr => ?_, fun hvalid hlength htimeout hdelay => ?_⟩
  · obtain ⟨hp, ⟨hblocking, -, hverdict⟩ | ⟨-, g, a, s, hstages⟩⟩ := run_inv hr
    · refine ⟨hp, ?_⟩
      have hpassed : r.passed = false := by
        rw [Run.passed, Verdict.passed_of_decide_none hverdict]
        simpa [Partition.blocking] using hblocking
      rw [hpassed]
      refine ⟨fun h => absurd h Bool.false_ne_true, fun hready => ?_⟩
      rw [hready.not_blocking] at hblocking
      exact absurd hblocking Bool.false_ne_true
    · exact ⟨hp, hstages.passed_iff (Partition.wellNamed_of_ofFunctions hp) hsettings⟩
  · obtain ⟨p, hp⟩ := Partition.exists_ofFunctions_eq_ok config hvalid
      (Double.holds_two_pow.mono hlength)
    exact exists_run_of_partition _ _ hp hsettings htimeout hdelay

section House

variable {p : Partition}

theorem names_house (hp : Partition.ofFunctions houseConfig house = .ok p)
    (hb : p.blocking = false) : p.names = homes house := by
  rw [Partition.names, (Partition.ofFunctions_inv hp hb).2.1, Partition.names_assembledAll]

theorem directCall_house (hp : Partition.ofFunctions houseConfig house = .ok p)
    (hb : p.blocking = false) {x y : String} (h : DirectCall p.behaviors x y) :
    x ≠ "DoorLock" ∧ y = "DoorLock" := by
  have hself : ¬ DirectCall p.behaviors x x := Partition.not_directCall_self hp hb x
  have hdependency : ∀ f ∈ house, ∀ tag, f.tag = some tag →
      ∀ target ∈ tag.dependencies, target = "DoorLock" := by
    decide
  have hlog : ∀ f ∈ house, ∀ g ∈ house, f.name ∈ g.calls → homeOf house f = none := by
    decide
  have hy : y = "DoorLock" := by
    rcases Partition.declaresCall_or_callsInto hp hb h with hdeclares | ⟨-, g, hruns, f, hf, hfy, hg⟩
    · obtain ⟨tag, ⟨f, hf, -, htag⟩, ⟨-, hy⟩ | ⟨hkind, -⟩⟩ := hdeclares
      · exact hdependency f hf tag htag y hy
      · cases hkind
    · exact absurd ((hlog f hf g hruns.mem hg).symm.trans (belongsTo_iff.mp hfy)) nofun
  refine ⟨fun hx => hself ?_, hy⟩
  rw [hx] at h ⊢
  rwa [hy] at h

theorem isStartupOrder_house (hp : Partition.ofFunctions houseConfig house = .ok p)
    (hb : p.blocking = false) : p.IsStartupOrder houseConfig.startup.manualOrder where
  nodup := by decide
  mem_iff := by
    have hperm : houseConfig.startup.manualOrder.Perm (homes house) := by decide
    intro n
    rw [names_house hp hb, hperm.mem_iff]
  before := by
    rintro x y ⟨hcall, -⟩
    obtain ⟨hx, rfl⟩ := directCall_house hp hb hcall
    rw [houseConfig, List.idxOf_cons_self, List.idxOf_cons_ne _ hx.symm]
    exact Nat.succ_pos _

theorem remarks_plainDoor {rule : Rule} (hrule : rule.label ∉ houseConfig.disabledRules)
    {m : Code.Remark} (hm : m ∈ Code.remarks rule plainDoor) : m.severity ≠ .error := by
  intro herror
  rcases Code.rule_of_error hm herror with rfl | rfl
  · have hnone : Code.remarks .wellFormed plainDoor = [] := by decide +kernel
    rw [hnone] at hm
    exact absurd hm List.not_mem_nil
  · exact hrule (by decide)

theorem ready_house (hp : Partition.ofFunctions houseConfig house = .ok p)
    (hb : p.blocking = false) : Ready houseConfig [plainDoor] p where
  not_blocking := hb
  acyclic := by
    intro n hcycle
    obtain ⟨_, hfirst, -⟩ := Relation.TransGen.head'_iff.mp hcycle
    obtain ⟨_, -, hlast⟩ := Relation.TransGen.tail'_iff.mp hcycle
    exact (directCall_house hp hb hfirst.1).1 (directCall_house hp hb hlast.1).2
  known := by
    intro x y hcall
    rw [(directCall_house hp hb hcall).2, names_house hp hb]
    decide
  manual := fun _ => isStartupOrder_house hp hb
  classes := by
    intro c hc rule hrule m hm
    obtain rfl := List.mem_singleton.mp hc
    exact remarks_plainDoor hrule hm

/-- The disabled rule and the unknown target of events do not keep the house from passing, and a
class with an error does. -/
theorem passed_house :
    (∃ r, run houseConfig (Rule.enabled houseConfig) house [plainDoor] = .ok r ∧
      r.passed = true) ∧
    ∃ r, run houseConfig (Rule.enabled houseConfig) house [plainDoor, openLamp] = .ok r ∧
      r.passed = false := by
  constructor
  · obtain ⟨hpassed, hresult⟩ :=
      passed_iff_ready houseConfig house [plainDoor] sound_startup_houseConfig
    obtain ⟨r, hr⟩ := hresult sound_house (Double.le_two_pow (by decide)) nofun nofun
    obtain ⟨p, hp, hb⟩ := exists_partition_house
    obtain ⟨hp', hiff⟩ := hpassed r hr
    obtain rfl := Except.ok.inj (hp.symm.trans hp')
    exact ⟨r, hr, hiff.mpr (ready_house hp hb)⟩
  · obtain ⟨hpassed, hresult⟩ :=
      passed_iff_ready houseConfig house [plainDoor, openLamp] sound_startup_houseConfig
    obtain ⟨r, hr⟩ := hresult sound_house (Double.le_two_pow (by decide)) nofun nofun
    have herror : ∃ m ∈ Code.remarks .wellFormed openLamp, m.severity = .error := by
      decide +kernel
    obtain ⟨m, hm, herror⟩ := herror
    refine ⟨r, hr, Bool.eq_false_iff.mpr fun h => ?_⟩
    have hready := (hpassed r hr).2.mp h
    exact hready.classes openLamp (by simp) .wellFormed (by decide) m hm herror

end House

end Pipeline

end BehaviorPlan
