import BehaviorPlan.Proofs.Partition.Content
import BehaviorPlan.Proofs.Pipeline.Coordination

/-! # Names in generated code

The names of behaviors and of the coordinator are checked as identifiers, and the fields and flags
of the steps are made from them. So all of them are strict identifiers, except for line feeds: one
may end the name of a behavior or of the coordinator, and the names of a step keep it. -/
namespace BehaviorPlan

namespace Pipeline

variable {config : Config} {rules : List Rule} {functions : List FunctionDecl}
  {classes : List ClassSource} {r : Run} {g : Graph} {a : Analysis} {s : OrderStage}
  {c : Coordinator}

namespace Stages

theorem mem_order_iff (h : Stages config rules classes r g a s) (hc : r.coordinator = some c)
    (name : String) : name ∈ s.order ↔ name ∈ r.partition.names := by
  have hne : s.order ≠ [] := by
    intro hnil
    have hnone := (h.withheld_of_order_eq_nil hnil).coordinator
    exact absurd (hc.symm.trans hnone) nofun
  exact (h.isStartupOrder_iff.mp (h.ordered.isStartupOrder hne)).mem_iff name

theorem name_coordinator (h : Stages config rules classes r g a s)
    (hc : r.coordinator = some c) : c.name = config.startup.coordinatorName := by
  rcases startupCode_inv h.code with hnone | ⟨c', -, hsynthesize, hsome, -⟩
  · exact absurd (hc.symm.trans (StartupCode.mk.inj hnone).1) nofun
  · obtain rfl := Option.some.inj (hc.symm.trans hsome)
    exact (Startup.synthesize_inv hsynthesize).1

theorem order_ne_nil_of_automatic (h : Stages config rules classes r g a s) (hacyclic : g.Acyclic)
    (hauto : config.startup.automaticOrder = true) (hne : r.partition.names ≠ []) :
    s.order ≠ [] := by
  have hnodes : g.nodes = r.partition.names := h.nodes
  cases h.ordered with
  | cyclic hcyclic => exact absurd hacyclic hcyclic
  | automatic _ horder =>
    rintro rfl
    exact hne (hnodes.symm.trans (List.nil_perm.mp horder.perm))
  | manual hmanual => exact absurd (hauto.symm.trans hmanual) nofun
  | refused hmanual => exact absurd (hauto.symm.trans hmanual) nofun

theorem acyclic_of_names_eq (h : Stages config rules classes r g a s)
    (hp : Partition.ofFunctions config functions = .ok r.partition)
    (hb : r.partition.blocking = false) {name : String} (hnames : r.partition.names = [name]) :
    g.Acyclic := by
  have hnodes : g.nodes = [name] := h.nodes.trans hnames
  intro n hcycle
  obtain ⟨m, hedge, -⟩ := Relation.TransGen.head'_iff.mp hcycle
  have hn : n = name := List.mem_singleton.mp (hnodes ▸ h.simple.source_mem hedge)
  have hm : m = name := List.mem_singleton.mp (hnodes ▸ h.simple.target_mem hedge)
  rw [hn, hm, h.edge_iff] at hedge
  exact Partition.not_directCall_self hp hb name hedge.1

end Stages

/-- The names that a run with a coordinator is given: those of the coordinator and the
behaviors. -/
def givenNames (r : Run) (c : Coordinator) : List String :=
  c.name :: r.partition.names

/-- The names of the coordinator, the behaviors, and the fields and flags of the steps. -/
def writtenNames (r : Run) (c : Coordinator) : List String :=
  givenNames r c ++ Coordinator.stepNames c.steps

theorem stages_of_coordinator (h : run config rules functions classes = .ok r)
    (hc : r.coordinator = some c) : Partition.ofFunctions config functions = .ok r.partition ∧
      ∃ g a s, Stages config rules classes r g a s := by
  obtain ⟨hp, ⟨-, hr, -⟩ | ⟨-, hstages⟩⟩ := run_inv h
  · rw [hr] at hc
    exact absurd hc nofun
  · exact ⟨hp, hstages⟩

theorem name_of_run (h : run config rules functions classes = .ok r)
    (hc : r.coordinator = some c) : c.name = config.startup.coordinatorName := by
  obtain ⟨-, g, a, s, hstages⟩ := stages_of_coordinator h hc
  exact hstages.name_coordinator hc

theorem isIdentifier_of_mem_givenNames (hstartup : config.startup.Legal)
    (h : run config rules functions classes = .ok r) (hc : r.coordinator = some c) {name : String}
    (hname : name ∈ givenNames r c) : Name.isIdentifier name = true := by
  rcases List.mem_cons.mp hname with rfl | hname
  · rw [name_of_run h hc]
    exact Name.isIdentifier_of_isClassName hstartup.coordinatorName
  · have hp := (stages_of_coordinator h hc).1
    exact (Partition.wellNamed_of_ofFunctions hp).identifier name hname

theorem exists_of_mem_stepNames_of_run (h : run config rules functions classes = .ok r)
    (hc : r.coordinator = some c) {name : String} (hname : name ∈ Coordinator.stepNames c.steps) :
    ∃ b ∈ r.partition.names, ∃ flag suffix,
      name = Startup.stepName flag (Name.toSnake b) suffix := by
  obtain ⟨-, g, a, s, hstages⟩ := stages_of_coordinator h hc
  rw [(hstages.coordinator_eq hc).2] at hname
  obtain ⟨b, hb, flag, suffix, hname⟩ := Startup.exists_of_mem_stepNames hname
  exact ⟨b, (hstages.mem_order_iff hc b).mp hb, flag, suffix, hname⟩

section SoleBehavior

def soleBehavior (name : String) : List FunctionDecl :=
  [{ name := "start", tag := some { name := some name } }]

theorem homes_soleBehavior (name : String) : homes (soleBehavior name) = [name] := rfl

theorem accepted_soleBehavior {name : String} (h : Declared.nameProblem? {} name = none) :
    Declared.Accepted {} (soleBehavior name) := by
  refine ⟨List.nodup_singleton _, fun f hf tag htag => ?_⟩
  obtain rfl := List.mem_singleton.mp hf
  obtain rfl := Option.some.inj htag
  have hevents : Declared.tagProblems name "start" { name := some name } = [] := by
    have hstart : Name.isEvent "Start" = true := by decide
    simp [Declared.tagProblems, Declared.eventProblem?, hstart]
  exact ⟨h, hevents⟩

theorem exists_partition_soleBehavior {name : String} (h : Declared.nameProblem? {} name = none) :
    ∃ p, Partition.ofFunctions {} (soleBehavior name) = .ok p ∧ p.blocking = false ∧
      p.names = [name] := by
  have hvalid : ∀ f ∈ soleBehavior name, Checked.defect? f = none :=
    List.forall_mem_singleton.mpr rfl
  have hevents : ∀ f ∈ soleBehavior name, ∀ tag, f.tag = some tag →
      ∃ event ∈ tag.events, Name.isUnityEvent event = true := by
    intro f hf tag htag
    obtain rfl := List.mem_singleton.mp hf
    obtain rfl := Option.some.inj htag
    exact ⟨"Start", by simp, by decide⟩
  have hlength : 1 ≤ Nat.pow 2 1023 := Double.le_two_pow (by decide)
  obtain ⟨p, hp, hb⟩ := Partition.exists_ofFunctions_not_blocking (accepted_soleBehavior h) hvalid
    (Double.holds_two_pow.mono hlength) ⟨_, List.mem_singleton_self _, rfl⟩ hevents
  refine ⟨p, hp, hb, ?_⟩
  rw [Partition.names, (Partition.ofFunctions_inv hp hb).2.1, Partition.names_assembledAll,
    homes_soleBehavior]

/-- A single behavior can always be started: it has no calls that could form a cycle. -/
theorem exists_run_soleBehavior (name : String) (h : Declared.nameProblem? {} name = none) :
    ∃ r c, run {} Rule.all (soleBehavior name) [] = .ok r ∧ r.coordinator = some c ∧
      r.partition.names = [name] := by
  obtain ⟨p, hp, hb, hnames⟩ := exists_partition_soleBehavior h
  obtain ⟨r, hr⟩ := exists_run_of_partition Rule.all [] hp
    (StartupSettings.legal_of_sound StartupSettings.sound_default) nofun nofun
  obtain ⟨hp', hcases⟩ := run_inv hr
  obtain rfl := Except.ok.inj (hp.symm.trans hp')
  rcases hcases with ⟨hblocking, -⟩ | ⟨-, g, a, s, hstages⟩
  · exact absurd (hb.symm.trans hblocking) nofun
  · have horder := hstages.order_ne_nil_of_automatic (hstages.acyclic_of_names_eq hp hb hnames) rfl
      (by simp [hnames])
    obtain ⟨c, hc, -⟩ := hstages.exists_coordinator rfl horder
    exact ⟨r, c, hr, hc, hnames⟩

end SoleBehavior

/-- In a run with a coordinator the names of the behaviors and of the coordinator are strict
identifiers, up to one line feed at their end. The fields and flags of the steps hold word
characters and line feeds, and if no given name ends in a line feed, all names are strict. -/
theorem isStrict_writtenNames_iff (config : Config) (rules : List Rule)
    (functions : List FunctionDecl) (classes : List ClassSource) (r : Run) (c : Coordinator)
    (hstartup : Checked.defect? config.startup = none)
    (h : run config rules functions classes = .ok r) (hc : r.coordinator = some c) :
    (∀ name ∈ givenNames r c, ∃ stem, Name.isStrict stem = true ∧
        (name = stem ∨ name = stem ++ "\n")) ∧
      (∀ name ∈ Coordinator.stepNames c.steps, ∃ cs, name.toList = '_' :: cs ∧ Name.Wordlike cs) ∧
      ((∀ name ∈ writtenNames r c, Name.isStrict name = true) ↔
        ∀ name ∈ givenNames r c, '\n' ∉ name.toList) := by
  have hlegal := StartupSettings.legal_of_sound hstartup
  have hidentifier : ∀ {name}, name ∈ givenNames r c → Name.isIdentifier name = true :=
    fun hname => isIdentifier_of_mem_givenNames hlegal h hc hname
  refine ⟨fun name hname => ?_, fun name hname => ?_, fun hall name hname => ?_,
    fun hnone name hname => ?_⟩
  · exact Name.exists_strict_of_isIdentifier (hidentifier hname)
  · obtain ⟨b, hb, flag, suffix, rfl⟩ := exists_of_mem_stepNames_of_run h hc hname
    have hwords := Name.wordlike_toSnake (hidentifier (List.mem_cons_of_mem _ hb))
    exact Startup.exists_tail_stepName flag suffix hwords
  · have hstrict := hall name (List.mem_append_left _ hname)
    exact (Name.isStrict_iff_of_isIdentifier (hidentifier hname)).mp hstrict
  · rcases List.mem_append.mp hname with hgiven | hstep
    · exact (Name.isStrict_iff_of_isIdentifier (hidentifier hgiven)).mpr (hnone name hgiven)
    · obtain ⟨b, hb, flag, suffix, rfl⟩ := exists_of_mem_stepNames_of_run h hc hstep
      have hb := List.mem_cons_of_mem c.name hb
      rw [Startup.isStrict_stepName_iff flag suffix (Name.wordlike_toSnake (hidentifier hb)),
        Name.newline_mem_toSnake_iff (hidentifier hb)]
      exact hnone b hb

/-- The bolt takes the names of its step with a number, because the lock has them without one. -/
theorem isStrict_writtenNames_house :
    ∃ r c, run houseConfig (Rule.enabled houseConfig) house [plainDoor] = .ok r ∧
      r.coordinator = some c ∧
      Coordinator.stepNames c.steps = ["_door_lock_behavior", "_door_lock_initialized",
        "_lamp_behavior", "_lamp_initialized",
        "_door_lock_behavior_3", "_door_lock_initialized_3"] ∧
      ∀ name ∈ writtenNames r c, Name.isStrict name = true := by
  obtain ⟨r, g, a, s, c, hr, hstages, hnames, horder, hc, -⟩ := exists_coordinator_house
  obtain ⟨-, -, hiff⟩ := isStrict_writtenNames_iff houseConfig (Rule.enabled houseConfig) house
    [plainDoor] r c sound_startup_houseConfig hr hc
  refine ⟨r, c, hr, hc, ?_, hiff.mpr fun name hname => ?_⟩
  · rw [(hstages.coordinator_eq hc).2, horder]
    decide +kernel
  · rw [givenNames, hnames, name_of_run hr hc] at hname
    revert name
    decide

/-- A name that ends in a line feed is accepted, and it stays in the generated code. -/
theorem not_isStrict_writtenNames : ¬ ∀ (config : Config) (rules : List Rule)
    (functions : List FunctionDecl) (classes : List ClassSource) (r : Run) (c : Coordinator),
    Checked.defect? config = none → (∀ f ∈ functions, Checked.defect? f = none) →
      run config rules functions classes = .ok r → r.coordinator = some c →
        ∀ name ∈ writtenNames r c, Name.isStrict name = true := by
  intro h
  obtain ⟨r, c, hr, hc, hnames⟩ := exists_run_soleBehavior "Door\n" (by decide)
  have hmem : "Door\n" ∈ writtenNames r c := by
    simp [writtenNames, givenNames, hnames]
  have hstrict := h {} Rule.all (soleBehavior "Door\n") [] r c Config.sound_default (by decide) hr
    hc "Door\n" hmem
  exact absurd hstrict (by decide)

end Pipeline

end BehaviorPlan
