import BehaviorPlan.Proofs.Pipeline.Passing

/-! # Startup code follows the order

Whatever a run generates to start behaviors is in step with one order, in which dependencies come
first: the order itself, the steps of the coordinator, and the execution priorities. Without such
an order nothing is generated. -/
namespace BehaviorPlan

open Startup (steps)

section Positions

variable {order : List String} {settings : StartupSettings}

theorem idxOf_eq_of_getElem? (hn : order.Nodup) {i : Nat} {name : String}
    (h : order[i]? = some name) : order.idxOf name = i := by
  obtain ⟨hi, rfl⟩ := List.getElem?_eq_some_iff.mp h
  exact hn.idxOf_getElem i hi

theorem Startup.index_lt_of_idxOf_lt (hn : order.Nodup) {s t : Step} (hs : s ∈ steps order)
    (ht : t ∈ steps order) (h : order.idxOf t.behavior < order.idxOf s.behavior) :
    t.index < s.index := by
  obtain ⟨i, hi, hsi⟩ := exists_position_of_mem_steps hs
  obtain ⟨j, hj, htj⟩ := exists_position_of_mem_steps ht
  rw [idxOf_eq_of_getElem? hn hi, idxOf_eq_of_getElem? hn hj] at h
  omega

/-- The coordinator has a hint of its own, which is about no behavior of the order. -/
theorem Startup.priority_lt_of_idxOf_lt (hn : order.Nodup)
    (hname : settings.coordinatorName ∉ order) {h k : OrderHint} (hh : h ∈ hints settings order)
    (hk : k ∈ hints settings order) (hmem : h.script ∈ order ∧ k.script ∈ order)
    (hlt : order.idxOf k.script < order.idxOf h.script) : k.priority < h.priority := by
  rcases position_of_mem_hints hh with rfl | ⟨i, hi, hhi⟩
  · exact absurd hmem.1 hname
  rcases position_of_mem_hints hk with rfl | ⟨j, hj, hkj⟩
  · exact absurd hmem.2 hname
  rw [idxOf_eq_of_getElem? hn hi, idxOf_eq_of_getElem? hn hj] at hlt
  rw [hhi, hkj, priorityStep]
  omega

end Positions

namespace Run

/-- Nothing is ordered and nothing is generated. -/
structure Withheld (r : Run) : Prop where
  order : r.order = []
  coordinator : r.coordinator = none
  hints : r.hints = []
  editorScript : r.editorScript = none

/-- There is a reason not to generate startup code: the partition blocks, there is a cycle, or the
manual order is rejected. -/
def Refused (config : Config) (r : Run) : Prop :=
  r.partition.blocking = true ∨
    (∃ g n, r.graph = some g ∧ Relation.TransGen g.Edge n n) ∨
    config.startup.automaticOrder = false ∧
      Startup.checkManual config.startup.manualOrder r.partition.behaviors r.graph ≠ .ok ()

/-- Order, coordinator and hints of a run agree, and dependencies come first in all of them. -/
structure Coordinated (config : Config) (r : Run) : Prop where
  order : r.order ≠ [] → r.partition.IsStartupOrder r.order ∧
    ∃ g, r.graph = some g ∧ ∀ e ∈ g.edges, r.order.idxOf e.2 < r.order.idxOf e.1
  coordinator : ∀ c, r.coordinator = some c → c.order = r.order ∧
    c.steps.map (·.behavior) = r.order ∧
    c.steps.map (·.index) = (List.range' 1 r.order.length).map Int.ofNat
  steps_before : ∀ c g, r.coordinator = some c → r.graph = some g → ∀ s ∈ c.steps, ∀ t ∈ c.steps,
    (s.behavior, t.behavior) ∈ g.edges → t.index < s.index
  hints : r.hints ≠ [] →
    r.hints.map (·.script) = config.startup.coordinatorName :: r.order ∧
    (r.hints.map (·.priority)).Pairwise (· < ·)
  hints_before : ∀ g, r.graph = some g → ∀ h ∈ r.hints, ∀ k ∈ r.hints,
    (h.script, k.script) ∈ g.edges → k.priority < h.priority
  scripts : (r.hints.map (·.script)).Nodup ∧ config.sharedRuntimeName ∉ r.hints.map (·.script)
  withheld : r.Refused config → r.Withheld

theorem Withheld.coordinated {config : Config} {r : Run} (h : r.Withheld) :
    r.Coordinated config :=
  { order := fun hne => absurd h.order hne
    coordinator := by simp [h.coordinator]
    steps_before := by simp [h.coordinator]
    hints := fun hne => absurd h.hints hne
    hints_before := by simp [h.hints]
    scripts := by simp [h.hints]
    withheld := fun _ => h }

end Run

namespace Pipeline

variable {config : Config} {rules : List Rule} {functions : List FunctionDecl}
  {classes : List ClassSource} {r : Run} {g : Graph} {a : Analysis} {s : OrderStage}

namespace Stages

theorem withheld_of_order_eq_nil (h : Stages config rules classes r g a s) (hnil : s.order = []) :
    r.Withheld := by
  rcases startupCode_inv h.code with hnone | ⟨c, hne, -⟩
  · obtain ⟨hcoordinator, hhints, hscript⟩ := StartupCode.mk.inj hnone
    exact ⟨h.order.trans hnil, hcoordinator, hhints, hscript⟩
  · exact absurd hnil hne

theorem exists_coordinator (h : Stages config rules classes r g a s)
    (hgenerate : config.startup.generateCoordinator = true) (hne : s.order ≠ []) :
    ∃ c, r.coordinator = some c ∧ r.hints = Startup.hints config.startup s.order := by
  have hcode := h.code
  rw [startupCode, if_pos ⟨hne, hgenerate⟩] at hcode
  obtain ⟨c, -, hcode⟩ := Outcome.bind_eq_ok_iff.mp hcode
  have hsome := congrArg StartupCode.coordinator (Except.ok.inj hcode)
  have hhints := congrArg StartupCode.hints (Except.ok.inj hcode)
  exact ⟨c, hsome.symm, hhints.symm⟩

theorem withheld_of_refused (h : Stages config rules classes r g a s)
    (hblocking : r.partition.blocking = false) (hrefused : r.Refused config) : r.Withheld := by
  refine h.withheld_of_order_eq_nil ?_
  rcases hrefused with hb | ⟨g', n, hg', hcycle⟩ | ⟨hmanual, hrejected⟩
  · exact absurd (hblocking.symm.trans hb) nofun
  · obtain rfl := Option.some.inj (h.graph.symm.trans hg')
    by_contra hne
    exact (h.ordered.isStartupOrder hne).acyclic n hcycle
  · rw [h.graph, ne_eq, Startup.checkManual_eq_ok_iff h.simple.toConsistent
      (Startup.matching_of_nodes h.nodes)] at hrejected
    cases h.ordered with
    | cyclic => rfl
    | automatic hauto => exact absurd (hmanual.symm.trans hauto) nofun
    | manual _ horder => exact absurd horder hrejected
    | refused => rfl

theorem scripts_nodup (h : Stages config rules classes r g a s)
    (hp : r.partition.WellNamed config) (hconfig : Checked.defect? config = none)
    (hne : s.order ≠ []) :
    (config.startup.coordinatorName :: s.order).Nodup ∧
      config.sharedRuntimeName ∉ config.startup.coordinatorName :: s.order := by
  have horder := h.isStartupOrder_iff.mp (h.ordered.isStartupOrder hne)
  have hreserved : ∀ n ∈ config.reservedNames, n ∉ s.order := fun n hn hm =>
    hp.not_reserved n ((horder.mem_iff n).mp hm) hn
  have hdistinct : config.sharedRuntimeName ≠ config.startup.coordinatorName := by
    simpa [Config.reservedNames] using Config.reservedNames_nodup hconfig
  refine ⟨List.nodup_cons.mpr ⟨hreserved _ (by simp [Config.reservedNames]), horder.nodup⟩, ?_⟩
  rw [List.mem_cons, not_or]
  exact ⟨hdistinct, hreserved _ (by simp [Config.reservedNames])⟩

theorem before_of_mem_edges (h : Stages config rules classes r g a s) (hne : s.order ≠ [])
    {x y : String} (he : (x, y) ∈ g.edges) :
    (x ∈ s.order ∧ y ∈ s.order) ∧ s.order.idxOf y < s.order.idxOf x := by
  have hstartup := h.ordered.isStartupOrder hne
  have hedge := (Graph.mem_edges_iff h.simple.toConsistent).mp he
  refine ⟨⟨?_, ?_⟩, hstartup.before hedge⟩
  · exact hstartup.perm.mem_iff.mpr (h.simple.source_mem hedge)
  · exact hstartup.perm.mem_iff.mpr (h.simple.target_mem hedge)

theorem coordinator_eq (h : Stages config rules classes r g a s) {c : Coordinator}
    (hc : r.coordinator = some c) : c.order = s.order ∧ c.steps = steps s.order := by
  rcases startupCode_inv h.code with hnone | ⟨c', -, hsynthesize, hsome, -⟩
  · exact absurd (hc.symm.trans (StartupCode.mk.inj hnone).1) nofun
  · obtain rfl := Option.some.inj (hc.symm.trans hsome)
    obtain ⟨-, horder, hsteps, -⟩ := Startup.synthesize_inv hsynthesize
    exact ⟨horder, hsteps⟩

theorem hints_eq (h : Stages config rules classes r g a s) (hne : r.hints ≠ []) :
    r.hints = Startup.hints config.startup s.order := by
  rcases startupCode_inv h.code with hnone | ⟨_, -, -, -, hsome⟩
  · exact absurd (StartupCode.mk.inj hnone).2.1 hne
  · exact hsome

theorem script_hints (h : Stages config rules classes r g a s) (hne : r.hints ≠ []) :
    r.hints.map (·.script) = config.startup.coordinatorName :: s.order := by
  have hhints := h.hints_eq hne
  rw [hhints] at hne ⊢
  exact Startup.script_hints hne

theorem coordinated_of_order_ne_nil (h : Stages config rules classes r g a s)
    (hp : r.partition.WellNamed config) (hconfig : Checked.defect? config = none)
    (hblocking : r.partition.blocking = false) (hne : s.order ≠ []) : r.Coordinated config := by
  have horder := h.isStartupOrder_iff.mp (h.ordered.isStartupOrder hne)
  obtain ⟨hscripts, hshared⟩ := h.scripts_nodup hp hconfig hne
  have hgraph : ∀ {g'}, r.graph = some g' → g' = g := fun hg' =>
    Option.some.inj (hg'.symm.trans h.graph)
  refine
    { order := fun _ => ?_
      coordinator := fun c hc => ?_
      steps_before := fun c g' hc hg' x hx y hy he => ?_
      hints := fun hsome => ?_
      hints_before := fun g' hg' x hx y hy he => ?_
      scripts := ?_
      withheld := h.withheld_of_refused hblocking }
  · rw [h.order]
    exact ⟨horder, g, h.graph, fun e he => (h.before_of_mem_edges hne he).2⟩
  · obtain ⟨hcorder, hcsteps⟩ := h.coordinator_eq hc
    rw [hcorder, hcsteps, h.order]
    exact ⟨rfl, Startup.steps_behavior _, Startup.index_steps _⟩
  · obtain rfl := hgraph hg'
    rw [(h.coordinator_eq hc).2] at hx hy
    exact Startup.index_lt_of_idxOf_lt horder.nodup hx hy (h.before_of_mem_edges hne he).2
  · rw [h.script_hints hsome, h.hints_eq hsome, h.order]
    exact ⟨rfl, Startup.priority_hints_pairwise⟩
  · obtain rfl := hgraph hg'
    obtain ⟨hmem, hlt⟩ := h.before_of_mem_edges hne he
    have hhints := h.hints_eq (List.ne_nil_of_mem hx)
    rw [hhints] at hx hy
    exact Startup.priority_lt_of_idxOf_lt horder.nodup (List.nodup_cons.mp hscripts).1 hx hy hmem
      hlt
  · by_cases hnil : r.hints = []
    · simp [hnil]
    · rw [h.script_hints hnil]
      exact ⟨hscripts, hshared⟩

end Stages

/-- Under a legal configuration the startup code of a run agrees with its order, dependencies come
first everywhere, and nothing is generated without an order. -/
theorem coordinated_of_run (config : Config) (rules : List Rule) (functions : List FunctionDecl)
    (classes : List ClassSource) (r : Run) (hconfig : Checked.defect? config = none)
    (h : run config rules functions classes = .ok r) : r.Coordinated config := by
  obtain ⟨hp, ⟨-, hr, -⟩ | ⟨hblocking, g, a, s, hstages⟩⟩ := run_inv h
  · have hwithheld : r.Withheld :=
      ⟨congrArg Run.order hr, congrArg Run.coordinator hr, congrArg Run.hints hr,
        congrArg Run.editorScript hr⟩
    exact hwithheld.coordinated
  · by_cases hnil : s.order = []
    · exact (hstages.withheld_of_order_eq_nil hnil).coordinated
    · exact hstages.coordinated_of_order_ne_nil (Partition.wellNamed_of_ofFunctions hp) hconfig
        hblocking hnil

theorem exists_coordinator_house :
    ∃ r g a s c, run houseConfig (Rule.enabled houseConfig) house [plainDoor] = .ok r ∧
      Stages houseConfig (Rule.enabled houseConfig) [plainDoor] r g a s ∧
        r.partition.names = homes house ∧ s.order = houseConfig.startup.manualOrder ∧
          r.coordinator = some c ∧ r.hints = Startup.hints houseConfig.startup s.order := by
  obtain ⟨r, g, a, s, hr, hp, hb, hstages⟩ := exists_stages_house [plainDoor]
  have horder := hstages.order_of_manual rfl (isStartupOrder_house hp hb)
  obtain ⟨c, hc, hhints⟩ := hstages.exists_coordinator rfl (by simp [horder, houseConfig])
  exact ⟨r, g, a, s, c, hr, hstages, names_house hp hb, horder, hc, hhints⟩

theorem coordinated_house :
    ∃ r c, run houseConfig (Rule.enabled houseConfig) house [plainDoor] = .ok r ∧
      r.order = ["DoorLock", "Lamp", "door_lock"] ∧ r.coordinator = some c ∧ r.hints ≠ [] ∧
        r.Coordinated houseConfig := by
  obtain ⟨r, g, a, s, c, hr, hstages, -, horder, hc, hhints⟩ := exists_coordinator_house
  refine ⟨r, c, hr, hstages.order.trans horder, hc, ?_,
    coordinated_of_run houseConfig (Rule.enabled houseConfig) house [plainDoor] r
      sound_houseConfig hr⟩
  rw [hhints, horder]
  decide +kernel

end Pipeline

end BehaviorPlan
