import BehaviorPlan.Proofs.Startup.Coordinator

/-! # Names in the coordinator

A coordinator is synthesized for exactly those orders that name known behaviors without repeating
one. What its steps are called is told apart, even where names have the same snake case form, and
is told apart from its own fields, whose names have no underscore but the first. -/
namespace BehaviorPlan

namespace Coordinator

/-- The fields of any coordinator, which are declared beside those of its steps. -/
def ownFields : List String :=
  ["_initializationComplete", "_currentInitializationStep", "_initializationTimeout",
    "_initializationStartTime"]

/-- The steps follow the order, and no two fields of the class have the same name. -/
structure TellsApart (c : Coordinator) : Prop where
  behaviors : c.steps.map (·.behavior) = c.order
  length : (stepNames c.steps).length = 2 * c.order.length
  nodup : (stepNames c.steps).Nodup
  not_own : ∀ name ∈ stepNames c.steps, name ∉ ownFields

theorem length_stepNames (steps : List Step) : (stepNames steps).length = 2 * steps.length := by
  simp [stepNames, Nat.mul_comm]

theorem nodup_order_of_sound {c : Coordinator} (h : Checked.defect? c = none) : c.order.Nodup := by
  simp only [Checked.defect?, Option.or_eq_none_iff, defectIf_eq_none_iff,
    decide_eq_false_iff_not, not_not] at h
  exact h.1.2.1

end Coordinator

namespace Startup

open Coordinator (stepNames ownFields)

variable {settings : StartupSettings} {order : List String} {behaviors : List Behavior}
  {c : Coordinator}

/-- The ending of a step's name has an underscore, and so has its start. -/
theorem two_le_count_stepName (flag : Bool) (stem : String) (suffix : Option Nat) :
    2 ≤ (stepName flag stem suffix).toList.count '_' := by
  have hending : (ending flag).toList.count '_' = 1 := by cases flag <;> decide
  rw [toList_stepName, List.count_append, List.count_append, List.count_cons_self, hending]
  omega

theorem count_of_mem_ownFields {name : String} (h : name ∈ ownFields) :
    name.toList.count '_' = 1 := by
  revert name
  decide

theorem not_mem_ownFields_of_mem_stepNames {name : String} (h : name ∈ stepNames (steps order)) :
    name ∉ ownFields := by
  obtain ⟨b, -, flag, suffix, rfl⟩ := exists_of_mem_stepNames h
  intro hown
  have htwo := two_le_count_stepName flag (Name.toSnake b) suffix
  have hone := count_of_mem_ownFields hown
  omega

theorem tellsApart_of_synthesize (h : synthesize settings order behaviors = .ok c) :
    c.TellsApart := by
  obtain ⟨-, horder, hsteps, -⟩ := synthesize_inv h
  rw [← horder] at hsteps
  exact
    { behaviors := by rw [hsteps, steps_behavior]
      length := by rw [Coordinator.length_stepNames, hsteps, length_steps]
      nodup := hsteps ▸ stepNames_nodup c.order
      not_own := fun _ hname => not_mem_ownFields_of_mem_stepNames (hsteps ▸ hname) }

theorem known_nodup_of_synthesize (h : synthesize settings order behaviors = .ok c) :
    (∀ b ∈ order, b ∈ behaviors.map (·.name)) ∧ order.Nodup := by
  have horder := (synthesize_inv h).2.1
  unfold synthesize at h
  dsimp only at h
  split at h
  · simp at h
  · rename_i hknown
    obtain ⟨_, _, h⟩ := Outcome.bind_eq_ok_iff.mp h
    obtain ⟨_, _, h⟩ := Outcome.bind_eq_ok_iff.mp h
    refine ⟨fun b hb => by simpa using List.find?_eq_none.mp hknown b hb, horder ▸ ?_⟩
    obtain ⟨hsound, rfl⟩ := checked_eq_ok_iff.mp h
    exact Coordinator.nodup_order_of_sound hsound

/-- Under valid settings with times in range, a coordinator for some of the behaviors is made for
every order of theirs and for no other sequence of names, and its names are told apart. -/
theorem synthesizes_iff (settings : StartupSettings) (order : List String)
    (behaviors : List Behavior) (hsettings : Checked.defect? settings = none)
    (htimeout : settings.timeout.toDouble? ≠ none) (hdelay : settings.stepDelay.toDouble? ≠ none)
    (hbehaviors : ∀ b ∈ behaviors, Checked.defect? b = none) :
    ((∃ c, synthesize settings order behaviors = .ok c) ↔
        (∀ b ∈ order, b ∈ behaviors.map (·.name)) ∧ order.Nodup) ∧
      ∀ c, synthesize settings order behaviors = .ok c → c.order = order ∧ c.TellsApart := by
  refine ⟨⟨fun ⟨c, hc⟩ => known_nodup_of_synthesize hc, fun ⟨hknown, hnodup⟩ => ?_⟩,
    fun c hc => ⟨(synthesize_inv hc).2.1, tellsApart_of_synthesize hc⟩⟩
  refine exists_synthesize_eq_ok (StartupSettings.legal_of_sound hsettings) htimeout hdelay hnodup
    hknown fun b hb => ?_
  obtain ⟨u, hu, rfl⟩ := List.mem_map.mp (hknown b hb)
  have hsound := hbehaviors u hu
  simp only [Checked.defect?, Option.or_eq_none_iff, blank?_eq_none_iff] at hsound
  exact hsound.1.1

def doorLocks : List Behavior :=
  [{ name := "DoorLock" }, { name := "door_lock" }]

theorem synthesizes_doorLocks : ∃ c, synthesize {} ["DoorLock", "door_lock"] doorLocks = .ok c ∧
    c.TellsApart ∧ stepNames c.steps = ["_door_lock_behavior", "_door_lock_initialized",
      "_door_lock_behavior_2", "_door_lock_initialized_2"] := by
  obtain ⟨hiff, hall⟩ := synthesizes_iff {} ["DoorLock", "door_lock"] doorLocks
    StartupSettings.sound_default (by decide +kernel) (by decide +kernel) (by decide +kernel)
  obtain ⟨c, hc⟩ := hiff.mpr (by decide)
  refine ⟨c, hc, (hall c hc).2, ?_⟩
  rw [(synthesize_inv hc).2.2.1]
  decide +kernel

end Startup

end BehaviorPlan
