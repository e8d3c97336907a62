import BehaviorPlan.Proofs.Pipeline.Stages

/-! # Every run gives a result

No check on the way of a run fails: the partition is made or refused with findings, later stages
only meet names that are known, the order is asked for only without cycles, and a refused manual
order becomes findings. -/
namespace BehaviorPlan.Pipeline

variable {config : Config} {rules : List Rule} {functions : List FunctionDecl}
  {classes : List ClassSource}

theorem run_inv {r : Run} (h : run config rules functions classes = .ok r) :
    Partition.ofFunctions config functions = .ok r.partition ∧
      ((r.partition.blocking = true ∧ r = { partition := r.partition, verdict := r.verdict } ∧
        Verdict.decide r.partition.validation none [] [] config.sharedRuntimeName =
          .ok r.verdict) ∨
      (r.partition.blocking = false ∧ ∃ g a s, Stages config rules classes r g a s)) := by
  obtain ⟨p, hp, h⟩ := Outcome.bind_eq_ok_iff.mp h
  split at h
  · rename_i hblocking
    obtain ⟨v, hv, h⟩ := Outcome.bind_eq_ok_iff.mp h
    obtain rfl := Except.ok.inj h
    exact ⟨hp, Or.inl ⟨hblocking, rfl, hv⟩⟩
  · rename_i hblocking
    obtain ⟨rfl, hstages⟩ := stages_of_runPartition (Partition.wellNamed_of_ofFunctions hp) h
    exact ⟨hp, Or.inr ⟨Bool.eq_false_iff.mpr hblocking, hstages⟩⟩

theorem exists_run_of_partition (rules : List Rule) (classes : List ClassSource) {p : Partition}
    (hp : Partition.ofFunctions config functions = .ok p) (hsettings : config.startup.Legal)
    (htimeout : config.startup.timeout.toDouble? ≠ none)
    (hdelay : config.startup.stepDelay.toDouble? ≠ none) :
    ∃ r, run config rules functions classes = .ok r := by
  cases hblocking : p.blocking with
  | true =>
    obtain ⟨v, hv⟩ := Verdict.exists_decide_eq_ok p.validation none [] [] config.sharedRuntimeName
    refine ⟨{ partition := p, verdict := v }, Outcome.bind_eq_ok_iff.mpr ⟨p, hp, ?_⟩⟩
    rw [if_pos hblocking]
    exact Outcome.bind_eq_ok_iff.mpr ⟨v, hv, rfl⟩
  | false =>
    obtain ⟨r, hr⟩ := exists_runPartition_eq_ok rules classes
      (Partition.wellNamed_of_ofFunctions hp) hsettings htimeout hdelay
    refine ⟨r, Outcome.bind_eq_ok_iff.mpr ⟨p, hp, ?_⟩⟩
    rw [if_neg (by simp [hblocking])]
    exact hr

/-- Whatever the rules and the generated classes are, a run over valid functions under valid
settings gives a result: no check of a value refuses it, every name and number that is looked up is
there, and no order is asked for that there is not. The times have to be in the range of doubles. So has the number of functions, from which scores are computed; a list in memory is far
shorter than that. -/
theorem exists_run_eq_ok (config : Config) (rules : List Rule) (functions : List FunctionDecl)
    (classes : List ClassSource) (hstartup : Checked.defect? config.startup = none)
    (htimeout : config.startup.timeout.toDouble? ≠ none)
    (hdelay : config.startup.stepDelay.toDouble? ≠ none)
    (hvalid : ∀ f ∈ functions, Checked.defect? f = none)
    (hlength : functions.length ≤ Nat.pow 2 1023) :
    ∃ r, run config rules functions classes = .ok r := by
  obtain ⟨p, hp⟩ := Partition.exists_ofFunctions_eq_ok config hvalid
    (Double.holds_two_pow.mono hlength)
  exact exists_run_of_partition rules classes hp (StartupSettings.legal_of_sound hstartup) htimeout
    hdelay

section House

/-- A bolt and a lamp that wait for the lock of a door. The lock and the bolt have one name in snake
case, and the bell that gets events is no behavior. -/
def house : List FunctionDecl :=
  [{ name := "open_lock", calls := ["log"]
     tag := some { name := some "DoorLock", eventTargets := ["Bell"] } },
    { name := "slide_bolt", calls := ["log"]
      tag := some { name := some "door_lock", dependencies := ["DoorLock"] } },
    { name := "switch_lamp", tag := some { name := some "Lamp", dependencies := ["DoorLock"] } },
    { name := "log" }]

def houseConfig : Config :=
  { sharedRuntimeName := "HouseRuntime"
    startup :=
      { automaticOrder := false
        manualOrder := ["DoorLock", "Lamp", "door_lock"]
        coordinatorName := "HouseCoordinator"
        codeNamespace := some "House.Entry" }
    disabledRules := ["inheritance"] }

/-- A class against the rule on names, and against one that the house disables. -/
def plainDoor : ClassSource :=
  { name := "door", source := "class door : MonoBehaviour" }

/-- A class whose body is not closed. -/
def openLamp : ClassSource :=
  { name := "Lamp", source := "class Lamp : UdonSharpBehaviour \x7b" }

theorem sound_houseConfig : Checked.defect? houseConfig = none := by
  decide +kernel

theorem sound_startup_houseConfig : Checked.defect? houseConfig.startup = none := by
  decide +kernel

theorem sound_house : ∀ f ∈ house, Checked.defect? f = none := by
  decide

theorem accepted_house : Declared.Accepted houseConfig house :=
  Declared.findings_eq_nil_iff.mp (by decide)

theorem exists_partition_house :
    ∃ p, Partition.ofFunctions houseConfig house = .ok p ∧ p.blocking = false :=
  Partition.exists_ofFunctions_not_blocking accepted_house sound_house
    (Double.holds_two_pow.mono (Double.le_two_pow (by decide))) (by decide) (by decide)

theorem exists_run_house :
    ∃ r, run houseConfig (Rule.enabled houseConfig) house [plainDoor] = .ok r :=
  exists_run_eq_ok houseConfig (Rule.enabled houseConfig) house [plainDoor]
    sound_startup_houseConfig nofun nofun sound_house (Double.le_two_pow (by decide))

theorem exists_stages_house (classes : List ClassSource) :
    ∃ r g a s, run houseConfig (Rule.enabled houseConfig) house classes = .ok r ∧
      Partition.ofFunctions houseConfig house = .ok r.partition ∧ r.partition.blocking = false ∧
      Stages houseConfig (Rule.enabled houseConfig) classes r g a s := by
  obtain ⟨p, hp, hb⟩ := exists_partition_house
  obtain ⟨r, hr⟩ := exists_run_of_partition (Rule.enabled houseConfig) classes hp
    (StartupSettings.legal_of_sound sound_startup_houseConfig) nofun nofun
  obtain ⟨hp', hcases⟩ := run_inv hr
  obtain rfl := Except.ok.inj (hp.symm.trans hp')
  rcases hcases with ⟨hblocking, -⟩ | ⟨-, g, a, s, hstages⟩
  · exact absurd (hb.symm.trans hblocking) nofun
  · exact ⟨r, g, a, s, hr, hp, hb, hstages⟩

end House

end BehaviorPlan.Pipeline
