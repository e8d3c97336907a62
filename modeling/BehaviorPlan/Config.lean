import BehaviorPlan.Checked
import BehaviorPlan.Name.Identifier

/-! # Configuration

Settings of the startup sequence, of the whole plan, and of the reports. -/
namespace BehaviorPlan

structure StartupSettings where
  /-- Order behaviors by their dependencies; otherwise the manual order is checked and used. -/
  automaticOrder : Bool := true
  manualOrder : List String := []
  generateCoordinator : Bool := true
  coordinatorName : String := "BehaviorCoordinator"
  orderHints : Bool := true
  /-- The startup sequence is given up after this many seconds. -/
  timeout : Quantity := .ratio 30 1
  stepDelay : Quantity := .ratio 1 10
  codeNamespace : Option String := none
  deriving DecidableEq, Repr

namespace StartupSettings

instance : Checked StartupSettings where
  defect? s :=
    (((defectIf (s.manualOrder.contains "") (.blank "manual_order entries")).or
      (defectIf (!Name.isClassName s.coordinatorName)
        (.illegal "coordinator_name" s.coordinatorName "name"))).or
      ((defectIf (s.timeout.le .zero) (.notPositiveQuantity "timeout_seconds" s.timeout)).or
        (defectIf (s.stepDelay.lt .zero) (.negativeQuantity "step_delay_seconds" s.stepDelay)))).or
      (s.codeNamespace.bind fun n =>
        defectIf (!Name.isNamespace n) (.illegal "namespace" n "C# namespace"))

def ofDraft (d : Draft StartupSettings) : Outcome StartupSettings :=
  d.accept ((d.notList? "manual_order").or (Checked.defect? d.value))

end StartupSettings

structure Config where
  /-- A behavior without a lifecycle hook is an error; otherwise a warning. -/
  requireEntryPoint : Bool := true
  deepChainThreshold : Int := 5
  couplingThreshold : Quantity := .ratio 7 10
  maxDirectDependencies : Int := 5
  maxChains : Int := 10
  sharedRuntimeName : String := "SharedRuntime"
  startup : StartupSettings := {}
  disabledRules : List String := []
  deriving DecidableEq, Repr

namespace Config

instance : Checked Config where
  defect? c :=
    (((defectIf (decide (c.deepChainThreshold < 1))
        (.below "deep_chain_threshold" 1 c.deepChainThreshold)).or
      (defectIf (!c.couplingThreshold.inUnitInterval)
        (.outsideUnitInterval "coupling_threshold" c.couplingThreshold))).or
      ((defectIf (decide (c.maxDirectDependencies < 0)) (.negative "max_direct_dependencies")).or
        (defectIf (decide (c.maxChains < 1)) (.below "max_chains" 1 c.maxChains)))).or
      ((defectIf (!Name.isClassName c.sharedRuntimeName)
        (.illegal "shared_runtime_name" c.sharedRuntimeName "class name")).or
        (defectIf (c.sharedRuntimeName = c.startup.coordinatorName) .sameClassName))

def ofDraft (d : Draft Config) : Outcome Config :=
  d.accept ((Checked.defect? d.value).or (d.notSet? "disabled_rules"))

/-- Names of the classes that are generated beside the behaviors. -/
def reservedNames (c : Config) : List String :=
  [c.sharedRuntimeName, c.startup.coordinatorName]

end Config

structure ReportOptions where
  /-- Findings shown per category; all of them if left out. -/
  maxFindings : Option Int := some 10
  suggestions : Bool := true
  verbose : Bool := false
  deriving DecidableEq, Repr

instance : Checked ReportOptions where
  defect? o := o.maxFindings.bind fun n =>
    defectIf (decide (n < 1)) (.belowLimit "max_findings_displayed" 1 n)

structure ConsoleOptions extends ReportOptions where
  width : Int := 120
  deriving DecidableEq, Repr

instance : Checked ConsoleOptions where
  defect? o := (Checked.defect? o.toReportOptions).or
    (defectIf (decide (o.width < 40)) (.below "width" 40 o.width))

theorem Config.reservedNames_nodup {c : Config} (h : Checked.defect? c = none) :
    c.reservedNames.Nodup := by
  simp only [Checked.defect?, defectIf, Option.or_eq_none_iff] at h
  simp_all [reservedNames]

end BehaviorPlan
