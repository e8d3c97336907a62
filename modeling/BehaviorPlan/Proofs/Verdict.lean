import BehaviorPlan.Proofs.Outcome
import BehaviorPlan.Verdict

/-! # What a verdict depends on

Every verdict can be decided, and it passes exactly if there is no cycle and no error anywhere.
Unknown targets of events are warnings; those of direct calls are errors. -/
namespace BehaviorPlan.Verdict

def structural (analysis : Option Analysis) : List Finding :=
  ((analysis.map (·.cycles)).getD []).map cycleFinding ++
    ((analysis.map (·.unknownTargets)).getD []).map unknownTargetFinding

theorem sound_of_mem_structural {analysis : Option Analysis} {f : Finding}
    (h : f ∈ structural analysis) : Checked.defect? f = none := by
  rcases List.mem_append.mp h with h | h
  · obtain ⟨c, _, rfl⟩ := List.mem_map.mp h
    exact (Finding.sound_iff rfl).mpr (append_ne_empty (by decide))
  · obtain ⟨⟨source, target, kind⟩, _, rfl⟩ := List.mem_map.mp h
    cases kind
    all_goals
      refine (Finding.sound_iff rfl).mpr ?_
      repeat refine append_ne_empty ?_
      decide

theorem isError_unknownTargetFinding (u : UnknownTarget) :
    (unknownTargetFinding u).isError = true ↔ u.kind = .direct := by
  obtain ⟨source, target, kind⟩ := u
  cases kind <;> simp [unknownTargetFinding, Finding.isError]

/-- A verdict blocks if there is an error or a cycle, so its checks never fail. -/
theorem exists_decide_eq_ok (validation : Validation) (analysis : Option Analysis)
    (issues ordering : List Finding) (sharedRuntimeName : String) :
    ∃ v, decide validation analysis issues ordering sharedRuntimeName = .ok v := by
  have hstructural : checkedAll (structural analysis) = .ok (structural analysis) :=
    checkedAll_of_sound fun _ => sound_of_mem_structural
  refine ⟨_, Outcome.bind_eq_ok_iff.mpr ⟨_, hstructural, checked_of_sound ?_⟩⟩
  generalize validation.findings ++ structural analysis ++ ordering ++ issues = findings
  simp only [Checked.defect?, Option.or_eq_none_iff, defectIf_eq_none_iff]
  cases findings.any Finding.isError <;> cases ((analysis.map (·.cycles)).getD []).isEmpty <;>
    simp

section Passed

variable {validation : Validation} {analysis : Option Analysis} {issues ordering : List Finding}
  {sharedRuntimeName : String} {v : Verdict}

/-- A verdict holds everything that was found, stage by stage. -/
theorem decide_inv (h : decide validation analysis issues ordering sharedRuntimeName = .ok v) :
    v.findings = validation.findings ++ structural analysis ++ ordering ++ issues ∧
      v.blocking = (!((analysis.map (·.cycles)).getD []).isEmpty ||
        v.findings.any Finding.isError) := by
  obtain ⟨found, hfound, h⟩ := Outcome.bind_eq_ok_iff.mp h
  obtain ⟨_, rfl⟩ := checkedAll_eq_ok_iff.mp hfound
  obtain ⟨_, rfl⟩ := checked_eq_ok_iff.mp h
  exact ⟨rfl, rfl⟩

theorem blocking_of_decide
    (h : decide validation analysis issues ordering sharedRuntimeName = .ok v) :
    v.blocking = (!((analysis.map (·.cycles)).getD []).isEmpty ||
      (validation.findings ++ structural analysis ++ ordering ++ issues).any Finding.isError) := by
  obtain ⟨hfindings, hblocking⟩ := decide_inv h
  rw [hblocking, hfindings]

theorem passed_of_decide_none
    (h : decide validation none [] [] sharedRuntimeName = .ok v) :
    v.passed = !validation.blocking := by
  rw [passed, blocking_of_decide h]
  simp [structural, Validation.blocking]

theorem any_isError_structural {a : Analysis} (hcycles : a.cycles = []) :
    (structural (some a)).any Finding.isError = true ↔
      ∃ u ∈ a.unknownTargets, u.kind = .direct := by
  simp [structural, hcycles, isError_unknownTargetFinding]

/-- A verdict passes exactly if nothing that was found is fatal. -/
theorem passed_of_decide_iff {a : Analysis}
    (h : decide validation (some a) issues ordering sharedRuntimeName = .ok v) :
    v.passed = true ↔ validation.blocking = false ∧ a.cycles = [] ∧
      (∀ u ∈ a.unknownTargets, u.kind ≠ .direct) ∧ ordering.any Finding.isError = false ∧
        issues.any Finding.isError = false := by
  rw [passed, blocking_of_decide h]
  simp only [List.any_append, Bool.not_or, Bool.and_eq_true, Bool.not_eq_true', Bool.not_eq_false',
    Validation.blocking, Option.map_some, Option.getD_some, List.isEmpty_iff]
  constructor
  · rintro ⟨hcycles, ⟨⟨hvalidation, hstructural⟩, hordering⟩, hissues⟩
    refine ⟨hvalidation, hcycles, fun u hu hdirect => ?_, hordering, hissues⟩
    exact Bool.false_ne_true (hstructural.symm.trans
      ((any_isError_structural hcycles).mpr ⟨u, hu, hdirect⟩))
  · rintro ⟨hvalidation, hcycles, hunknown, hordering, hissues⟩
    refine ⟨hcycles, ⟨⟨hvalidation, Bool.eq_false_iff.mpr fun herror => ?_⟩, hordering⟩, hissues⟩
    obtain ⟨u, hu, hdirect⟩ := (any_isError_structural hcycles).mp herror
    exact hunknown u hu hdirect

end Passed

end BehaviorPlan.Verdict
