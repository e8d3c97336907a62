import BehaviorPlan.Proofs.Pipeline.Success

/-! # Categories of findings

Every stage has categories of its own, and only the rules for generated code find issues of
generated code. So the category of a finding tells which part of a run it belongs to. -/
namespace BehaviorPlan

variable {config : Config} {functions : List FunctionDecl}

namespace Declared

theorem category_of_mem_findings {f : Finding} (h : f ∈ findings config functions) :
    f.category = .invalidUnitName ∨ f.category = .invalidAttribute := by
  cases tells_of_mem_findings h with
  | repeated => exact Or.inr rfl
  | name => exact Or.inl rfl
  | tag => exact Or.inr rfl

end Declared

namespace Partition

theorem category_of_mem_completeness {b : Behavior} {others : List Behavior} {f : Finding}
    (h : f ∈ completeness config b others) :
    f.category = .invalidUnitName ∨ f.category = .structuralIncompleteness := by
  simp only [completeness, List.mem_append] at h
  rcases h with (h | h) | h
  all_goals split at h
  all_goals simp_all

theorem category_of_mem_behaviorFindings {behaviors : List Behavior} {f : Finding}
    (h : f ∈ behaviorFindings config behaviors) :
    f.category = .invalidUnitName ∨ f.category = .structuralIncompleteness := by
  rcases List.mem_append.mp h with h | h
  · obtain ⟨⟨b, i⟩, _, h⟩ := List.mem_flatMap.mp h
    exact category_of_mem_completeness h
  · split at h
    · simp at h
    · rw [List.mem_singleton.mp h]
      exact Or.inr rfl

/-- However a partition ends, it has no findings on generated code. -/
theorem category_ne_of_mem_validation {p : Partition} (hp : ofFunctions config functions = .ok p)
    {f : Finding} (h : f ∈ p.validation.findings) : f.category ≠ .generatedCodeIssue := by
  rcases ofFunctions_cases hp with ⟨-, rfl⟩ | ⟨-, -, rfl⟩ | ⟨-, -, plans, -, rfl⟩
  · rcases Declared.category_of_mem_findings h with hf | hf <;> simp [hf]
  · rcases category_of_mem_behaviorFindings h with hf | hf <;> simp [hf]
  · rcases category_of_mem_behaviorFindings h with hf | hf <;> simp [hf]

end Partition

theorem Verdict.category_of_mem_structural {analysis : Option Analysis} {f : Finding}
    (h : f ∈ structural analysis) :
    f.category = .circularDependency ∨ f.category = .missingReference := by
  rcases List.mem_append.mp h with h | h
  · obtain ⟨c, _, rfl⟩ := List.mem_map.mp h
    exact Or.inl rfl
  · obtain ⟨⟨source, target, kind⟩, _, rfl⟩ := List.mem_map.mp h
    cases kind <;> exact Or.inr rfl

theorem Pipeline.Ordered.category_of_mem_findings {settings : StartupSettings} {g : Graph}
    {s : OrderStage} (h : Ordered settings g s) {f : Finding} (hf : f ∈ s.findings) :
    f.category = .orderingViolation := by
  cases h with
  | cyclic | automatic | manual => simp at hf
  | refused =>
    obtain ⟨message, _, rfl⟩ := List.mem_map.mp hf
    rfl

theorem Code.category_of_mem_findings {rules : List Rule} {classes : List ClassSource}
    {f : Finding} (h : f ∈ findings rules classes) : f.category = .generatedCodeIssue := by
  obtain ⟨c, _, h⟩ := List.mem_flatMap.mp h
  obtain ⟨rule, _, h⟩ := List.mem_flatMap.mp h
  obtain ⟨remark, _, rfl⟩ := List.mem_map.mp h
  rfl

namespace Pipeline

variable {rules : List Rule} {classes : List ClassSource} {r : Run}

/-- The verdict lists what was found before code was generated, and then the issues of the
generated code. -/
theorem exists_findings_eq (h : run config rules functions classes = .ok r) :
    (∀ f ∈ r.issues, f.category = .generatedCodeIssue) ∧
      ∃ before, r.verdict.findings = before ++ r.issues ∧
        ∀ f ∈ before, f.category ≠ .generatedCodeIssue := by
  obtain ⟨hp, hends⟩ := run_inv h
  have hvalidation : ∀ f ∈ r.partition.validation.findings, f.category ≠ .generatedCodeIssue :=
    fun _ => Partition.category_ne_of_mem_validation hp
  rcases hends with ⟨-, hr, hverdict⟩ | ⟨-, g, a, s, hstages⟩
  · have hissues : r.issues = [] := congrArg Run.issues hr
    have hfindings := (Verdict.decide_inv hverdict).1
    refine ⟨by simp [hissues], r.partition.validation.findings, ?_, hvalidation⟩
    rw [hfindings, hissues]
    simp [Verdict.structural]
  · refine ⟨fun f hf => ?_, _, (Verdict.decide_inv hstages.verdict).1, fun f hf => ?_⟩
    · rw [hstages.issues] at hf
      exact Code.category_of_mem_findings hf
    · rcases List.mem_append.mp hf with hf | hf
      · rcases List.mem_append.mp hf with hf | hf
        · exact hvalidation f hf
        · rcases Verdict.category_of_mem_structural hf with hcategory | hcategory <;>
            simp [hcategory]
      · simp [hstages.ordered.category_of_mem_findings hf]

theorem structuralFindings_append_issues (h : run config rules functions classes = .ok r) :
    r.structuralFindings ++ r.issues = r.verdict.findings := by
  obtain ⟨hissues, before, hfindings, hbefore⟩ := exists_findings_eq h
  have hkept : before.filter (·.category ≠ .generatedCodeIssue) = before :=
    List.filter_eq_self.mpr fun f hf => by simpa using hbefore f hf
  have hleft : r.issues.filter (·.category ≠ .generatedCodeIssue) = [] :=
    List.filter_eq_nil_iff.mpr fun f hf => by simpa using hissues f hf
  rw [Run.structuralFindings, hfindings, List.filter_append, hkept, hleft, List.append_nil]

end Pipeline

end BehaviorPlan
