import BehaviorPlan.Proofs.Code.Rule

/-! # Selecting rules and classes

Each finding names the rule that made it, and no two rules share a name. So a finding stands or
falls with its rule and its class: the findings of some rules are those of all rules that name one
of them, and the findings on some classes follow those on the classes before. -/
namespace BehaviorPlan

namespace Rule

theorem mem_all (r : Rule) : r ∈ all := by
  cases r <;> decide

theorem label_inj {r s : Rule} : r.label = s.label ↔ r = s := by
  cases r <;> cases s <;> decide

theorem nodup_all : all.Nodup := by
  decide

theorem mem_enabled {config : Config} {r : Rule} :
    r ∈ enabled config ↔ r.label ∉ config.disabledRules := by
  simp [enabled, mem_all]

theorem filter_enabled {config : Config} {r : Rule} (h : r.label ∉ config.disabledRules) :
    (enabled config).filter (·.label = r.label) = [r] := by
  have hnodup : ((enabled config).filter (·.label = r.label)).Nodup :=
    (nodup_all.filter _).filter _
  refine List.perm_singleton.mp ((List.perm_ext_iff_of_nodup hnodup (by simp)).mpr fun s => ?_)
  simp only [List.mem_filter, mem_enabled, decide_eq_true_eq, label_inj, List.mem_singleton]
  constructor
  · exact And.right
  · rintro rfl
    exact ⟨h, rfl⟩

end Rule

namespace Code

variable {config : Config}

theorem mem_findingsOn {rules : List Rule} {c : ClassSource} {f : Finding} :
    f ∈ findingsOn rules c ↔ ∃ r ∈ rules, ∃ m ∈ remarks r c, m.finding r c = f := by
  simp only [findingsOn, List.mem_flatMap, List.mem_map]

theorem forall_isError_eq_false_iff {c : ClassSource} :
    (∀ f ∈ findingsOn (Rule.enabled config) c, f.isError = false) ↔
      ∀ rule : Rule, rule.label ∉ config.disabledRules →
        ∀ m ∈ remarks rule c, m.severity ≠ .error := by
  constructor
  · intro h rule hrule m hm herror
    have hfinding := h _ (mem_findingsOn.mpr ⟨rule, Rule.mem_enabled.mpr hrule, m, hm, rfl⟩)
    exact of_decide_eq_false hfinding herror
  · intro h f hf
    obtain ⟨rule, hrule, m, hm, rfl⟩ := mem_findingsOn.mp hf
    exact decide_eq_false (h rule (Rule.mem_enabled.mp hrule) m hm)

/-- The finding is due to no rule that the configuration switches off. -/
def isSelected (config : Config) (f : Finding) : Bool :=
  f.rule.all (· ∉ config.disabledRules)

theorem filter_findingsOn (p : String → Bool) (rules : List Rule) (c : ClassSource) :
    (findingsOn rules c).filter (·.rule.all p) = findingsOn (rules.filter (p ·.label)) c := by
  induction rules with
  | nil => rfl
  | cons r rules ih =>
    have hcons : findingsOn (r :: rules) c = (remarks r c).map (Remark.finding r c) ++
      findingsOn rules c := rfl
    have hrule : ∀ f ∈ (remarks r c).map (Remark.finding r c), f.rule = some r.label := by
      intro f hf
      obtain ⟨_, _, rfl⟩ := List.mem_map.mp hf
      rfl
    rw [hcons, List.filter_append, ih, List.filter_cons]
    split
    · rename_i hp
      rw [List.filter_eq_self.mpr fun f hf => by simpa [hrule f hf] using hp]
      rfl
    · rename_i hp
      rw [List.filter_eq_nil_iff.mpr fun f hf => by simpa [hrule f hf] using hp, List.nil_append]

theorem filter_findings (p : String → Bool) (rules : List Rule) (classes : List ClassSource) :
    (findings rules classes).filter (·.rule.all p) =
      findings (rules.filter (p ·.label)) classes := by
  induction classes with
  | nil => rfl
  | cons c classes ih =>
    have hcons : ∀ rules, findings rules (c :: classes) =
      findingsOn rules c ++ findings rules classes := fun _ => rfl
    rw [hcons, hcons, List.filter_append, filter_findingsOn, ih]

theorem filter_isSelected (config : Config) (classes : List ClassSource) :
    (findings Rule.all classes).filter (isSelected config) =
      findings (Rule.enabled config) classes :=
  filter_findings (fun label => label ∉ config.disabledRules) Rule.all classes

theorem checkedAll_findings (rules : List Rule) (classes : List ClassSource) :
    checkedAll (findings rules classes) = .ok (findings rules classes) :=
  checkedAll_of_sound fun _ hf => sound_of_mem_codeFindings hf

theorem filter_rule_eq {r : Rule} (h : r.label ∉ config.disabledRules)
    (classes : List ClassSource) :
    (findings (Rule.enabled config) classes).filter (·.rule.all (· = r.label)) =
      findings [r] classes := by
  rw [filter_findings (fun label => label = r.label), Rule.filter_enabled h]

/-- How findings depend on the rules and on the classes. -/
structure Selects (config : Config) : Prop where
  /-- Switching rules off takes away their findings and nothing else. -/
  enabled : ∀ classes, ∃ found, checkedAll (findings Rule.all classes) = .ok found ∧
    checkedAll (findings (Rule.enabled config) classes) = .ok (found.filter (isSelected config))
  named : ∀ rules classes, ∀ f ∈ findings rules classes, ∃ r ∈ rules, f.rule = some r.label
  complete : ∀ rules classes, ∀ r ∈ rules, ∀ c ∈ classes, ∀ m ∈ remarks r c,
    ∃ f ∈ findings rules classes, f.rule = some r.label ∧ f.behavior = some c.name ∧
      f.severity = m.severity ∧ f.message = m.message
  /-- A rule that is left on finds what it finds alone. -/
  alone : ∀ r : Rule, r.label ∉ config.disabledRules → ∀ classes, ∃ found,
    checkedAll (findings (Rule.enabled config) classes) = .ok found ∧
    checkedAll (findings [r] classes) = .ok (found.filter (·.rule.all (· = r.label)))
  concat : ∀ rules before after, ∃ found others,
    checkedAll (findings rules before) = .ok found ∧
    checkedAll (findings rules after) = .ok others ∧
    checkedAll (findings rules (before ++ after)) = .ok (found ++ others)

/-- Disabled rules and added classes change no finding but their own. -/
theorem selects (config : Config) : Selects config where
  enabled classes := by
    refine ⟨_, checkedAll_findings Rule.all classes, ?_⟩
    rw [filter_isSelected]
    exact checkedAll_findings _ classes
  named rules classes f hf := by
    obtain ⟨c, _, hf⟩ := List.mem_flatMap.mp hf
    exact rule_of_mem_findingsOn hf
  complete rules classes r hr c hc m hm := by
    have hfound := mem_findingsOn.mpr ⟨r, hr, m, hm, rfl⟩
    exact ⟨m.finding r c, List.mem_flatMap.mpr ⟨c, hc, hfound⟩, rfl, rfl, rfl, rfl⟩
  alone r hr classes := by
    refine ⟨_, checkedAll_findings (Rule.enabled config) classes, ?_⟩
    rw [filter_rule_eq hr]
    exact checkedAll_findings _ classes
  concat rules before after := by
    refine ⟨_, _, checkedAll_findings rules before, checkedAll_findings rules after, ?_⟩
    rw [← findings_append]
    exact checkedAll_findings rules _

end Code

end BehaviorPlan
