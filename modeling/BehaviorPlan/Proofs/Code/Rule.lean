import BehaviorPlan.Code.Rule
import BehaviorPlan.Proofs.Outcome

/-! # Findings on generated code

Every remark says something and counts lines from one, so every finding on code is sound. Only two
rules find errors: the one for well-formed code and the one for the base class. -/
namespace BehaviorPlan.Code

variable {c : ClassSource}

def Remark.Sound (r : Remark) : Prop :=
  r.message ≠ "" ∧ ∀ line ∈ r.line, 1 ≤ line

theorem Remark.Sound.defect {r : Remark} (h : r.Sound) (rule : Rule) :
    Checked.defect? (r.finding rule c) = none := by
  simp only [Checked.defect?, Remark.finding, Option.or_eq_none_iff, blank?_eq_none_iff,
    Option.bind_eq_none_iff]
  refine ⟨h.1, fun line hline => ?_⟩
  obtain ⟨n, hn, rfl⟩ := Option.map_eq_some_iff.mp hline
  have hpos := h.2 n hn
  simp only [defectIf_eq_none_iff, Int.ofNat_eq_natCast, decide_eq_false_iff_not]
  omega

theorem le_of_mem_declarationLine? {source declaration : String} {line : Nat}
    (h : line ∈ declarationLine? source declaration) : 1 ≤ line := by
  obtain ⟨before, _, rfl⟩ := Option.map_eq_some_iff.mp h
  exact Nat.le_add_left 1 _

theorem eq_of_mem_unless {p : Prop} [Decidable p] {x r : Remark}
    (h : r ∈ if p then [] else [x]) : r = x := by
  split at h
  · simp at h
  · exact List.mem_singleton.mp h

theorem sound_of_mem_nameRemarks {name : String} {r : Remark} (h : r ∈ nameRemarks name) :
    r.Sound := by
  unfold nameRemarks at h
  split at h
  · obtain rfl := List.mem_singleton.mp h
    exact ⟨append_ne_empty (by decide), nofun⟩
  · split at h
    · obtain rfl := List.mem_singleton.mp h
      exact ⟨append_ne_empty (append_ne_empty (by decide)), nofun⟩
    · simp at h

theorem sound_of_mem_balanceRemarks {code : List Char} {opening closing : Char} {what : String}
    {r : Remark} (h : r ∈ balanceRemarks code opening closing what) : r.Sound := by
  obtain rfl := eq_of_mem_unless h
  refine ⟨?_, nofun⟩
  repeat refine append_ne_empty ?_
  decide

theorem sound_of_mem_wellFormedRemarks {r : Remark} (h : r ∈ wellFormedRemarks c) : r.Sound := by
  rcases List.mem_append.mp h with h | h
  · rcases List.mem_append.mp h with h | h
    · exact sound_of_mem_nameRemarks h
    · exact sound_of_mem_balanceRemarks h
  · exact sound_of_mem_balanceRemarks h

theorem sound_of_mem_namingRemarks {r : Remark} (h : r ∈ namingRemarks c) : r.Sound := by
  rcases List.mem_append.mp h with h | h
  · obtain rfl := eq_of_mem_unless h
    exact ⟨append_ne_empty (append_ne_empty (by decide)), nofun⟩
  · obtain ⟨m, _, rfl⟩ := List.mem_map.mp h
    exact ⟨append_ne_empty (append_ne_empty (by decide)), fun _ => le_of_mem_declarationLine?⟩

theorem sound_of_mem_networkSyncRemarks {r : Remark} (h : r ∈ networkSyncRemarks c) :
    r.Sound := by
  unfold networkSyncRemarks at h
  split at h
  · simp at h
  · rcases List.mem_append.mp h with h | h
    · obtain rfl := eq_of_mem_unless h
      exact ⟨by decide, nofun⟩
    · obtain rfl := eq_of_mem_unless h
      exact ⟨by decide, nofun⟩

theorem sound_of_mem_remarks {rule : Rule} {r : Remark} (h : r ∈ remarks rule c) : r.Sound := by
  cases rule with
  | wellFormed => exact sound_of_mem_wellFormedRemarks h
  | inheritance =>
    obtain rfl := eq_of_mem_unless h
    exact ⟨by decide, nofun⟩
  | naming => exact sound_of_mem_namingRemarks h
  | networkSync => exact sound_of_mem_networkSyncRemarks h
  | access | performance =>
    obtain ⟨m, _, rfl⟩ := List.mem_map.mp h
    exact ⟨append_ne_empty (append_ne_empty (by decide)), fun _ => le_of_mem_declarationLine?⟩
  | nullSafety =>
    obtain ⟨i, _, rfl⟩ := List.mem_map.mp h
    have hmessage : "GameObject.Find call without null check" ≠ "" := by decide
    refine ⟨hmessage, fun line hline => ?_⟩
    obtain rfl := Option.some.inj hline
    exact Nat.le_add_left 1 i

theorem sound_of_mem_codeFindings {rules : List Rule} {classes : List ClassSource} {f : Finding}
    (h : f ∈ findings rules classes) : Checked.defect? f = none := by
  obtain ⟨c, _, h⟩ := List.mem_flatMap.mp h
  obtain ⟨rule, _, h⟩ := List.mem_flatMap.mp h
  obtain ⟨r, hr, rfl⟩ := List.mem_map.mp h
  exact (sound_of_mem_remarks hr).defect rule

/-- Other rules than the two only warn or inform. -/
theorem rule_of_error {rule : Rule} {r : Remark} (h : r ∈ remarks rule c)
    (herror : r.severity = .error) : rule = .wellFormed ∨ rule = .inheritance := by
  cases rule with
  | wellFormed => exact Or.inl rfl
  | inheritance => exact Or.inr rfl
  | naming =>
    rcases List.mem_append.mp h with h | h
    · obtain rfl := eq_of_mem_unless h
      simp at herror
    · obtain ⟨m, _, rfl⟩ := List.mem_map.mp h
      simp at herror
  | networkSync =>
    simp only [remarks, networkSyncRemarks] at h
    split at h
    · simp at h
    · rcases List.mem_append.mp h with h | h
      · obtain rfl := eq_of_mem_unless h
        simp at herror
      · obtain rfl := eq_of_mem_unless h
        simp at herror
  | access | performance | nullSafety =>
    obtain ⟨m, _, rfl⟩ := List.mem_map.mp h
    simp at herror

/-- A class with a legal name and the base class, whose braces and parentheses are equally many on
either side outside literals and comments. -/
structure Passes (c : ClassSource) : Prop where
  name : nameRemarks c.name = []
  braces : (stripLiterals c.source.toList).count '\x7b' =
    (stripLiterals c.source.toList).count '\x7d'
  parentheses : (stripLiterals c.source.toList).count '(' =
    (stripLiterals c.source.toList).count ')'
  base : inheritsBase c.source.toList = true

/-- No rule finds an error in a class that passes. -/
theorem Passes.isError_eq_false (h : Passes c) {rules : List Rule} {f : Finding}
    (hf : f ∈ findingsOn rules c) : f.isError = false := by
  obtain ⟨rule, _, hf⟩ := List.mem_flatMap.mp hf
  obtain ⟨r, hr, rfl⟩ := List.mem_map.mp hf
  by_contra herror
  have hseverity : r.severity = .error :=
    of_decide_eq_true (eq_true_of_ne_false herror)
  rcases rule_of_error hr hseverity with rfl | rfl
  · simp [remarks, wellFormedRemarks, balanceRemarks, h.name, h.braces, h.parentheses] at hr
  · simp [remarks, inheritanceRemarks, h.base] at hr

end BehaviorPlan.Code
