import BehaviorPlan.Proofs.Startup.Order

/-! # Problems of manual orders

A manual order that is no startup order is refused with all of its problems, each of them once and
in the order in which they are met. Whatever automatic ordering returns would be accepted as a
manual order, and it fails exactly if no manual order would be accepted. -/
namespace BehaviorPlan

namespace Startup

/-- Read from its start, the order lists `a` for the `k`-th time before it lists `b` so often. -/
def MetBefore (k : Nat) (order : List String) (a b : String) : Prop :=
  ∃ front, front <+: order ∧ k ≤ front.count a ∧ front.count b < k

/-- The problems are just those of the order, each named once. Missing behaviors stand in the order
of the nodes, violations in the order of the edges; a name is unknown from its first occurrence on,
and a duplicate from its second. -/
structure Diagnoses (g : Graph) (order : List String) (p : OrderProblems) : Prop where
  missing : p.missing.Sublist g.nodes
  mem_missing : ∀ n, n ∈ p.missing ↔ n ∈ g.nodes ∧ n ∉ order
  unknown : p.unknown.Pairwise (MetBefore 1 order)
  mem_unknown : ∀ n, n ∈ p.unknown ↔ n ∈ order ∧ n ∉ g.nodes
  duplicates : p.duplicates.Pairwise (MetBefore 2 order)
  mem_duplicates : ∀ n, n ∈ p.duplicates ↔ n ∈ g.nodes ∧ 2 ≤ order.count n
  violations : (p.violations.map fun v => (v.behavior, v.dependency)).Sublist g.edges
  mem_violations : ∀ v, v ∈ p.violations ↔
    (g.Edge v.behavior v.dependency ∧ v.behavior ∈ order ∧ v.dependency ∈ order) ∧
      order.idxOf v.behavior ≤ order.idxOf v.dependency ∧
      v.position = order.idxOf v.behavior ∧ v.dependencyPosition = order.idxOf v.dependency

section Detection

theorem repeats_concat (seen names : List String) (n : String) :
    repeats seen (names ++ [n]) =
      repeats seen names ++ if n ∈ seen ∨ n ∈ names then [n] else [] := by
  induction names generalizing seen with
  | nil => simp [repeats]
  | cons m names ih =>
    rw [List.cons_append, repeats, repeats, ih, ih]
    by_cases hm : m ∈ seen
    · have hseen : n = m → n ∈ seen := fun he => he ▸ hm
      simp only [if_pos hm, List.cons_append, List.mem_cons]
      congr 3
      exact propext ⟨fun h => h.imp_right Or.inr, fun h => by tauto⟩
    · simp only [if_neg hm, List.mem_cons]
      congr 2
      exact propext (by tauto)

theorem mem_repeats {seen names : List String} {n : String} :
    n ∈ repeats seen names ↔ n ∈ seen ∧ n ∈ names ∨ 2 ≤ names.count n := by
  induction names using List.reverseRecOn with
  | nil => simp [repeats]
  | append_singleton names m ih =>
    rw [repeats_concat, List.mem_append, ih, List.count_append, List.mem_append]
    by_cases he : n = m
    · subst he
      have hone : [n].count n = 1 := by simp
      rw [hone]
      by_cases hn : n ∈ names
      · have hread : 1 ≤ names.count n := List.one_le_count_iff.mpr hn
        have htwo : 2 ≤ names.count n + 1 := by omega
        simp [hn, htwo]
      · have hzero : names.count n = 0 := List.count_eq_zero.mpr hn
        by_cases hseen : n ∈ seen <;> simp [hn, hseen, hzero]
    · have hzero : [m].count n = 0 := by simp [Ne.symm he]
      rw [hzero]
      split <;> simp [he]

/-- A scan that finds something new only in what it has just read finds things in the order in which
they become due. -/
theorem pairwise_eraseDups_of_scan (scan : List String → List String) (hnil : scan [] = [])
    (hstep : ∀ l n, scan (l ++ [n]) = scan l ∨ scan (l ++ [n]) = scan l ++ [n])
    (order : List String) :
    (scan order).eraseDups.Pairwise fun a b =>
      ∃ front, front <+: order ∧ a ∈ scan front ∧ b ∉ scan front := by
  induction order using List.reverseRecOn with
  | nil => simp [hnil]
  | append_singleton order n ih =>
    have hold : (scan order).eraseDups.Pairwise fun a b =>
        ∃ front, front <+: order ++ [n] ∧ a ∈ scan front ∧ b ∉ scan front := by
      refine ih.imp fun ⟨front, hfront, hab⟩ => ?_
      exact ⟨front, hfront.trans (List.prefix_append _ _), hab⟩
    rcases hstep order n with h | h
    · rwa [h]
    · rw [h, eraseDups_concat]
      split
      · exact hold
      · rename_i hnew
        refine List.pairwise_append.mpr ⟨hold, List.pairwise_singleton _ _, fun a ha b hb => ?_⟩
        rw [List.mem_singleton.mp hb]
        exact ⟨order, List.prefix_append _ _, List.mem_eraseDups.mp ha, hnew⟩

theorem pairwise_unknown (nodes order : List String) :
    (order.filter (· ∉ nodes)).eraseDups.Pairwise (MetBefore 1 order) := by
  have hstep : ∀ l n, (l ++ [n]).filter (· ∉ nodes) = l.filter (· ∉ nodes) ∨
      (l ++ [n]).filter (· ∉ nodes) = l.filter (· ∉ nodes) ++ [n] := by
    intro l n
    by_cases hn : n ∈ nodes
    · left
      simp [hn]
    · right
      simp [hn]
  have hscan := pairwise_eraseDups_of_scan (fun l => l.filter (· ∉ nodes)) rfl hstep order
  refine hscan.imp_of_mem fun {a b} _ hb ⟨front, hfront, ha, hnot⟩ => ?_
  have hunknown : b ∉ nodes := by simpa using (List.mem_filter.mp (List.mem_eraseDups.mp hb)).2
  have hb : b ∉ front := fun hm => hnot (List.mem_filter.mpr ⟨hm, by simpa using hunknown⟩)
  refine ⟨front, hfront, List.one_le_count_iff.mpr (List.mem_filter.mp ha).1, ?_⟩
  rw [List.count_eq_zero.mpr hb]
  exact Nat.one_pos

theorem mem_repeats_filter {nodes order : List String} {n : String} :
    n ∈ repeats [] (order.filter (· ∈ nodes)) ↔ n ∈ nodes ∧ 2 ≤ order.count n := by
  have hrepeats : n ∈ repeats [] (order.filter (· ∈ nodes)) ↔
      2 ≤ (order.filter (· ∈ nodes)).count n := by simp [mem_repeats]
  by_cases hn : n ∈ nodes
  · rw [hrepeats, List.count_filter (by simpa using hn)]
    exact (and_iff_right hn).symm
  · have hnot : n ∉ order.filter (· ∈ nodes) := by simp [hn]
    rw [hrepeats, List.count_eq_zero.mpr hnot]
    simp [hn]

theorem pairwise_duplicates (nodes order : List String) :
    (repeats [] (order.filter (· ∈ nodes))).eraseDups.Pairwise (MetBefore 2 order) := by
  have hstep : ∀ l n, repeats [] ((l ++ [n]).filter (· ∈ nodes)) =
        repeats [] (l.filter (· ∈ nodes)) ∨
      repeats [] ((l ++ [n]).filter (· ∈ nodes)) = repeats [] (l.filter (· ∈ nodes)) ++ [n] := by
    intro l n
    by_cases hn : n ∈ nodes
    · have hfilter : (l ++ [n]).filter (· ∈ nodes) = l.filter (· ∈ nodes) ++ [n] := by simp [hn]
      rw [hfilter, repeats_concat]
      split
      · exact Or.inr rfl
      · exact Or.inl (List.append_nil _)
    · left
      simp [hn]
  have hscan := pairwise_eraseDups_of_scan
    (fun l => repeats [] (l.filter (· ∈ nodes))) rfl hstep order
  refine hscan.imp_of_mem fun {a b} _ hb ⟨front, hfront, ha, hnot⟩ => ?_
  have hknown : b ∈ nodes := (mem_repeats_filter.mp (List.mem_eraseDups.mp hb)).1
  refine ⟨front, hfront, (mem_repeats_filter.mp ha).2, ?_⟩
  by_contra hcount
  exact hnot (mem_repeats_filter.mpr ⟨hknown, by omega⟩)

end Detection

section Violations

variable {order : List String}

theorem position?_of_not_mem {name : String} (h : name ∉ order) : position? order name = none := by
  rw [position?, List.findIdx?_eq_none_iff]
  intro n hn
  have hne : n ≠ name := fun he => h (he ▸ hn)
  simpa using hne

theorem violation?_eq (a b : String) : violation? order (a, b) =
    if (a ∈ order ∧ b ∈ order) ∧ order.idxOf a ≤ order.idxOf b then
      some ⟨a, order.idxOf a, b, order.idxOf b⟩ else none := by
  by_cases ha : a ∈ order
  · by_cases hb : b ∈ order
    · simp [violation?, position?_of_mem ha, position?_of_mem hb, ha, hb]
    · simp [violation?, position?_of_mem ha, position?_of_not_mem hb, hb]
  · simp [violation?, position?_of_not_mem ha, ha]

theorem violations_sublist (edges : List (String × String)) :
    ((edges.filterMap (violation? order)).map fun v => (v.behavior, v.dependency)).Sublist
      edges := by
  induction edges with
  | nil => exact List.Sublist.refl _
  | cons e edges ih =>
    obtain ⟨a, b⟩ := e
    rw [List.filterMap_cons, violation?_eq]
    split_ifs
    · exact ih.cons_cons (a, b)
    · exact ih.cons (a, b)

theorem mem_violations {edges : List (String × String)} {v : OrderViolation} :
    v ∈ edges.filterMap (violation? order) ↔
      ((v.behavior, v.dependency) ∈ edges ∧ v.behavior ∈ order ∧ v.dependency ∈ order) ∧
        order.idxOf v.behavior ≤ order.idxOf v.dependency ∧
        v.position = order.idxOf v.behavior ∧ v.dependencyPosition = order.idxOf v.dependency := by
  rw [List.mem_filterMap]
  constructor
  · rintro ⟨⟨a, b⟩, he, hv⟩
    rw [violation?_eq] at hv
    split_ifs at hv with h
    obtain rfl := Option.some.inj hv
    exact ⟨⟨he, h.1⟩, h.2, rfl, rfl⟩
  · rintro ⟨⟨he, hlisted⟩, hle, hp, hq⟩
    refine ⟨_, he, ?_⟩
    rw [violation?_eq, if_pos ⟨hlisted, hle⟩, ← hp, ← hq]

end Violations

theorem diagnoses_orderProblems {g : Graph} (hg : g.Consistent) (order : List String) :
    Diagnoses g order (orderProblems g order) where
  missing := List.filter_sublist
  mem_missing n := by simp [orderProblems]
  unknown := pairwise_unknown g.nodes order
  mem_unknown n := by simp [orderProblems]
  duplicates := pairwise_duplicates g.nodes order
  mem_duplicates n := by
    simp only [orderProblems, List.mem_eraseDups]
    exact mem_repeats_filter
  violations := violations_sublist g.edges
  mem_violations v := by
    rw [← Graph.mem_edges_iff hg]
    exact mem_violations

/-- How the behaviors of a graph can be ordered by hand, and that computing their order comes to the
same. -/
structure Orderable (behaviors : List Behavior) (graph : Option Graph) (g : Graph) : Prop where
  accepts : ∀ o, checkManual o behaviors graph = .ok () ↔ g.IsStartupOrder o
  diagnoses : ∀ o, ¬ g.IsStartupOrder o →
    ∃ p, checkManual o behaviors graph = .error (.misordered p) ∧ Diagnoses g o p
  ends : ∀ settings, settings.automaticOrder = true →
    (∃ o, order settings behaviors graph = .ok o) ∨
      ∃ bs, bs ≠ [] ∧ order settings behaviors graph = .error (.cyclic bs)
  manual_of_automatic : ∀ settings o, settings.automaticOrder = true →
    order settings behaviors graph = .ok o →
      order { settings with automaticOrder := false, manualOrder := o } behaviors graph = .ok o
  cyclic_iff : ∀ settings, settings.automaticOrder = true →
    ((∃ bs, order settings behaviors graph = .error (.cyclic bs)) ↔
      ∀ o, checkManual o behaviors graph ≠ .ok ())

section Automatic

variable {settings : StartupSettings} {behaviors : List Behavior} {graph : Option Graph} {g : Graph}

theorem exists_diagnosis (hg : g.Consistent) (hmatch : Graph.matching behaviors graph = .ok g)
    {o : List String} (ho : ¬ g.IsStartupOrder o) :
    ∃ p, checkManual o behaviors graph = .error (.misordered p) ∧ Diagnoses g o p := by
  have hproblems : ¬ (orderProblems g o).isEmpty = true := fun h =>
    ho ((orderProblems_isEmpty_iff hg).mp h)
  refine ⟨orderProblems g o, ?_, diagnoses_orderProblems hg o⟩
  rw [checkManual_of_matching hmatch, if_neg hproblems]

theorem automatic_cases (hg : g.Simple) (hmatch : Graph.matching behaviors graph = .ok g)
    (hauto : settings.automaticOrder = true) :
    (∃ o, order settings behaviors graph = .ok o ∧ g.IsStartupOrder o) ∨
      (∃ bs, bs ≠ [] ∧ order settings behaviors graph = .error (.cyclic bs)) ∧
        ∀ o, ¬ g.IsStartupOrder o := by
  rw [order_of_automatic hauto hmatch]
  by_cases hacyclic : g.Acyclic
  · exact Or.inl (Graph.startupOrder_of_acyclic hg.toConsistent hg.balanced hacyclic)
  · right
    have hremaining : g.settle.remaining ≠ [] := fun h =>
      hacyclic ((Graph.settle_remaining_eq_nil_iff hg.toConsistent hg.balanced).mp h)
    refine ⟨⟨g.settle.remaining, hremaining, ?_⟩, fun o ho => hacyclic ho.acyclic⟩
    rw [Graph.startupOrder_eq hg.toConsistent, if_neg hremaining]

theorem orderable_of_simple (hg : g.Simple) (hmatch : Graph.matching behaviors graph = .ok g) :
    Orderable behaviors graph g where
  accepts _ := checkManual_eq_ok_iff hg.toConsistent hmatch
  diagnoses _ ho := exists_diagnosis hg.toConsistent hmatch ho
  ends settings hauto := by
    rcases automatic_cases hg hmatch hauto with ⟨o, ho, _⟩ | ⟨hcyclic, _⟩
    · exact Or.inl ⟨o, ho⟩
    · exact Or.inr hcyclic
  manual_of_automatic settings o hauto ho := by
    rcases automatic_cases hg hmatch hauto with ⟨o', ho', hstartup⟩ | ⟨⟨bs, _, hbs⟩, _⟩
    · obtain rfl : o' = o := Except.ok.inj (ho'.symm.trans ho)
      have haccepted := (checkManual_eq_ok_iff hg.toConsistent hmatch).mpr hstartup
      simp [order, haccepted, bind, Except.bind, pure, Except.pure]
    · cases hbs.symm.trans ho
  cyclic_iff settings hauto := by
    have haccepts : ∀ o, checkManual o behaviors graph = .ok () ↔ g.IsStartupOrder o := fun o =>
      checkManual_eq_ok_iff hg.toConsistent hmatch
    rcases automatic_cases hg hmatch hauto with ⟨o, ho, hstartup⟩ | ⟨⟨bs, _, hbs⟩, hnone⟩
    · constructor
      · rintro ⟨bs, hbs⟩
        cases hbs.symm.trans ho
      · intro hrejected
        exact absurd ((haccepts o).mpr hstartup) (hrejected o)
    · constructor
      · intro _ o ho
        exact hnone o ((haccepts o).mp ho)
      · intro _
        exact ⟨bs, hbs⟩

end Automatic

/-- Behaviors of distinct names have a graph. With it, given or built, a manual order is accepted
exactly if it is a startup order and diagnosed otherwise; the computed order is one that is
accepted, and there is none exactly if no order is. -/
theorem exists_graph_orderable (behaviors : List Behavior)
    (hn : (behaviors.map (·.name)).Nodup) :
    ∃ g, Graph.ofBehaviors behaviors = .ok g ∧ g.nodes = behaviors.map (·.name) ∧
      Orderable behaviors none g ∧ Orderable behaviors (some g) g := by
  obtain ⟨g, hg, hsimple, hnodes, -, -⟩ := Graph.ofBehaviors_spec hn
  exact ⟨g, hg, hnodes, orderable_of_simple hsimple hg,
    orderable_of_simple hsimple (matching_of_nodes hnodes)⟩

def doorAfterLamp : List Behavior :=
  [{ name := "Door", calls := [{ target := "Lamp", kind := .direct }] }, { name := "Lamp" }]

theorem exists_graph_orderable_doorAfterLamp :
    (doorAfterLamp.map (·.name)).Nodup ∧
      ∃ g, Graph.ofBehaviors doorAfterLamp = .ok g ∧ g.nodes = ["Door", "Lamp"] ∧
        Orderable doorAfterLamp none g ∧ Orderable doorAfterLamp (some g) g :=
  ⟨by decide, exists_graph_orderable doorAfterLamp (by decide)⟩

end Startup

end BehaviorPlan
