import BehaviorPlan.Proofs.Partition.Owners

/-! # Calls of behaviors

Whom a behavior calls, and who calls a helper, follows from the functions that behaviors run: their
own functions and the helpers that they reach. Of all calls of one kind to one target a behavior
keeps one, and an inferred one only if none is declared. -/
namespace BehaviorPlan

variable {functions : List FunctionDecl} {behavior : String}

/-- The function is one of the behavior, or a helper that the behavior reaches. -/
def Runs (functions : List FunctionDecl) (behavior : String) (g : FunctionDecl) : Prop :=
  ∃ f ∈ functions, BelongsTo functions f behavior ∧
    Relation.ReflTransGen (CallsHelper functions) f g

/-- A function that the behavior runs calls a function of another behavior. -/
def CallsInto (functions : List FunctionDecl) (behavior other : String) : Prop :=
  other ≠ behavior ∧ ∃ g, Runs functions behavior g ∧
    ∃ f ∈ functions, BelongsTo functions f other ∧ f.name ∈ g.calls

/-- Some behavior runs a function of the name `caller` that calls the helper. -/
def CallerOf (functions : List FunctionDecl) (helper caller : String) : Prop :=
  ∃ behavior g h, Runs functions behavior g ∧ CallsHelper functions g h ∧
    g.name = caller ∧ h.name = helper

theorem Runs.mem {g : FunctionDecl} (h : Runs functions behavior g) : g ∈ functions := by
  obtain ⟨f, hf, _, hfg⟩ := h
  rcases Relation.ReflTransGen.cases_tail hfg with rfl | ⟨_, _, hmem, _⟩
  · exact hf
  · exact hmem

theorem Runs.mem_homes {g : FunctionDecl} (h : Runs functions behavior g) :
    behavior ∈ homes functions := by
  obtain ⟨f, hf, hbelongs, _⟩ := h
  exact BehaviorPlan.mem_homes.mpr ⟨f, hf, belongsTo_iff.mp hbelongs⟩

section Walks

variable (hn : (functions.map (·.name)).Nodup)

include hn

/-- The walk of a behavior follows the calls of the functions that the behavior runs. -/
theorem followed_iff_runs {call : String × String} :
    Followed functions (rootsOf functions (ownersOf functions) behavior) call ↔
      ∃ g, Runs functions behavior g ∧ call ∈ Trace.callsOf g := by
  rw [followed_rootsOf_iff hn]
  constructor
  · rintro ⟨f, hf, howner, g, hfg, hcall⟩
    have hbelongs := belongsTo_iff.mpr ((mem_ownersOf hn hf).mp howner)
    exact ⟨g, ⟨f, hf, hbelongs, hfg⟩, hcall⟩
  · rintro ⟨g, ⟨f, hf, hbelongs, hfg⟩, hcall⟩
    have howner := (mem_ownersOf hn hf).mpr (belongsTo_iff.mp hbelongs)
    exact ⟨f, hf, howner, g, hfg, hcall⟩

theorem exists_runs_of_followed {caller callee owner : String} {f : FunctionDecl}
    (hdecl : declaration? functions callee = some f)
    (howner : (ownersOf functions).get? callee = some owner)
    (hfollowed : Followed functions (rootsOf functions (ownersOf functions) behavior)
      (caller, callee)) :
    ∃ g, Runs functions behavior g ∧ g.name = caller ∧
      ∃ f ∈ functions, BelongsTo functions f owner ∧ f.name ∈ g.calls := by
  obtain ⟨hf, rfl⟩ := (declaration?_eq_some_iff hn).mp hdecl
  rw [get?_ownersOf hn hf] at howner
  obtain ⟨g, hruns, hcall⟩ := (followed_iff_runs hn).mp hfollowed
  obtain ⟨hname, hcalls⟩ := mem_callsOf.mp hcall
  exact ⟨g, hruns, hname.symm, f, hf, belongsTo_iff.mpr howner, hcalls⟩

theorem mem_entries_traceFor_iff {owner : String} :
    owner ∈ (traceFor functions (ownersOf functions) behavior).entries.map (·.1) ↔
      CallsInto functions behavior owner := by
  rw [mem_entries_traceFor, CallsInto]
  refine and_congr_right fun _ => ?_
  constructor
  · rintro ⟨caller, callee, f, hdecl, _, howner, hfollowed⟩
    obtain ⟨g, hruns, -, hcalls⟩ := exists_runs_of_followed hn hdecl howner hfollowed
    exact ⟨g, hruns, hcalls⟩
  · rintro ⟨g, hruns, f, hf, hbelongs, hcalls⟩
    have hhome := belongsTo_iff.mp hbelongs
    have hcall : (g.name, f.name) ∈ Trace.callsOf g := mem_callsOf.mpr ⟨rfl, hcalls⟩
    have hfollowed := (followed_iff_runs hn).mpr ⟨g, hruns, hcall⟩
    refine ⟨g.name, f.name, f, (declaration?_eq_some_iff hn).mpr ⟨hf, rfl⟩,
      isTagged_of_homeOf hhome, ?_, hfollowed⟩
    rw [get?_ownersOf hn hf, hhome]

theorem mem_sites_traceFor_iff {caller helper : String} :
    (caller, helper) ∈ (traceFor functions (ownersOf functions) behavior).sites ↔
      ∃ g h, Runs functions behavior g ∧ CallsHelper functions g h ∧
        g.name = caller ∧ h.name = helper := by
  rw [mem_sites_traceFor, followed_iff_runs hn]
  constructor
  · rintro ⟨⟨h, hdecl, htag⟩, g, hruns, hcall⟩
    obtain ⟨hh, hname⟩ := (declaration?_eq_some_iff hn).mp hdecl
    obtain ⟨hcaller, hcallee⟩ := mem_callsOf.mp hcall
    exact ⟨g, h, hruns, ⟨hh, htag, hname ▸ hcallee⟩, hcaller.symm, hname⟩
  · rintro ⟨g, h, hruns, ⟨hh, htag, hcalls⟩, rfl, rfl⟩
    exact ⟨⟨h, (declaration?_eq_some_iff hn).mpr ⟨hh, rfl⟩, htag⟩, g, hruns,
      mem_callsOf.mpr ⟨rfl, hcalls⟩⟩

theorem exists_callers (helper : String) : ∃ callers : List String, callers.Nodup ∧
    (∀ caller, caller ∈ callers ↔ CallerOf functions helper caller) ∧
      (reachOf functions).callCount helper = callers.length := by
  refine ⟨_, nodup_eraseDups _, fun caller => ?_, rfl⟩
  simp only [List.mem_eraseDups, List.mem_map, List.mem_filter, List.mem_flatMap, reachOf,
    Table.values, Table.ofKeys, decide_eq_true_eq]
  constructor
  · rintro ⟨⟨_, _⟩, ⟨⟨_, ⟨_, ⟨b, _, rfl⟩, rfl⟩, hsite⟩, rfl⟩, rfl⟩
    exact ⟨b, (mem_sites_traceFor_iff hn).mp hsite⟩
  · rintro ⟨b, g, h, hruns, hcalls⟩
    have hsite := (mem_sites_traceFor_iff hn).mpr ⟨g, h, hruns, hcalls⟩
    exact ⟨(caller, helper), ⟨⟨_, ⟨_, ⟨b, hruns.mem_homes, rfl⟩, rfl⟩, hsite⟩, rfl⟩, rfl⟩

end Walks

/-- What a call is for: a behavior has no two calls of one kind to one target. -/
def Call.use (c : Call) : String × CallKind :=
  (c.target, c.kind)

/-- All of a call but the function that makes it. -/
def Call.shape (c : Call) : String × CallKind × CallOrigin :=
  (c.target, c.kind, c.origin)

namespace Partition

theorem mem_inferredCalls_reachOf {c : Call} :
    c ∈ (reachOf functions).inferredCalls behavior ↔ behavior ∈ homes functions ∧
      ∃ e ∈ (traceFor functions (ownersOf functions) behavior).entries,
        c = { target := e.1, kind := .direct, origin := .inferred, via := some e.2 } := by
  by_cases hhome : behavior ∈ homes functions
  · simp [Reach.inferredCalls, reachOf, Table.get?_ofKeys, hhome, eq_comm]
  · simp [Reach.inferredCalls, reachOf, Table.get?_ofKeys, hhome]

theorem mem_use_inferredCalls (hn : (functions.map (·.name)).Nodup) {target : String}
    {kind : CallKind} :
    (target, kind) ∈ ((reachOf functions).inferredCalls behavior).map Call.use ↔
      kind = .direct ∧ CallsInto functions behavior target := by
  simp only [List.mem_map, mem_inferredCalls_reachOf]
  rw [← mem_entries_traceFor_iff hn, List.mem_map]
  constructor
  · rintro ⟨_, ⟨_, e, he, rfl⟩, huse⟩
    obtain ⟨rfl, rfl⟩ := Prod.mk.inj huse
    exact ⟨rfl, e, he, rfl⟩
  · rintro ⟨rfl, e, he, rfl⟩
    obtain ⟨-, g, hruns, -⟩ := (mem_entries_traceFor_iff hn).mp (List.mem_map_of_mem he)
    exact ⟨_, ⟨hruns.mem_homes, e, he, rfl⟩, rfl⟩

section Merge

theorem mergeCalls_concat (calls : List Call) (c : Call) :
    mergeCalls (calls ++ [c]) = if c.use ∈ (mergeCalls calls).map Call.use then mergeCalls calls
      else mergeCalls calls ++ [c] := by
  have hany : ((mergeCalls calls).any fun k => decide (k.target = c.target ∧ k.kind = c.kind)) =
      decide (c.use ∈ (mergeCalls calls).map Call.use) := by
    rw [Bool.eq_iff_iff]
    simp [Call.use]
  rw [mergeCalls, List.foldl_append, List.foldl_cons, List.foldl_nil, ← mergeCalls, hany]
  simp

theorem mem_use_mergeCalls {calls : List Call} {use : String × CallKind} :
    use ∈ (mergeCalls calls).map Call.use ↔ use ∈ calls.map Call.use := by
  induction calls using List.reverseRecOn with
  | nil => rfl
  | append_singleton calls c ih =>
    rw [mergeCalls_concat, List.map_append, List.map_singleton, List.mem_append,
      List.mem_singleton, ← ih]
    split
    · rename_i hc
      constructor
      · intro h
        exact Or.inl h
      · rintro (h | rfl)
        · exact h
        · exact hc
    · rw [List.map_append, List.map_singleton, List.mem_append, List.mem_singleton]

theorem nodup_use_mergeCalls (calls : List Call) : ((mergeCalls calls).map Call.use).Nodup := by
  induction calls using List.reverseRecOn with
  | nil => exact List.nodup_nil
  | append_singleton calls c ih =>
    rw [mergeCalls_concat]
    split
    · exact ih
    · rename_i hc
      rw [List.map_append, List.map_singleton, ← List.concat_eq_append]
      exact List.Nodup.concat hc ih

theorem mergeCalls_subset {calls : List Call} {c : Call} (h : c ∈ mergeCalls calls) :
    c ∈ calls := by
  induction calls using List.reverseRecOn with
  | nil => exact h
  | append_singleton calls d ih =>
    rw [mergeCalls_concat] at h
    split at h
    · exact List.mem_append_left _ (ih h)
    · rcases List.mem_append.mp h with h | h
      · exact List.mem_append_left _ (ih h)
      · exact List.mem_append_right _ h

theorem mergeCalls_append (first rest : List Call) : mergeCalls (first ++ rest) =
    mergeCalls first ++ (mergeCalls rest).filter fun c => c.use ∉ first.map Call.use := by
  induction rest using List.reverseRecOn with
  | nil => simp [mergeCalls]
  | append_singleton rest c ih =>
    have hmem : c.use ∈ (mergeCalls (first ++ rest)).map Call.use ↔
        c.use ∈ first.map Call.use ∨ c.use ∈ rest.map Call.use := by
      rw [mem_use_mergeCalls, List.map_append, List.mem_append]
    rw [← List.append_assoc, mergeCalls_concat, mergeCalls_concat, ih]
    rw [ih] at hmem
    by_cases hrest : c.use ∈ rest.map Call.use
    · rw [if_pos (hmem.mpr (Or.inr hrest)), if_pos (mem_use_mergeCalls.mpr hrest)]
    · rw [if_neg (mt mem_use_mergeCalls.mp hrest)]
      by_cases hfirst : c.use ∈ first.map Call.use
      · rw [if_pos (hmem.mpr (Or.inl hfirst)), List.filter_append,
          List.filter_cons_of_neg (by simpa only [decide_eq_true_eq, not_not] using hfirst),
          List.filter_nil, List.append_nil]
      · have hnew : ¬ (c.use ∈ first.map Call.use ∨ c.use ∈ rest.map Call.use) :=
          fun h => h.elim hfirst hrest
        rw [if_neg (mt hmem.mp hnew), List.filter_append,
          List.filter_cons_of_pos (by simpa only [decide_eq_true_eq] using hfirst),
          List.filter_nil, List.append_assoc]

theorem mem_shape_mergeCalls {calls : List Call} {origin : CallOrigin}
    (h : ∀ c ∈ calls, c.origin = origin) {target : String} {kind : CallKind} {o : CallOrigin} :
    (target, kind, o) ∈ (mergeCalls calls).map Call.shape ↔
      o = origin ∧ (target, kind) ∈ calls.map Call.use := by
  rw [← mem_use_mergeCalls, List.mem_map, List.mem_map]
  constructor
  · rintro ⟨c, hc, he⟩
    have horigin := h c (mergeCalls_subset hc)
    simp only [Call.shape, Prod.mk.injEq] at he
    obtain ⟨rfl, rfl, rfl⟩ := he
    exact ⟨horigin, c, hc, rfl⟩
  · rintro ⟨rfl, c, hc, he⟩
    have horigin := h c (mergeCalls_subset hc)
    refine ⟨c, hc, ?_⟩
    simp only [Call.use, Prod.mk.injEq] at he
    obtain ⟨rfl, rfl⟩ := he
    rw [Call.shape, horigin]

theorem mem_shape_mergeCalls_append {declared inferred : List Call}
    (hdeclared : ∀ c ∈ declared, c.origin = .declared)
    (hinferred : ∀ c ∈ inferred, c.origin = .inferred) {target : String} {kind : CallKind}
    {origin : CallOrigin} :
    (target, kind, origin) ∈ (mergeCalls (declared ++ inferred)).map Call.shape ↔
      origin = .declared ∧ (target, kind) ∈ declared.map Call.use ∨
        (origin = .inferred ∧ (target, kind) ∈ inferred.map Call.use) ∧
          (target, kind) ∉ declared.map Call.use := by
  rw [mergeCalls_append, List.map_append, List.mem_append, mem_shape_mergeCalls hdeclared,
    ← mem_shape_mergeCalls hinferred]
  refine or_congr_right ?_
  simp only [List.mem_map (f := Call.shape), List.mem_filter, decide_eq_true_eq]
  constructor
  · rintro ⟨c, ⟨hc, hnot⟩, he⟩
    simp only [Call.shape, Prod.mk.injEq] at he
    obtain ⟨rfl, rfl, rfl⟩ := he
    exact ⟨⟨c, hc, rfl⟩, hnot⟩
  · rintro ⟨⟨c, hc, he⟩, hnot⟩
    simp only [Call.shape, Prod.mk.injEq] at he
    obtain ⟨rfl, rfl, rfl⟩ := he
    exact ⟨c, ⟨hc, hnot⟩, rfl⟩

theorem nodup_shape_mergeCalls (calls : List Call) :
    ((mergeCalls calls).map Call.shape).Nodup := by
  have huse : ((mergeCalls calls).map Call.shape).map (fun s => (s.1, s.2.1)) =
      (mergeCalls calls).map Call.use := by
    rw [List.map_map]
    rfl
  exact List.Nodup.of_map _ (huse ▸ nodup_use_mergeCalls calls)

end Merge

end Partition

end BehaviorPlan
