import Mathlib.Logic.Relation
import BehaviorPlan.Partition.Reach
import BehaviorPlan.Proofs.Outcome
import BehaviorPlan.Proofs.Table

/-! # The walk through calls

A call is followed if it starts the walk or is made by a helper that a followed call refers to.
The walk records every call that is followed, and nothing else. -/
namespace BehaviorPlan

variable {functions : List FunctionDecl} {owners : Table String} {behavior : String}

def IsHelper (functions : List FunctionDecl) (name : String) : Prop :=
  ∃ f, declaration? functions name = some f ∧ f.isTagged = false

theorem not_isHelper {name : String} {f : FunctionDecl} (hf : declaration? functions name = some f)
    (htag : f.isTagged = true) : ¬ IsHelper functions name := by
  rintro ⟨g, hg, hplain⟩
  obtain rfl := Option.some.inj (hf.symm.trans hg)
  exact absurd (htag.symm.trans hplain) nofun

/-- The calls that are reached from given ones through helpers. -/
inductive Followed (functions : List FunctionDecl) (start : List (String × String)) :
    String × String → Prop where
  | start {call : String × String} : call ∈ start → Followed functions start call
  | next {call site : String × String} {f : FunctionDecl} : Followed functions start call →
      declaration? functions call.2 = some f → f.isTagged = false → site ∈ Trace.callsOf f →
      Followed functions start site

namespace Trace

/-- The trace holds everything that a call asks for. -/
structure Records (functions : List FunctionDecl) (owners : Table String) (behavior : String)
    (t : Trace) (call : String × String) : Prop where
  helper : IsHelper functions call.2 → call ∈ t.sites ∧ call.2 ∈ t.helpers
  entry : ∀ {f owner}, declaration? functions call.2 = some f → f.isTagged = true →
    owners.get? call.2 = some owner → owner ≠ behavior → owner ∈ t.entries.map (·.1)

/-- Everything in the trace comes from a call with the property. -/
structure Justified (functions : List FunctionDecl) (owners : Table String) (behavior : String)
    (Made : String × String → Prop) (t : Trace) : Prop where
  helpers : ∀ h ∈ t.helpers, IsHelper functions h ∧ ∃ caller, Made (caller, h)
  sites : ∀ site ∈ t.sites, IsHelper functions site.2 ∧ Made site
  entries : ∀ e ∈ t.entries, e.1 ≠ behavior ∧ ∃ callee f, declaration? functions callee = some f ∧
    f.isTagged = true ∧ owners.get? callee = some e.1 ∧ Made (e.2, callee)
  entries_nodup : (t.entries.map (·.1)).Nodup

theorem mem_entries_enter {t : Trace} {caller owner name : String} :
    name ∈ (t.enter behavior caller owner).entries.map (·.1) ↔
      name ∈ t.entries.map (·.1) ∨ name = owner ∧ owner ≠ behavior := by
  unfold enter
  split
  · rename_i h
    simp only [List.map_append, List.mem_append, List.map_cons, List.map_nil, List.mem_singleton]
    exact or_congr_right ⟨fun he => ⟨he, h.1⟩, And.left⟩
  · rename_i h
    refine ⟨Or.inl, fun hm => hm.elim id ?_⟩
    rintro ⟨rfl, hne⟩
    exact Decidable.not_not.mp fun hnot => h ⟨hne, hnot⟩

@[simp] theorem helpers_enter {t : Trace} {caller owner : String} :
    (t.enter behavior caller owner).helpers = t.helpers := by
  unfold enter
  split <;> rfl

@[simp] theorem sites_enter {t : Trace} {caller owner : String} :
    (t.enter behavior caller owner).sites = t.sites := by
  unfold enter
  split <;> rfl

section Sound

variable {Made : String × String → Prop} {t : Trace}

theorem Justified.enter (h : Justified functions owners behavior Made t)
    {caller callee owner : String} {f : FunctionDecl} (hcall : Made (caller, callee))
    (hf : declaration? functions callee = some f) (htag : f.isTagged = true)
    (howner : owners.get? callee = some owner) :
    Justified functions owners behavior Made (t.enter behavior caller owner) := by
  unfold Trace.enter
  split
  · rename_i hnew
    refine ⟨h.helpers, h.sites, fun e he => ?_, ?_⟩
    · rcases List.mem_append.mp he with he | he
      · exact h.entries e he
      · rw [List.mem_singleton.mp he]
        exact ⟨hnew.1, callee, f, hf, htag, howner, hcall⟩
    · rw [List.map_append]
      exact h.entries_nodup.append (List.nodup_singleton _) (by simpa using hnew.2)
  · exact h

theorem Justified.site (h : Justified functions owners behavior Made t) {call : String × String}
    (hcall : Made call) (hhelper : IsHelper functions call.2) :
    Justified functions owners behavior Made { t with sites := t.sites ++ [call] } := by
  refine ⟨h.helpers, fun site hs => ?_, h.entries, h.entries_nodup⟩
  rcases List.mem_append.mp hs with hs | hs
  · exact h.sites site hs
  · rw [List.mem_singleton.mp hs]
    exact ⟨hhelper, hcall⟩

theorem Justified.helper (h : Justified functions owners behavior Made t) {caller callee : String}
    (hcall : Made (caller, callee)) (hhelper : IsHelper functions callee) :
    Justified functions owners behavior Made { t with helpers := t.helpers ++ [callee] } := by
  refine ⟨fun name hn => ?_, h.sites, h.entries, h.entries_nodup⟩
  rcases List.mem_append.mp hn with hn | hn
  · exact h.helpers name hn
  · rw [List.mem_singleton.mp hn]
    exact ⟨hhelper, caller, hcall⟩

theorem justified_follow
    (hstep : ∀ {call f site}, Made call → declaration? functions call.2 = some f →
      f.isTagged = false → site ∈ callsOf f → Made site)
    (unseen : List String) (pending : List (String × String)) (t : Trace)
    (hpending : ∀ call ∈ pending, Made call) (ht : Justified functions owners behavior Made t) :
    Justified functions owners behavior Made
      (follow functions owners behavior unseen pending t) := by
  fun_induction follow functions owners behavior unseen pending t with
  | case1 => exact ht
  | case2 unseen t caller callee pending hnone ih =>
    exact ih (List.forall_mem_cons.mp hpending).2 ht
  | case3 unseen t caller callee pending f hf htag hnone ih =>
    exact ih (List.forall_mem_cons.mp hpending).2 ht
  | case4 unseen t caller callee pending f hf htag owner howner ih =>
    obtain ⟨hcall, hpending⟩ := List.forall_mem_cons.mp hpending
    exact ih hpending (ht.enter hcall hf htag howner)
  | case5 unseen t caller callee pending f hf htag site hnew ih =>
    obtain ⟨hcall, hpending⟩ := List.forall_mem_cons.mp hpending
    have htag : f.isTagged = false := by simpa using htag
    have hhelper : IsHelper functions callee := ⟨f, hf, htag⟩
    refine ih (fun call hm => ?_) ((ht.site hcall hhelper).helper hcall hhelper)
    rcases List.mem_append.mp hm with hm | hm
    · exact hstep hcall hf htag hm
    · exact hpending call hm
  | case6 unseen t caller callee pending f hf htag site hold ih =>
    obtain ⟨hcall, hpending⟩ := List.forall_mem_cons.mp hpending
    exact ih hpending (ht.site hcall ⟨f, hf, by simpa using htag⟩)

end Sound

section Complete

variable {t t' : Trace} {call site : String × String} {pending pending' : List (String × String)}

/-- The second trace holds all that the first one holds. -/
structure Within (t t' : Trace) : Prop where
  helpers : ∀ h ∈ t.helpers, h ∈ t'.helpers
  sites : ∀ site ∈ t.sites, site ∈ t'.sites
  entries : ∀ owner ∈ t.entries.map (·.1), owner ∈ t'.entries.map (·.1)

theorem Within.refl (t : Trace) : Within t t :=
  ⟨fun _ => id, fun _ => id, fun _ => id⟩

theorem Within.enter (t : Trace) (caller owner : String) :
    Within t (t.enter behavior caller owner) where
  helpers := by simp
  sites := by simp
  entries _ hm := mem_entries_enter.mpr (Or.inl hm)

theorem Records.mono (h : Records functions owners behavior t call) (hw : Within t t') :
    Records functions owners behavior t' call :=
  ⟨fun hh => (h.helper hh).imp (hw.sites _) (hw.helpers _),
    fun hf htag howner hne => hw.entries _ (h.entry hf htag howner hne)⟩

section Recorded

variable {f : FunctionDecl}

theorem Records.of_undeclared (h : declaration? functions call.2 = none) :
    Records functions owners behavior t call where
  helper := fun ⟨_, hf, _⟩ => absurd (h.symm.trans hf) nofun
  entry hf := absurd (h.symm.trans hf) nofun

theorem Records.of_unowned (hf : declaration? functions call.2 = some f) (htag : f.isTagged = true)
    (h : owners.get? call.2 = none) : Records functions owners behavior t call where
  helper hh := absurd hh (not_isHelper hf htag)
  entry _ _ howner := absurd (h.symm.trans howner) nofun

theorem Records.of_entered {owner : String} (hf : declaration? functions call.2 = some f)
    (htag : f.isTagged = true) (howner : owners.get? call.2 = some owner)
    (h : owner ≠ behavior → owner ∈ t.entries.map (·.1)) :
    Records functions owners behavior t call where
  helper hh := absurd hh (not_isHelper hf htag)
  entry _ _ howner' hne := by
    obtain rfl := Option.some.inj (howner.symm.trans howner')
    exact h hne

theorem Records.of_helper (hf : declaration? functions call.2 = some f)
    (htag : f.isTagged = false) (hsite : call ∈ t.sites) (hhelper : call.2 ∈ t.helpers) :
    Records functions owners behavior t call where
  helper _ := ⟨hsite, hhelper⟩
  entry hf' htag' := absurd ⟨f, hf, htag⟩ (not_isHelper hf' htag')

end Recorded

def Settled (functions : List FunctionDecl) (owners : Table String) (behavior : String) (t : Trace)
    (pending : List (String × String)) (call : String × String) : Prop :=
  Records functions owners behavior t call ∨ call ∈ pending

/-- Following a call settles all that was settled, once the call itself is recorded. -/
theorem Settled.step (h : Settled functions owners behavior t (call :: pending) site)
    (hw : Within t t') (hcall : Records functions owners behavior t' call)
    (hsub : ∀ c ∈ pending, c ∈ pending') : Settled functions owners behavior t' pending' site := by
  rcases h with h | h
  · exact Or.inl (h.mono hw)
  · rcases List.mem_cons.mp h with rfl | h
    · exact Or.inl hcall
    · exact Or.inr (hsub site h)

/-- What holds between the steps of a walk: every helper is new or recorded, and the calls of the
recorded ones are settled. -/
structure Walking (functions : List FunctionDecl) (owners : Table String) (behavior : String)
    (unseen : List String) (pending : List (String × String)) (t : Trace) : Prop where
  covered : ∀ {name}, IsHelper functions name → name ∈ unseen ∨ name ∈ t.helpers
  calls : ∀ {h f site}, h ∈ t.helpers → declaration? functions h = some f → site ∈ callsOf f →
    Settled functions owners behavior t pending site

theorem Walking.step {unseen : List String}
    (h : Walking functions owners behavior unseen (call :: pending) t) (hw : Within t t')
    (hsame : t'.helpers = t.helpers) (hcall : Records functions owners behavior t' call) :
    Walking functions owners behavior unseen pending t' :=
  ⟨fun hh => hsame ▸ h.covered hh,
    fun hm hf hs => (h.calls (hsame ▸ hm) hf hs).step hw hcall fun _ => id⟩

theorem Walking.visit {unseen : List String} {f : FunctionDecl}
    (h : Walking functions owners behavior unseen (call :: pending) t) (hw : Within t t')
    (hhelpers : t'.helpers = t.helpers ++ [call.2]) (hf : declaration? functions call.2 = some f)
    (hcall : Records functions owners behavior t' call) :
    Walking functions owners behavior (unseen.erase call.2) (callsOf f ++ pending) t' := by
  refine ⟨fun {name} hh => ?_, fun {n g site} hm hg hs => ?_⟩
  · rw [hhelpers, List.mem_append, List.mem_singleton]
    rcases h.covered hh with hu | ht
    · by_cases he : name = call.2
      · exact Or.inr (Or.inr he)
      · exact Or.inl ((List.mem_erase_of_ne he).mpr hu)
    · exact Or.inr (Or.inl ht)
  · rw [hhelpers, List.mem_append, List.mem_singleton] at hm
    rcases hm with hm | rfl
    · exact (h.calls hm hg hs).step hw hcall fun c => List.mem_append_right _
    · obtain rfl := Option.some.inj (hf.symm.trans hg)
      exact Or.inr (List.mem_append_left _ hs)

/-- All that is settled before the walk is recorded at its end, and so are the calls of the helpers
that it found. -/
structure Completes (functions : List FunctionDecl) (owners : Table String) (behavior : String)
    (pending : List (String × String)) (t final : Trace) : Prop where
  settled : ∀ {call}, Settled functions owners behavior t pending call →
    Records functions owners behavior final call
  calls : ∀ {h f call}, h ∈ final.helpers → declaration? functions h = some f →
    call ∈ callsOf f → Records functions owners behavior final call

theorem Completes.step {final : Trace}
    (h : Completes functions owners behavior pending' t' final) (hw : Within t t')
    (hcall : Records functions owners behavior t' call) (hsub : ∀ c ∈ pending, c ∈ pending') :
    Completes functions owners behavior (call :: pending) t final :=
  ⟨fun hc => h.settled (hc.step hw hcall hsub), h.calls⟩

theorem completes_follow (unseen : List String) (pending : List (String × String)) (t : Trace)
    (h : Walking functions owners behavior unseen pending t) :
    Completes functions owners behavior pending t
      (follow functions owners behavior unseen pending t) := by
  -- Each case records the first pending call; only a new helper adds calls to follow.
  fun_induction follow functions owners behavior unseen pending t with
  | case1 unseen t =>
    exact ⟨fun hc => hc.resolve_right (by simp),
      fun hn hf hc => (h.calls hn hf hc).resolve_right (by simp)⟩
  | case2 unseen t caller callee pending hnone ih =>
    have hcall : Records functions owners behavior t (caller, callee) := .of_undeclared hnone
    have hw := Within.refl t
    exact (ih (h.step hw rfl hcall)).step hw hcall fun _ => id
  | case3 unseen t caller callee pending f hf htag hnone ih =>
    have hcall : Records functions owners behavior t (caller, callee) := .of_unowned hf htag hnone
    have hw := Within.refl t
    exact (ih (h.step hw rfl hcall)).step hw hcall fun _ => id
  | case4 unseen t caller callee pending f hf htag owner howner ih =>
    have hcall :
        Records functions owners behavior (t.enter behavior caller owner) (caller, callee) :=
      .of_entered hf htag howner fun hne => mem_entries_enter.mpr (Or.inr ⟨rfl, hne⟩)
    have hw : Within t (t.enter behavior caller owner) := .enter t caller owner
    exact (ih (h.step hw helpers_enter hcall)).step hw hcall fun _ => id
  | case5 unseen t caller callee pending f hf htag site hnew ih =>
    have hcall : Records functions owners behavior
        { t with sites := t.sites ++ [(caller, callee)], helpers := t.helpers ++ [callee] }
        (caller, callee) :=
      .of_helper hf (by simpa using htag) (by simp) (by simp)
    have hw : Within t
        { t with sites := t.sites ++ [(caller, callee)], helpers := t.helpers ++ [callee] } :=
      ⟨fun _ => List.mem_append_left _, fun _ => List.mem_append_left _, fun _ => id⟩
    exact (ih (h.visit hw rfl hf hcall)).step hw hcall fun _ => List.mem_append_right _
  | case6 unseen t caller callee pending f hf htag site hold ih =>
    have htag : f.isTagged = false := by simpa using htag
    have hhelper : callee ∈ t.helpers := (h.covered ⟨f, hf, htag⟩).resolve_left hold
    have hcall : Records functions owners behavior
        { t with sites := t.sites ++ [(caller, callee)] } (caller, callee) :=
      .of_helper hf htag (by simp) hhelper
    have hw : Within t { t with sites := t.sites ++ [(caller, callee)] } :=
      ⟨fun _ => id, fun _ => List.mem_append_left _, fun _ => id⟩
    exact (ih (h.step hw rfl hcall)).step hw hcall fun _ => id

end Complete

end Trace

def rootsOf (functions : List FunctionDecl) (owners : Table String) (behavior : String) :
    List (String × String) :=
  (owners.entries.filter (·.2 = behavior)).flatMap fun e =>
    ((declaration? functions e.1).map Trace.callsOf).getD []

def traceFor (functions : List FunctionDecl) (owners : Table String) (behavior : String) : Trace :=
  Trace.follow functions owners behavior (functions.map (·.name)).eraseDups
    (rootsOf functions owners behavior) {}

section TraceFor

theorem mem_names_of_declaration? {name : String} {f : FunctionDecl}
    (h : declaration? functions name = some f) : name ∈ functions.map (·.name) := by
  have hname : f.name = name := by simpa using List.find?_some h
  exact hname ▸ List.mem_map_of_mem (List.mem_of_find?_eq_some h)

theorem justified_traceFor : Trace.Justified functions owners behavior
    (Followed functions (rootsOf functions owners behavior))
    (traceFor functions owners behavior) :=
  Trace.justified_follow Followed.next _ _ _ (fun _ => Followed.start)
    ⟨by simp, by simp, by simp, List.nodup_nil⟩

theorem records_traceFor {call : String × String}
    (h : Followed functions (rootsOf functions owners behavior) call) :
    Trace.Records functions owners behavior (traceFor functions owners behavior) call := by
  have hwalking : Trace.Walking functions owners behavior (functions.map (·.name)).eraseDups
      (rootsOf functions owners behavior) {} := by
    refine ⟨fun ⟨f, hf, _⟩ => Or.inl ?_, fun hm => by simp at hm⟩
    exact List.mem_eraseDups.mpr (mem_names_of_declaration? hf)
  have hcompletes := Trace.completes_follow _ _ _ hwalking
  induction h with
  | start hc => exact hcompletes.settled (Or.inr hc)
  | next _ hf htag hs ih => exact hcompletes.calls (ih.helper ⟨_, hf, htag⟩).2 hf hs

theorem mem_helpers_traceFor {name : String} : name ∈ (traceFor functions owners behavior).helpers ↔
    IsHelper functions name ∧
      ∃ caller, Followed functions (rootsOf functions owners behavior) (caller, name) :=
  ⟨fun h => justified_traceFor.helpers name h,
    fun ⟨hh, _, hc⟩ => ((records_traceFor hc).helper hh).2⟩

theorem mem_sites_traceFor {site : String × String} :
    site ∈ (traceFor functions owners behavior).sites ↔
      IsHelper functions site.2 ∧ Followed functions (rootsOf functions owners behavior) site :=
  ⟨fun h => justified_traceFor.sites site h, fun ⟨hh, hc⟩ => ((records_traceFor hc).helper hh).1⟩

theorem mem_entries_traceFor {owner : String} :
    owner ∈ (traceFor functions owners behavior).entries.map (·.1) ↔ owner ≠ behavior ∧
      ∃ caller callee f, declaration? functions callee = some f ∧ f.isTagged = true ∧
        owners.get? callee = some owner ∧
          Followed functions (rootsOf functions owners behavior) (caller, callee) := by
  constructor
  · intro h
    obtain ⟨e, he, rfl⟩ := List.mem_map.mp h
    obtain ⟨hne, callee, f, hf, htag, howner, hc⟩ := justified_traceFor.entries e he
    exact ⟨hne, e.2, callee, f, hf, htag, howner, hc⟩
  · rintro ⟨hne, caller, callee, f, hf, htag, howner, hc⟩
    exact (records_traceFor hc).entry hf htag howner hne

end TraceFor

theorem Reach.traceOf_eq_ok (h : ∀ e ∈ owners.entries, ∃ f, declaration? functions e.1 = some f)
    (behavior : String) : Reach.traceOf functions owners behavior
      ((owners.entries.filter (·.2 = behavior)).map (·.1)) =
        .ok (traceFor functions owners behavior) := by
  have hroots : ((owners.entries.filter (·.2 = behavior)).map (·.1)).mapM
      (Reach.rootCalls functions) = .ok (((owners.entries.filter (·.2 = behavior)).map (·.1)).map
        fun n => ((declaration? functions n).map Trace.callsOf).getD []) := by
    refine Outcome.mapM_eq_ok_map fun n hn => ?_
    obtain ⟨e, he, rfl⟩ := List.mem_map.mp hn
    obtain ⟨f, hf⟩ := h e (List.mem_filter.mp he).1
    simp [Reach.rootCalls, hf]
  rw [Reach.traceOf, hroots]
  simp [bind, Except.bind, pure, Except.pure, traceFor, rootsOf, List.flatMap,
    Function.comp_def]

theorem Reach.ofOwners_eq_ok (h : ∀ e ∈ owners.entries, ∃ f, declaration? functions e.1 = some f) :
    Reach.ofOwners owners functions =
      .ok ⟨.ofKeys owners.values.eraseDups (traceFor functions owners)⟩ := by
  have htraces : (groupPairs (owners.entries.map fun e => (e.2, e.1))).entries.mapM
      (fun (e : String × List String) => do
        return (e.1, ← Reach.traceOf functions owners e.1 e.2) : _ → Outcome (String × Trace)) =
        .ok ((groupPairs (owners.entries.map fun e => (e.2, e.1))).entries.map
          fun e => (e.1, traceFor functions owners e.1)) := by
    refine Outcome.mapM_eq_ok_map fun e he => ?_
    obtain ⟨k, _, rfl⟩ := List.mem_map.mp he
    have hgroup : ((owners.entries.map fun e => (e.2, e.1)).filter (·.1 = k)).map (·.2) =
        (owners.entries.filter (·.2 = k)).map (·.1) := by
      simp [List.filter_map, Function.comp_def]
    dsimp only
    rw [hgroup, Reach.traceOf_eq_ok h]
    rfl
  rw [Reach.ofOwners, htraces]
  simp [bind, Except.bind, pure, Except.pure, groupPairs, Table.ofKeys, Table.values,
    Function.comp_def]

/-- A function calls a helper. -/
def CallsHelper (functions : List FunctionDecl) (f g : FunctionDecl) : Prop :=
  g ∈ functions ∧ g.isTagged = false ∧ g.name ∈ f.calls

section Chains

variable {f g : FunctionDecl}

theorem declaration?_eq_some_iff (hn : (functions.map (·.name)).Nodup) {name : String} :
    declaration? functions name = some f ↔ f ∈ functions ∧ f.name = name := by
  constructor
  · intro h
    exact ⟨List.mem_of_find?_eq_some h, by simpa using List.find?_some h⟩
  · rintro ⟨hf, rfl⟩
    obtain ⟨g, hg⟩ := Option.isSome_iff_exists.mp
      (List.find?_isSome.mpr ⟨f, hf, decide_eq_true rfl⟩ :
        (functions.find? (·.name = f.name)).isSome)
    have hname : g.name = f.name := by simpa using List.find?_some hg
    rw [declaration?, hg, List.inj_on_of_nodup_map hn (List.mem_of_find?_eq_some hg) hf hname]

theorem mem_callsOf {f : FunctionDecl} {call : String × String} :
    call ∈ Trace.callsOf f ↔ call.1 = f.name ∧ call.2 ∈ f.calls := by
  obtain ⟨caller, callee⟩ := call
  simp [Trace.callsOf, eq_comm, and_comm]

theorem mem_rootsOf_iff {call : String × String} : call ∈ rootsOf functions owners behavior ↔
    ∃ root, (root, behavior) ∈ owners.entries ∧
      ∃ f, declaration? functions root = some f ∧ call ∈ Trace.callsOf f := by
  simp only [rootsOf, List.mem_flatMap, List.mem_filter, decide_eq_true_eq]
  constructor
  · rintro ⟨⟨root, _⟩, ⟨he, rfl⟩, hc⟩
    cases hf : declaration? functions root with
    | none => simp [hf] at hc
    | some f => exact ⟨root, he, f, hf, by simpa [hf] using hc⟩
  · rintro ⟨root, he, f, hf, hc⟩
    exact ⟨(root, behavior), ⟨he, rfl⟩, by simpa [hf] using hc⟩

theorem mem_rootsOf (hn : (functions.map (·.name)).Nodup) {call : String × String} :
    call ∈ rootsOf functions owners behavior ↔
      ∃ f ∈ functions, (f.name, behavior) ∈ owners.entries ∧ call ∈ Trace.callsOf f := by
  simp only [mem_rootsOf_iff, declaration?_eq_some_iff hn]
  constructor
  · rintro ⟨_, he, f, ⟨hf, rfl⟩, hc⟩
    exact ⟨f, hf, he, hc⟩
  · rintro ⟨f, hf, he, hc⟩
    exact ⟨f.name, he, f, ⟨hf, rfl⟩, hc⟩

/-- The followed calls are those at the end of a chain of calls through helpers. -/
theorem followed_rootsOf_iff (hn : (functions.map (·.name)).Nodup) {call : String × String} :
    Followed functions (rootsOf functions owners behavior) call ↔
      ∃ f ∈ functions, (f.name, behavior) ∈ owners.entries ∧
        ∃ g, Relation.ReflTransGen (CallsHelper functions) f g ∧ call ∈ Trace.callsOf g := by
  constructor
  · intro h
    induction h with
    | start hc =>
      obtain ⟨f, hf, he, hc⟩ := (mem_rootsOf hn).mp hc
      exact ⟨f, hf, he, f, .refl, hc⟩
    | next _ hd htag hs ih =>
      obtain ⟨f, hf, he, g, hfg, hc⟩ := ih
      obtain ⟨hm, hname⟩ := (declaration?_eq_some_iff hn).mp hd
      exact ⟨f, hf, he, _, hfg.tail ⟨hm, htag, hname ▸ (mem_callsOf.mp hc).2⟩, hs⟩
  · rintro ⟨f, hf, he, g, hfg, hc⟩
    induction hfg generalizing call with
    | refl => exact .start ((mem_rootsOf hn).mpr ⟨f, hf, he, hc⟩)
    | @tail g g' _ hcalls ih =>
      obtain ⟨hm, htag, hname⟩ := hcalls
      have hlast : Followed functions (rootsOf functions owners behavior) (g.name, g'.name) :=
        ih (mem_callsOf.mpr ⟨rfl, hname⟩)
      exact .next hlast ((declaration?_eq_some_iff hn).mpr ⟨hm, rfl⟩) htag hc

theorem mem_helpers_traceFor_iff (hn : (functions.map (·.name)).Nodup) {h : FunctionDecl}
    (hh : h ∈ functions) : h.name ∈ (traceFor functions owners behavior).helpers ↔
      ∃ f ∈ functions, (f.name, behavior) ∈ owners.entries ∧
        Relation.TransGen (CallsHelper functions) f h := by
  have hdecl := (declaration?_eq_some_iff hn).mpr ⟨hh, rfl⟩
  rw [mem_helpers_traceFor]
  constructor
  · rintro ⟨⟨h', hd, htag⟩, caller, hc⟩
    obtain rfl := Option.some.inj (hdecl.symm.trans hd)
    obtain ⟨f, hf, he, g, hfg, hc⟩ := (followed_rootsOf_iff hn).mp hc
    exact ⟨f, hf, he, .tail' hfg ⟨hh, htag, (mem_callsOf.mp hc).2⟩⟩
  · rintro ⟨f, hf, he, hfh⟩
    obtain ⟨g, hfg, _, htag, hcalls⟩ := Relation.TransGen.tail'_iff.mp hfh
    exact ⟨⟨h, hdecl, htag⟩, g.name,
      (followed_rootsOf_iff hn).mpr ⟨f, hf, he, g, hfg, mem_callsOf.mpr ⟨rfl, hcalls⟩⟩⟩

end Chains

end BehaviorPlan
