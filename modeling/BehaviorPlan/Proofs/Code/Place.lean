import BehaviorPlan.Proofs.Code.Rule
import BehaviorPlan.Proofs.Code.Site

/-! # Lines of findings on scanned code

Three rules look at methods, and they give the first line with the text of the declaration. This is
the line of the declaration itself unless the same text stands on a line before, in a comment or in
another declaration. The rule for lookups numbers the lines that the source is split into. These are
the lines of an editor if all line boundaries are line feeds. No other rule gives a line. -/
namespace BehaviorPlan.Code

open Text (OnLine IsInline contains hasPlainLines lineAfter occursIn splitLines)

section Declarations

variable {c : ClassSource} {rule : Rule} {site : Site}

def places (found : List Finding) : List (Option String × Int) :=
  found.filterMap fun f => f.line.map (f.function, ·)

def objects : Rule → Method → Bool
  | .naming, m => !Name.isPascal m.name
  | .access, m => publicEvents.contains m.name && !occursIn "public " m.declaration
  | .performance, m => frameMethods.contains m.name && occursIn lookup m.body
  | _, _ => false

def sites (c : ClassSource) : List Site :=
  sitesFrom c.source.toList

def objectedSites (rule : Rule) (c : ClassSource) : List Site :=
  (sites c).filter (objects rule ·.method)

def Site.line (c : ClassSource) (site : Site) : Nat :=
  site.lineIn c.source.toList

/-- The lines on which the text of a declaration occurs, in a comment or wherever. -/
def declaredOn (c : ClassSource) (m : Method) : Set Nat :=
  {n | OnLine m.declaration.toList c.source.toList n}

def Remark.place? (r : Remark) : Option (Option String × Int) :=
  r.line.map fun n : Nat => (r.function, (n : Int))

def methodPlace? (c : ClassSource) (m : Method) : Option (Option String × Int) :=
  (declarationLine? c.source m.declaration).map fun n : Nat => (some m.name, (n : Int))

theorem places_findingsOn (rule : Rule) (c : ClassSource) :
    places (findingsOn [rule] c) = (remarks rule c).filterMap Remark.place? := by
  have hone : findingsOn [rule] c = (remarks rule c).map (Remark.finding rule c) :=
    List.append_nil _
  rw [places, hone, List.filterMap_map]
  congr 1
  funext r
  cases h : r.line <;> simp [Remark.finding, Remark.place?, h]

theorem line_of_mem_nameRemarks {name : String} {r : Remark} (h : r ∈ nameRemarks name) :
    r.line = none := by
  unfold nameRemarks at h
  split at h
  · rw [List.mem_singleton.mp h]
  · split at h
    · rw [List.mem_singleton.mp h]
    · simp at h

theorem line_of_mem_wellFormedRemarks {r : Remark} (h : r ∈ wellFormedRemarks c) :
    r.line = none := by
  rcases List.mem_append.mp h with h | h
  · rcases List.mem_append.mp h with h | h
    · exact line_of_mem_nameRemarks h
    · rw [eq_of_mem_unless h]
  · rw [eq_of_mem_unless h]

theorem line_of_mem_networkSyncRemarks {r : Remark} (h : r ∈ networkSyncRemarks c) :
    r.line = none := by
  unfold networkSyncRemarks at h
  split at h
  · simp at h
  · rcases List.mem_append.mp h with h | h
    · rw [eq_of_mem_unless h]
    · rw [eq_of_mem_unless h]

theorem filterMap_place?_eq_nil {remarks : List Remark} (h : ∀ r ∈ remarks, r.line = none) :
    remarks.filterMap Remark.place? = [] := by
  refine List.filterMap_eq_nil_iff.mpr fun r hr => ?_
  rw [Remark.place?, h r hr, Option.map_none]

theorem places_of_no_line (hobjects : ∀ m, objects rule m = false)
    (hline : ∀ r ∈ remarks rule c, r.line = none) : places (findingsOn [rule] c) =
      ((declaredMethods c).filter (objects rule)).filterMap (methodPlace? c) := by
  have hnone : (declaredMethods c).filter (objects rule) = [] := by simp [hobjects]
  rw [places_findingsOn, filterMap_place?_eq_nil hline, hnone, List.filterMap_nil]

theorem places_eq_filterMap (hrule : rule ≠ .nullSafety) (c : ClassSource) :
    places (findingsOn [rule] c) =
      ((declaredMethods c).filter (objects rule)).filterMap (methodPlace? c) := by
  cases rule with
  | wellFormed => exact places_of_no_line (fun _ => rfl) fun _ => line_of_mem_wellFormedRemarks
  | networkSync => exact places_of_no_line (fun _ => rfl) fun _ => line_of_mem_networkSyncRemarks
  | inheritance =>
    refine places_of_no_line (fun _ => rfl) fun r hr => ?_
    rw [eq_of_mem_unless hr]
  | naming =>
    rw [places_findingsOn, remarks, namingRemarks, List.filterMap_append, List.filterMap_map,
      filterMap_place?_eq_nil fun r hr => by rw [eq_of_mem_unless hr], List.nil_append]
    rfl
  | access | performance =>
    rw [places_findingsOn]
    exact List.filterMap_map
  | nullSafety => exact absurd rfl hrule

theorem within_of_mem_sites (h : site ∈ sites c) : site.Within c.source.toList :=
  within_of_mem_sitesFrom h

theorem declarationLine?_eq_some_iff {m : Method} {n : Nat} :
    declarationLine? c.source m.declaration = some n ↔ IsLeast (declaredOn c m) n :=
  Text.before?_map_lineAfter_iff

theorem exists_isLeast_declaredOn (h : site ∈ sites c) :
    ∃ n, IsLeast (declaredOn c site.method) n ∧ n ≤ site.line c := by
  have hon := (within_of_mem_sites h).onLine
  obtain ⟨before, hbefore⟩ :=
    Option.isSome_iff_exists.mp (Text.contains_iff_isInfix.mpr hon.isInfix)
  have hleast := Text.before?_map_lineAfter_iff.mp (by rw [hbefore, Option.map_some])
  exact ⟨_, hleast, hleast.2 hon⟩

/-- The line that is given is the own line of the declaration exactly if its text occurs on no line
before. -/
theorem declarationLine?_eq_line_iff (h : site ∈ sites c) :
    declarationLine? c.source site.method.declaration = some (site.line c) ↔
      ∀ n ∈ declaredOn c site.method, site.line c ≤ n := by
  rw [declarationLine?_eq_some_iff]
  exact ⟨And.right, And.intro (within_of_mem_sites h).onLine⟩

theorem places_eq_filterMap_sites (hrule : rule ≠ .nullSafety) (hc : c.methods = []) :
    places (findingsOn [rule] c) =
      (objectedSites rule c).filterMap fun site => methodPlace? c site.method := by
  rw [places_eq_filterMap hrule, declaredMethods, if_pos hc, ← map_method_sitesFrom,
    List.filter_map, List.filterMap_map]
  rfl

end Declarations

section Lookups

variable {cs l : List Char} {lines : List (List Char)} {i j n : Nat}

theorem mem_window : l ∈ window lines i ↔ ∃ j, i ≤ j + 2 ∧ j ≤ i + 2 ∧ lines[j]? = some l := by
  simp only [window, List.mem_iff_getElem?, List.getElem?_drop, List.getElem?_take]
  constructor
  · rintro ⟨k, hk⟩
    split at hk
    · exact ⟨_, by omega, by omega, hk⟩
    · simp at hk
  · rintro ⟨j, hfrom, hto, hl⟩
    refine ⟨j - (i - 2), ?_⟩
    have hj : i - 2 + (j - (i - 2)) = j := by omega
    rwa [hj, if_pos (by omega)]

/-- Lines without a null check near are more than two lines away from every null check. -/
theorem any_window_eq_false_iff : (window lines i).any hasNullCheck = false ↔
    ∀ j, (∃ l, lines[j]? = some l ∧ hasNullCheck l = true) → j + 2 < i ∨ i + 2 < j := by
  simp only [List.any_eq_false, mem_window]
  constructor
  · rintro hnone j ⟨l, hl, hcheck⟩
    by_contra hnear
    exact hnone l ⟨j, by omega, by omega, hl⟩ hcheck
  · rintro hfar l ⟨j, hfrom, hto, hl⟩ hcheck
    have := hfar j ⟨l, hl, hcheck⟩
    omega

theorem mem_uncheckedLookups : i ∈ uncheckedLookups lines ↔
    (∃ l, lines[i]? = some l ∧ contains lookup.toList l = true) ∧
      ∀ j, (∃ l, lines[j]? = some l ∧ hasNullCheck l = true) → j + 2 < i ∨ i + 2 < j := by
  simp only [uncheckedLookups, List.mem_map, List.mem_filter, List.mem_zipIdx_iff_getElem?,
    Bool.and_eq_true, Bool.not_eq_true', Prod.exists, exists_eq_right, ← any_window_eq_false_iff]
  constructor
  · rintro ⟨l, hl, hlookup, hnone⟩
    exact ⟨⟨l, hl, hlookup⟩, hnone⟩
  · rintro ⟨⟨l, hl, hlookup⟩, hnone⟩
    exact ⟨l, hl, hlookup, hnone⟩

def ChecksOn (cs : List Char) (n : Nat) : Prop :=
  OnLine "!= null".toList cs n ∨ OnLine "== null".toList cs n

/-- An object is looked up on the line, and no null check is on it or on the two lines before and
after it. -/
structure LooksUp (cs : List Char) (n : Nat) : Prop where
  lookup : OnLine lookup.toList cs n
  unchecked : ∀ m, ChecksOn cs m → m + 2 < n ∨ n + 2 < m

theorem isInline_lookup : IsInline lookup.toList :=
  ⟨by decide, by decide⟩

theorem checksOn_iff (hplain : hasPlainLines cs = true) :
    ChecksOn cs (j + 1) ↔ ∃ l, (splitLines cs)[j]? = some l ∧ hasNullCheck l = true := by
  have hne : IsInline "!= null".toList := ⟨by decide, by decide⟩
  have heq : IsInline "== null".toList := ⟨by decide, by decide⟩
  rw [ChecksOn, Text.onLine_iff_getElem?_splitLines hne hplain,
    Text.onLine_iff_getElem?_splitLines heq hplain, ← exists_or]
  simp only [hasNullCheck, Bool.or_eq_true, and_or_left]

/-- Split lines are the lines of the text, counted from one. -/
theorem mem_uncheckedLookups_iff (hplain : hasPlainLines cs = true) :
    i ∈ uncheckedLookups (splitLines cs) ↔ LooksUp cs (i + 1) := by
  rw [mem_uncheckedLookups, ← Text.onLine_iff_getElem?_splitLines isInline_lookup hplain]
  constructor
  · rintro ⟨hlookup, hfar⟩
    refine ⟨hlookup, fun m hm => ?_⟩
    have hpos : 0 < m := hm.elim OnLine.pos OnLine.pos
    obtain ⟨j, rfl⟩ : ∃ j, m = j + 1 := ⟨m - 1, by omega⟩
    have := hfar j ((checksOn_iff hplain).mp hm)
    omega
  · rintro ⟨hlookup, hfar⟩
    refine ⟨hlookup, fun j hj => ?_⟩
    have := hfar (j + 1) ((checksOn_iff hplain).mpr hj)
    omega

theorem exists_line_nullSafety_iff {c : ClassSource} {line : Int} :
    (∃ f ∈ findingsOn [.nullSafety] c, f.line = some line) ↔
      ∃ i ∈ uncheckedLookups (splitLines c.source.toList), line = ((i + 1 : Nat) : Int) := by
  simp only [findingsOn, remarks, nullSafetyRemarks, List.flatMap_cons, List.flatMap_nil,
    List.append_nil, List.map_map, List.mem_map, exists_exists_and_eq_and]
  refine exists_congr fun i => and_congr_right fun _ => ?_
  simp only [Function.comp_apply, Remark.finding, Option.map_some, Option.some.injEq]
  exact eq_comm

end Lookups

section Pinpointing

variable {c : ClassSource}

def Site.place (c : ClassSource) (site : Site) : Option String × Int :=
  (some site.method.name, (site.line c : Int))

/-- The place names the method and the first line with the text of its declaration, which is no
later than the declaration itself. -/
structure NamesFirst (c : ClassSource) (site : Site) (place : Option String × Int) : Prop where
  method : place.1 = some site.method.name
  line : ∃ n : Nat, place.2 = (n : Int) ∧ IsLeast (declaredOn c site.method) n ∧ n ≤ site.line c

/-- What the lines of the findings on a class are. -/
structure Pinpoints (c : ClassSource) : Prop where
  /-- For each method that a rule complains about there is one line, the first one with the text of
  the declaration. -/
  first : ∀ rule ≠ .nullSafety,
    List.Forall₂ (NamesFirst c) (objectedSites rule c) (places (findingsOn [rule] c))
  /-- These lines are those of the declarations themselves exactly if the text of none of them
  occurs on a line before. -/
  own : ∀ rule ≠ .nullSafety,
    places (findingsOn [rule] c) = (objectedSites rule c).map (Site.place c) ↔
      ∀ site ∈ objectedSites rule c, ∀ n ∈ declaredOn c site.method, site.line c ≤ n
  /-- Of two methods that are declared alike the later one never gets its own line. -/
  repeated : ∀ a b, [a, b].Sublist (sites c) → a.method.declaration = b.method.declaration →
    ∃ n ∈ declaredOn c b.method, n < b.line c
  lookups : hasPlainLines c.source.toList = true → ∀ line : Int,
    (∃ f ∈ findingsOn [.nullSafety] c, f.line = some line) ↔
      ∃ n : Nat, line = n ∧ LooksUp c.source.toList n

theorem forall₂_places {rule : Rule} (hrule : rule ≠ .nullSafety) (hc : c.methods = []) :
    List.Forall₂ (NamesFirst c) (objectedSites rule c) (places (findingsOn [rule] c)) := by
  have hsites : ∀ site ∈ objectedSites rule c, ∃ n, IsLeast (declaredOn c site.method) n ∧
      n ≤ site.line c := fun site hsite =>
    exists_isLeast_declaredOn (List.mem_filter.mp hsite).1
  rw [places_eq_filterMap_sites hrule hc]
  generalize objectedSites rule c = objected at hsites
  induction objected with
  | nil => exact .nil
  | cons site objected ih =>
    rw [List.forall_mem_cons] at hsites
    obtain ⟨n, hleast, hle⟩ := hsites.1
    have hplace : methodPlace? c site.method = some (some site.method.name, (n : Int)) := by
      rw [methodPlace?, declarationLine?_eq_some_iff.mpr hleast, Option.map_some]
    simp only [List.filterMap_cons, hplace]
    exact .cons ⟨rfl, n, rfl, hleast, hle⟩ (ih hsites.2)

theorem places_eq_map_place_iff {rule : Rule} (hrule : rule ≠ .nullSafety) (hc : c.methods = []) :
    places (findingsOn [rule] c) = (objectedSites rule c).map (Site.place c) ↔
      ∀ site ∈ objectedSites rule c, ∀ n ∈ declaredOn c site.method, site.line c ≤ n := by
  rw [places_eq_filterMap_sites hrule hc, List.filterMap_eq_map_iff_forall_eq_some]
  refine forall₂_congr fun site hsite => ?_
  rw [← declarationLine?_eq_line_iff (List.mem_filter.mp hsite).1, methodPlace?,
    Option.map_eq_some_iff]
  constructor
  · rintro ⟨n, hn, hplace⟩
    simp only [Site.place, Prod.mk.injEq, true_and, Int.natCast_inj] at hplace
    rw [hn, hplace]
  · exact fun hline => ⟨_, hline, rfl⟩

theorem exists_lt_of_repeated {a b : Site} (hsub : [a, b].Sublist (sites c))
    (heq : a.method.declaration = b.method.declaration) :
    ∃ n ∈ declaredOn c b.method, n < b.line c := by
  have hlt : a.line c < b.line c :=
    List.pairwise_iff_forall_sublist.mp (pairwise_lineIn_sitesFrom _) hsub
  have hon := (within_of_mem_sites (hsub.subset (List.mem_cons_self))).onLine
  rw [heq] at hon
  exact ⟨a.line c, hon, hlt⟩

/-- Findings on scanned code point at what they are about, as far as the text of a declaration and
the boundaries of lines leave no doubt. -/
theorem pinpoints_of_scanned (hc : c.methods = []) : Pinpoints c where
  first _ hrule := forall₂_places hrule hc
  own _ hrule := places_eq_map_place_iff hrule hc
  repeated _ _ := exists_lt_of_repeated
  lookups hplain line := by
    rw [exists_line_nullSafety_iff]
    constructor
    · rintro ⟨i, hi, rfl⟩
      exact ⟨i + 1, rfl, (mem_uncheckedLookups_iff hplain).mp hi⟩
    · rintro ⟨n, rfl, hn⟩
      have hpos := hn.lookup.pos
      obtain ⟨i, rfl⟩ : ∃ i, n = i + 1 := ⟨n - 1, by omega⟩
      exact ⟨i, (mem_uncheckedLookups_iff hplain).mpr hn, rfl⟩

/-- An event that is not public, and a lookup with no check in it. -/
def plainDoor : ClassSource where
  name := "Door"
  source := "public class Door : UdonSharpBehaviour\n\x7b\n    void Start()\n    \x7b\n" ++
    "        target = GameObject.Find(\"Door\");\n    \x7d\n\x7d\n"

theorem pinpoints_plainDoor : plainDoor.methods = [] ∧ Pinpoints plainDoor ∧
    places (findingsOn [.access] plainDoor) = [(some "Start", 3)] ∧
    hasPlainLines plainDoor.source.toList = true ∧ LooksUp plainDoor.source.toList 5 := by
  have htext : plainDoor.source.toList = _ := Text.toList_append_ofList
  have hplaces : places (findingsOn [.access] plainDoor) = [(some "Start", 3)] := by
    rw [places_eq_filterMap_sites (by decide) rfl]
    simp only [objectedSites, sites, methodPlace?, declarationLine?, htext]
    decide +kernel
  have hplain : hasPlainLines plainDoor.source.toList = true := by
    rw [htext]
    decide +kernel
  have hlookup : 4 ∈ uncheckedLookups (splitLines plainDoor.source.toList) := by
    rw [htext]
    decide +kernel
  exact ⟨rfl, pinpoints_of_scanned rfl, hplaces, hplain,
    (mem_uncheckedLookups_iff hplain).mp hlookup⟩

/-- The declaration is quoted in a comment before. -/
def quotedDoor : ClassSource where
  name := "Door"
  source := "// declares void Start()\npublic class Door : UdonSharpBehaviour\n\x7b\n" ++
    "    void Start()\n    \x7b\n    \x7d\n\x7d\n"

/-- A form feed stands at the end of the second line. -/
def fedDoor : ClassSource where
  name := "Door"
  source := "public class Door : UdonSharpBehaviour\n\x7b\x0c\n    public void Start()\n    \x7b\n" ++
    "        target = GameObject.Find(\"Door\");\n    \x7d\n\x7d\n"

/-- A line may be that of a comment with the same text, or of no lookup at all. -/
theorem not_places_eq_of_scanned :
    (¬ ∀ c : ClassSource, c.methods = [] → ∀ rule ≠ .nullSafety,
      places (findingsOn [rule] c) = (objectedSites rule c).map (Site.place c)) ∧
    ¬ ∀ c : ClassSource, c.methods = [] → ∀ line : Int,
      (∃ f ∈ findingsOn [.nullSafety] c, f.line = some line) →
        ∃ n : Nat, line = n ∧ LooksUp c.source.toList n := by
  constructor
  · intro h
    have htext : quotedDoor.source.toList = _ := Text.toList_append_ofList
    have hquoted : ∃ site ∈ objectedSites .access quotedDoor, 1 < site.line quotedDoor ∧
        OnLine site.method.declaration.toList quotedDoor.source.toList 1 := by
      simp only [objectedSites, sites, Site.line, htext]
      decide +kernel
    obtain ⟨site, hsite, hline, hon⟩ := hquoted
    have hrule : Rule.access ≠ .nullSafety := by decide
    have hfirst := (places_eq_map_place_iff hrule rfl).mp (h quotedDoor rfl .access hrule)
    exact absurd (hfirst site hsite 1 hon) (Nat.not_le.mpr hline)
  · intro h
    have htext : fedDoor.source.toList = _ := Text.toList_append_ofList
    have hfound : 5 ∈ uncheckedLookups (splitLines fedDoor.source.toList) := by
      rw [htext]
      decide +kernel
    have hno : ¬ OnLine lookup.toList fedDoor.source.toList 6 := by
      rw [htext]
      decide +kernel
    obtain ⟨n, hn, hlookup⟩ := h fedDoor rfl 6 (exists_line_nullSafety_iff.mpr ⟨5, hfound, rfl⟩)
    obtain rfl : n = 6 := by omega
    exact hno hlookup.lookup

end Pinpointing

end BehaviorPlan.Code
