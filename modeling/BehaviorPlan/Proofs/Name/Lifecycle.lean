import Mathlib.Data.List.Infix
import BehaviorPlan.Name.Lifecycle
import BehaviorPlan.Proofs.Name.Casing
import BehaviorPlan.Proofs.Table

/-! # Events and stems of names

The event that a name ends in and the behavior that the name belongs to are looked for apart. In a
name with underscores both cut the name at the same segment. A name in camel case ends in its
longest event, but only five endings are cut from it. -/
namespace BehaviorPlan.Name

section Segments

theorem intercalate_append {sep : List Char} {xs ys : List (List Char)} (hx : xs ≠ [])
    (hy : ys ≠ []) :
    sep.intercalate (xs ++ ys) = sep.intercalate xs ++ (sep ++ sep.intercalate ys) := by
  induction xs with
  | nil => exact absurd rfl hx
  | cons x xs ih =>
    cases xs with
    | nil =>
      cases ys with
      | nil => exact absurd rfl hy
      | cons y ys => simp [List.intercalate_cons_cons]
    | cons next xs =>
      rw [List.cons_append, List.cons_append, List.intercalate_cons_cons, ← List.cons_append,
        ih (List.cons_ne_nil _ _), List.intercalate_cons_cons]
      simp only [List.append_assoc]

theorem pascalSegments_append (front back : List (List Char)) :
    pascalSegments (front ++ back) = pascalSegments front ++ pascalSegments back := by
  have hnil : pascalSegments [] = "" := rfl
  rcases eq_or_ne front [] with rfl | hfront
  · simp [hnil]
  · rcases eq_or_ne back [] with rfl | hback
    · simp [hnil]
    · have hjoin : ['_'].intercalate (front ++ back) =
          ['_'].intercalate front ++ '_' :: ['_'].intercalate back :=
        intercalate_append hfront hback
      simp only [pascalSegments, hjoin, pascalText_append, String.ofList_append]

/-- The first segment of the longest tail that spells an event. -/
def eventIndex? (parts : List (List Char)) : Option Nat :=
  ((List.range parts.length).drop 1).find? fun i => isUnityEvent (pascalSegments (parts.drop i))

theorem findSome?_ite {α β : Type} {p : β → Bool} {g : α → β} (xs : List α) :
    (xs.findSome? fun x => if p (g x) = true then some (g x) else none) =
      (xs.find? fun x => p (g x)).map g := by
  induction xs with
  | nil => rfl
  | cons x xs ih =>
    by_cases h : p (g x) = true
    · simp [h]
    · simp [h, ih]

theorem segmentEvent?_eq (parts : List (List Char)) :
    segmentEvent? parts = (eventIndex? parts).map fun i => pascalSegments (parts.drop i) :=
  findSome?_ite _

theorem stemOfSegments_of_some {parts : List (List Char)} {i : Nat}
    (h : eventIndex? parts = some i) : stemOfSegments parts = pascalSegments (parts.take i) := by
  rw [eventIndex?] at h
  rw [stemOfSegments, h]

theorem eventIndex?_eq_some_iff {parts : List (List Char)} {i : Nat} :
    eventIndex? parts = some i ↔ isUnityEvent (pascalSegments (parts.drop i)) = true ∧
      (0 < i ∧ i < parts.length) ∧
        ∀ j, 0 < j → j < i → isUnityEvent (pascalSegments (parts.drop j)) = false := by
  rw [eventIndex?, List.range_eq_range', List.drop_range', List.find?_range'_eq_some]
  simp only [List.mem_range'_1, Bool.not_eq_true']
  have hmem : 0 + 1 * 1 ≤ i ∧ i < 0 + 1 * 1 + (parts.length - 1) ↔ 0 < i ∧ i < parts.length := by
    omega
  simp only [hmem]
  exact Iff.rfl

end Segments

section Endings

theorem endsWithin_iff {name ending : String} : endsWithin name ending = true ↔
    ∃ stem, stem ≠ "" ∧ name = stem ++ ending := by
  simp only [endsWithin, Bool.and_eq_true, List.isSuffixOf_iff_suffix, decide_eq_true_eq]
  constructor
  · rintro ⟨⟨front, hfront⟩, hlength⟩
    refine ⟨String.ofList front, ?_, ?_⟩
    · rintro hnil
      have hfront' : front = [] := by simpa using hnil
      rw [hfront', List.nil_append] at hfront
      simp [String.toList_inj.mp hfront] at hlength
    · rw [← String.toList_inj, String.toList_append, String.toList_ofList, hfront]
  · rintro ⟨stem, hne, rfl⟩
    refine ⟨⟨stem.toList, (String.toList_append ..).symm⟩, ?_⟩
    have hpos : 0 < stem.length := by
      rw [Nat.pos_iff_ne_zero]
      simpa using hne
    rw [String.length_append]
    omega

theorem dropEnding_append (stem ending : String) : dropEnding (stem ++ ending) ending = stem := by
  rw [dropEnding, String.length_append, Nat.add_sub_cancel, String.toList_append,
    ← String.length_toList, List.take_left, String.ofList_toList]

theorem suffix_of_endsWithin {name short long : String} (hshort : endsWithin name short = true)
    (hlong : endsWithin name long = true) (hle : short.length ≤ long.length) :
    short.toList <:+ long.toList := by
  simp only [endsWithin, Bool.and_eq_true, List.isSuffixOf_iff_suffix] at hshort hlong
  rw [← String.length_toList, ← String.length_toList] at hle
  exact List.suffix_of_suffix_length_le hshort.1 hlong.1 hle

theorem mem_eventsByLength {event : String} : event ∈ eventsByLength ↔ event ∈ unityEvents := by
  simp [eventsByLength]

theorem pairwise_eventsByLength : eventsByLength.Pairwise fun a b => b.length ≤ a.length := by
  simpa [eventsByLength] using List.pairwise_mergeSort (decide_size_trans String.length)
    (decide_size_total String.length) unityEvents

/-- Of all events that a name ends in, the longest one is found. -/
structure IsLongestEnding (name event : String) : Prop where
  mem : event ∈ unityEvents
  ends : endsWithin name event = true
  longest : ∀ e ∈ unityEvents, endsWithin name e = true → e.length ≤ event.length

theorem isLongestEnding_of_find? {name event : String}
    (h : eventsByLength.find? (endsWithin name) = some event) : IsLongestEnding name event := by
  obtain ⟨hends, before, after, hsplit, hbefore⟩ := List.find?_eq_some_iff_append.mp h
  have hsorted := pairwise_eventsByLength
  rw [hsplit, List.pairwise_append, List.pairwise_cons] at hsorted
  refine ⟨mem_eventsByLength.mp (List.mem_of_find?_eq_some h), hends, fun e he hname => ?_⟩
  rw [← mem_eventsByLength, hsplit, List.mem_append, List.mem_cons] at he
  rcases he with he | rfl | he
  · simpa [hname] using hbefore e he
  · exact le_rfl
  · exact hsorted.2.1.1 e he

theorem find?_eventsByLength {name event : String} :
    eventsByLength.find? (endsWithin name) = some event ↔ IsLongestEnding name event := by
  refine ⟨isLongestEnding_of_find?, fun h => ?_⟩
  cases hfind : eventsByLength.find? (endsWithin name) with
  | none =>
    have hnone := List.find?_eq_none.mp hfind event (mem_eventsByLength.mpr h.mem)
    exact absurd h.ends hnone
  | some e =>
    have he := isLongestEnding_of_find? hfind
    have hle := he.longest event h.mem h.ends
    have hge := h.longest e he.mem he.ends
    have hlength : e.toList.length = event.toList.length := by
      rw [String.length_toList, String.length_toList, le_antisymm hge hle]
    have hsuffix := suffix_of_endsWithin he.ends h.ends hge
    rw [String.toList_inj.mp (hsuffix.eq_of_length hlength)]

theorem cutEndings_subset : ∀ ending ∈ cutEndings, ending ∈ unityEvents := by
  decide

theorem eq_of_suffix_cutEndings : ∀ a ∈ cutEndings, ∀ b ∈ cutEndings,
    a.toList <:+ b.toList → a = b := by
  decide +kernel

theorem IsLongestEnding.suffix {name event ending : String} (h : IsLongestEnding name event)
    (hcut : ending ∈ cutEndings) (hends : endsWithin name ending = true) :
    ending.toList <:+ event.toList :=
  suffix_of_endsWithin hends h.ends (h.longest ending (cutEndings_subset ending hcut) hends)

theorem IsLongestEnding.find?_cutEndings {name event : String} (h : IsLongestEnding name event)
    (hcut : event ∈ cutEndings) : cutEndings.find? (endsWithin name) = some event := by
  cases hfind : cutEndings.find? (endsWithin name) with
  | none => exact absurd h.ends (List.find?_eq_none.mp hfind event hcut)
  | some ending =>
    have hending := List.mem_of_find?_eq_some hfind
    have hends : endsWithin name ending = true := List.find?_some hfind
    rw [eq_of_suffix_cutEndings ending hending event hcut (h.suffix hending hends)]

theorem IsLongestEnding.find?_cutEndings_eq_none {name event : String}
    (h : IsLongestEnding name event)
    (hother : ∀ ending ∈ cutEndings, ¬ ending.toList <:+ event.toList) :
    cutEndings.find? (endsWithin name) = none :=
  List.find?_eq_none.mpr fun ending hcut hends => hother ending hcut (h.suffix hcut hends)

end Endings

section Stems

/-- The name is no event by itself, and it ends in one. -/
structure EndsInEvent (name event : String) : Prop where
  pascal : isUnityEvent (toPascal name) = false
  capital : isUnityEvent (capitalize name) = false
  event : lifecycleEvent? name = some event

/-- The segments of the name, cut where the rest spells the event. -/
structure CutsSegments (name event : String) (front back : List (List Char)) : Prop where
  segments : segments name = front ++ back
  front : front ≠ []
  back : pascalSegments back = event

variable {name event : String}

theorem EndsInEvent.ne_empty (h : EndsInEvent name event) : name ≠ "" := by
  rintro rfl
  exact nomatch h.event

theorem EndsInEvent.segmentEvent? (h : EndsInEvent name event) (hname : '_' ∈ name.toList) :
    segmentEvent? (Name.segments name) = some event := by
  simpa [lifecycleEvent?, h.ne_empty, h.pascal, hname] using h.event

theorem EndsInEvent.isLongestEnding (h : EndsInEvent name event) (hname : '_' ∉ name.toList) :
    IsLongestEnding (capitalize name) event := by
  have hevent := h.event
  simp only [lifecycleEvent?, h.ne_empty, h.pascal, hname, endingEvent?, h.capital, if_false,
    Bool.false_eq_true] at hevent
  exact isLongestEnding_of_find? hevent

theorem EndsInEvent.exists_eventIndex? (h : EndsInEvent name event) (hname : '_' ∈ name.toList) :
    ∃ i, eventIndex? (Name.segments name) = some i ∧
      pascalSegments ((Name.segments name).drop i) = event ∧
      inferBehavior name = pascalSegments ((Name.segments name).take i) := by
  have hevent := h.segmentEvent? hname
  rw [segmentEvent?_eq] at hevent
  obtain ⟨i, hi, hevent⟩ := Option.map_eq_some_iff.mp hevent
  have hlength : 1 < (Name.segments name).length := by
    have := (eventIndex?_eq_some_iff.mp hi).2.1
    omega
  refine ⟨i, hi, hevent, ?_⟩
  rw [inferBehavior, if_pos hname]
  dsimp only
  rw [if_neg (by omega), stemOfSegments_of_some hi]

theorem EndsInEvent.inferBehavior_eq (h : EndsInEvent name event) (hname : '_' ∈ name.toList)
    {front back : List (List Char)} (hcut : CutsSegments name event front back) :
    inferBehavior name = pascalSegments front := by
  obtain ⟨i, hi, hdrop, hinfer⟩ := h.exists_eventIndex? hname
  obtain ⟨hunity, ⟨hpos, _⟩, hfirst⟩ := eventIndex?_eq_some_iff.mp hi
  rw [hcut.segments] at hdrop hinfer hfirst
  -- The search takes the longest tail, so it stops no later than at this cut.
  have hle : i ≤ front.length := by
    by_contra hlt
    have hnot := hfirst front.length (List.length_pos_iff.mpr hcut.front) (by omega)
    rw [List.drop_left, hcut.back, ← hdrop, ← hcut.segments, hunity] at hnot
    exact nomatch hnot
  rw [List.drop_append_of_le_length hle, pascalSegments_append, hcut.back] at hdrop
  have hmiddle : pascalSegments (front.drop i) = "" := by
    simpa using hdrop
  calc inferBehavior name = pascalSegments (front.take i) := by
        rw [hinfer, List.take_append_of_le_length hle]
    _ = pascalSegments (front.take i) ++ pascalSegments (front.drop i) := by
        rw [hmiddle, String.append_empty]
    _ = pascalSegments front := by
        rw [← pascalSegments_append, List.take_append_drop]

theorem EndsInEvent.exists_cutsSegments (h : EndsInEvent name event) (hname : '_' ∈ name.toList) :
    ∃ front back, CutsSegments name event front back := by
  obtain ⟨i, hi, hdrop, -⟩ := h.exists_eventIndex? hname
  have hbounds := (eventIndex?_eq_some_iff.mp hi).2.1
  refine ⟨_, _, (List.take_append_drop i _).symm, ?_, hdrop⟩
  rw [← List.length_pos_iff, List.length_take]
  omega

theorem EndsInEvent.inferBehavior_eq_stem (h : EndsInEvent name event)
    (hname : '_' ∉ name.toList) (hcut : event ∈ cutEndings) {stem : String}
    (hstem : capitalize name = stem ++ event) : inferBehavior name = stem := by
  rw [inferBehavior, if_neg hname]
  dsimp only
  rw [(h.isLongestEnding hname).find?_cutEndings hcut]
  dsimp only
  rw [hstem, dropEnding_append]

theorem EndsInEvent.inferBehavior_eq_capitalize (h : EndsInEvent name event)
    (hname : '_' ∉ name.toList)
    (hother : ∀ ending ∈ cutEndings, ¬ ending.toList <:+ event.toList) :
    inferBehavior name = capitalize name := by
  rw [inferBehavior, if_neg hname]
  dsimp only
  rw [(h.isLongestEnding hname).find?_cutEndings_eq_none hother]

theorem EndsInEvent.of_isLongestEnding (hname : '_' ∉ name.toList)
    (hpascal : isUnityEvent (toPascal name) = false)
    (hcapital : isUnityEvent (capitalize name) = false)
    (h : IsLongestEnding (capitalize name) event) : EndsInEvent name event := by
  have hne : name ≠ "" := by
    rintro rfl
    obtain ⟨stem, hstem, hempty⟩ := endsWithin_iff.mp h.ends
    exact hstem (String.append_eq_empty_iff.mp hempty.symm).1
  refine ⟨hpascal, hcapital, ?_⟩
  simp only [lifecycleEvent?, hne, hpascal, hname, endingEvent?, hcapital, if_false,
    Bool.false_eq_true]
  exact find?_eventsByLength.mpr h

/-- Two names that differ in the event at their end only, both with underscores or both in camel
case with endings that may be cut. -/
inductive SameStem (name event other last : String) : Prop where
  | segments {front back rest : List (List Char)} (hname : '_' ∈ name.toList)
      (hother : '_' ∈ other.toList) (hcut : CutsSegments name event front back)
      (hrest : CutsSegments other last front rest)
  | letters {stem : String} (hname : '_' ∉ name.toList) (hother : '_' ∉ other.toList)
      (hcut : event ∈ cutEndings) (hlast : last ∈ cutEndings)
      (hstem : capitalize name = stem ++ event) (hrest : capitalize other = stem ++ last)

/-- How the behavior of a name comes from the event that the name ends in. -/
structure CutsEvent (name event : String) : Prop where
  /-- In a name with underscores some last segments spell the event, and those before them name
  the behavior. -/
  segments : '_' ∈ name.toList → (∃ front back, CutsSegments name event front back) ∧
    ∀ front back, CutsSegments name event front back → inferBehavior name = pascalSegments front
  /-- In camel case something stands before the event. It is the behavior if the event may be cut;
  if no ending of the event may be cut, the name is left whole. -/
  letters : '_' ∉ name.toList → ∃ stem, stem ≠ "" ∧ capitalize name = stem ++ event ∧
    (event ∈ cutEndings → inferBehavior name = stem) ∧
    ((∀ ending ∈ cutEndings, ¬ ending.toList <:+ event.toList) →
      inferBehavior name = capitalize name)
  shared : ∀ other last, EndsInEvent other last → SameStem name event other last →
    inferBehavior other = inferBehavior name

/-- The event that a name ends in is what is cut from the name to get its behavior. -/
theorem cutsEvent_of_endsInEvent (h : EndsInEvent name event) : CutsEvent name event where
  segments hname := ⟨h.exists_cutsSegments hname, fun _ _ hcut => h.inferBehavior_eq hname hcut⟩
  letters hname := by
    obtain ⟨stem, hne, hstem⟩ := endsWithin_iff.mp (h.isLongestEnding hname).ends
    exact ⟨stem, hne, hstem, fun hcut => h.inferBehavior_eq_stem hname hcut hstem,
      h.inferBehavior_eq_capitalize hname⟩
  shared other last hlast hsame := by
    cases hsame with
    | segments hname hother hcut hrest =>
      rw [h.inferBehavior_eq hname hcut, hlast.inferBehavior_eq hother hrest]
    | letters hname hother hcut hcut' hstem hrest =>
      rw [h.inferBehavior_eq_stem hname hcut hstem, hlast.inferBehavior_eq_stem hother hcut' hrest]

theorem endsInEvent_doorLateUpdate : EndsInEvent "door_late_update" "LateUpdate" :=
  ⟨by decide +kernel, by decide +kernel, by decide +kernel⟩

theorem endsInEvent_doorStart : EndsInEvent "doorStart" "Start" :=
  .of_isLongestEnding (by decide) (by decide +kernel) (by decide +kernel)
    ⟨by decide +kernel, by decide +kernel, by decide +kernel⟩

theorem cutsEvent_doorLateUpdate_doorStart :
    EndsInEvent "door_late_update" "LateUpdate" ∧ CutsEvent "door_late_update" "LateUpdate" ∧
      EndsInEvent "doorStart" "Start" ∧ CutsEvent "doorStart" "Start" :=
  ⟨endsInEvent_doorLateUpdate, cutsEvent_of_endsInEvent endsInEvent_doorLateUpdate,
    endsInEvent_doorStart, cutsEvent_of_endsInEvent endsInEvent_doorStart⟩

/-- In camel case most events stay in the name of the behavior. -/
theorem not_inferBehavior_eq_stem : ¬ ∀ name event stem : String, EndsInEvent name event →
    '_' ∉ name.toList → capitalize name = stem ++ event → inferBehavior name = stem := by
  intro h
  have hdrop : EndsInEvent "doorOnDrop" "OnDrop" :=
    .of_isLongestEnding (by decide) (by decide +kernel) (by decide +kernel)
      ⟨by decide +kernel, by decide +kernel, by decide +kernel⟩
  have hinfer := h "doorOnDrop" "OnDrop" "Door" hdrop (by decide) (by decide +kernel)
  revert hinfer
  decide +kernel

end Stems

end BehaviorPlan.Name
