import Mathlib.Data.List.Nodup
import BehaviorPlan.Proofs.Name.Characters
import BehaviorPlan.Proofs.Outcome
import BehaviorPlan.Startup.Coordinator

/-! # Startup steps

The steps of an order are numbered from one on. A step's field and flag are told apart by their
endings, those of different steps by their stems, and where stems repeat by the number of the
step, which is written after the ending and can be read back. -/
namespace BehaviorPlan

structure Step.IsWordlike (s : Step) : Prop where
  behavior : Name.isIdentifier s.behavior = true
  fieldName : Name.Wordlike s.fieldName.toList
  flagName : Name.Wordlike s.flagName.toList

namespace Startup

def ending (flag : Bool) : String :=
  if flag then "_initialized" else "_behavior"

def suffixText : Option Nat → String
  | none => ""
  | some index => s!"_{index}"

/-- The name of a field or flag with a stem, and with the step number if the stem repeats. -/
def stepName (flag : Bool) (stem : String) (suffix : Option Nat) : String :=
  s!"_{stem}" ++ ending flag ++ suffixText suffix

section StepName

def finalDigits (cs : List Char) : List Char :=
  (cs.reverse.takeWhile Char.isDigit).reverse

theorem toList_stepName (flag : Bool) (stem : String) (suffix : Option Nat) :
    (stepName flag stem suffix).toList =
      ('_' :: stem.toList ++ (ending flag).toList) ++ (suffixText suffix).toList := by
  simp [stepName, toString]

theorem toList_suffixText (index : Nat) :
    (suffixText (some index)).toList = '_' :: Nat.toDigits 10 index := by
  simp [suffixText, toString]

theorem finalDigits_of_ending (cs : List Char) (flag : Bool) :
    finalDigits (cs ++ (ending flag).toList) = [] := by
  cases flag <;> simp [finalDigits, ending]

theorem finalDigits_of_digits (cs : List Char) (index : Nat) :
    finalDigits (cs ++ '_' :: Nat.toDigits 10 index) = Nat.toDigits 10 index := by
  have hdigits : ∀ c ∈ (Nat.toDigits 10 index).reverse, c.isDigit = true := fun c hc =>
    Nat.isDigit_of_mem_toDigits (by decide) (by decide) (List.mem_reverse.mp hc)
  have hstop : ('_' :: cs.reverse).takeWhile Char.isDigit = [] := rfl
  simp only [finalDigits, List.reverse_append, List.reverse_cons, List.append_assoc,
    List.singleton_append, List.takeWhile_append_of_pos hdigits, hstop, List.append_nil,
    List.reverse_reverse]

theorem finalDigits_stepName (flag : Bool) (stem : String) (suffix : Option Nat) :
    finalDigits (stepName flag stem suffix).toList =
      (suffix.map (Nat.toDigits 10)).getD [] := by
  rw [toList_stepName]
  cases suffix with
  | none => simpa [suffixText] using finalDigits_of_ending ('_' :: stem.toList) flag
  | some index => rw [toList_suffixText, finalDigits_of_digits]; rfl

theorem ending_inj {xs ys : List Char} {flag flag' : Bool}
    (h : xs ++ (ending flag).toList = ys ++ (ending flag').toList) : xs = ys ∧ flag = flag' := by
  have hlast := congrArg List.getLast? h
  cases flag <;> cases flag'
  · exact ⟨List.append_cancel_right h, rfl⟩
  · simp [ending] at hlast
  · simp [ending] at hlast
  · exact ⟨List.append_cancel_right h, rfl⟩

/-- Names of fields and flags differ unless they agree in everything they are made of. -/
theorem stepName_inj {flag flag' : Bool} {stem stem' : String} {suffix suffix' : Option Nat}
    (h : stepName flag stem suffix = stepName flag' stem' suffix') :
    flag = flag' ∧ stem = stem' ∧ suffix = suffix' := by
  have hdigits :
      (suffix.map (Nat.toDigits 10)).getD [] = (suffix'.map (Nat.toDigits 10)).getD [] := by
    rw [← finalDigits_stepName flag stem, ← finalDigits_stepName flag' stem', h]
  have hsuffix : suffix = suffix' := by
    cases suffix <;> cases suffix'
    · rfl
    · exact absurd hdigits.symm Nat.toDigits_ne_nil
    · exact absurd hdigits Nat.toDigits_ne_nil
    · rename_i m n
      have hvalue := congrArg (Nat.ofDigitChars 10 · 0) hdigits
      simpa using hvalue
  have hlist := congrArg String.toList h
  rw [toList_stepName, toList_stepName, hsuffix, List.append_cancel_right_eq] at hlist
  obtain ⟨hstem, hflag⟩ := ending_inj hlist
  exact ⟨hflag, String.toList_inj.mp (List.cons.inj hstem).2, hsuffix⟩

end StepName

section Characters

theorem all_tail_stepName (flag : Bool) (suffix : Option Nat) :
    ((ending flag).toList ++ (suffixText suffix).toList).all Name.isIdentRest = true := by
  have hending : (ending flag).toList.all Name.isIdentRest = true := by
    cases flag <;> decide
  rw [List.all_append, hending, Bool.true_and]
  cases suffix with
  | none => rfl
  | some index =>
    rw [toList_suffixText, List.all_cons, List.all_eq_true.mpr]
    · rfl
    · intro c hc
      have hdigit := Nat.isDigit_of_mem_toDigits (by decide) (by decide) hc
      simp [Name.isIdentRest, Char.isAlphanum, hdigit]

theorem exists_tail_stepName (flag : Bool) {stem : String} (suffix : Option Nat)
    (h : Name.Wordlike stem.toList) :
    ∃ cs, (stepName flag stem suffix).toList = '_' :: cs ∧ Name.Wordlike cs := by
  refine ⟨stem.toList ++ ((ending flag).toList ++ (suffixText suffix).toList), ?_, ?_⟩
  · simp [toList_stepName]
  · exact Name.wordlike_append_iff.mpr ⟨h, Name.wordlike_of_all (all_tail_stepName flag suffix)⟩

theorem wordlike_stepName (flag : Bool) {stem : String} (suffix : Option Nat)
    (h : Name.Wordlike stem.toList) : Name.Wordlike (stepName flag stem suffix).toList := by
  obtain ⟨cs, hname, hcs⟩ := exists_tail_stepName flag suffix h
  rw [hname]
  exact Name.wordlike_cons_iff.mpr ⟨Or.inl rfl, hcs⟩

theorem newline_mem_stepName_iff (flag : Bool) (stem : String) (suffix : Option Nat) :
    '\n' ∈ (stepName flag stem suffix).toList ↔ '\n' ∈ stem.toList := by
  have htail : '\n' ∉ (ending flag).toList ++ (suffixText suffix).toList := fun hn =>
    Name.ne_newline_of_isIdentRest
      (List.all_eq_true.mp (all_tail_stepName flag suffix) _ hn) rfl
  rw [toList_stepName, List.append_assoc, List.mem_append, List.mem_cons]
  simp [htail]

/-- The names of a step are strict unless they are made from a name with a line feed. -/
theorem isStrict_stepName_iff (flag : Bool) {stem : String} (suffix : Option Nat)
    (h : Name.Wordlike stem.toList) :
    Name.isStrict (stepName flag stem suffix) = true ↔ '\n' ∉ stem.toList := by
  obtain ⟨cs, hname, hcs⟩ := exists_tail_stepName flag suffix h
  rw [← newline_mem_stepName_iff flag stem suffix, Name.isStrict, hname]
  exact Name.isStrictText_cons_iff rfl hcs

end Characters

/-- What the names of the steps are made of. -/
def stemsFrom (index : Nat) (taken : List String) : List String → List (String × Option Nat)
  | [] => []
  | b :: bs =>
    (Name.toSnake b, if Name.toSnake b ∈ taken then some index else none) ::
      stemsFrom (index + 1) (Name.toSnake b :: taken) bs

theorem stepNames_stepsFrom (index : Nat) (taken order : List String) :
    Coordinator.stepNames (stepsFrom index taken order) = (stemsFrom index taken order).flatMap
      fun k => [stepName false k.1 k.2, stepName true k.1 k.2] := by
  induction order generalizing index taken with
  | nil => rfl
  | cons b bs ih =>
    have hsuffix : (if Name.toSnake b ∈ taken then s!"_{index}" else "") =
        suffixText (if Name.toSnake b ∈ taken then some index else none) := by
      split <;> rfl
    rw [stepsFrom, stemsFrom, List.flatMap_cons, ← ih (index + 1) (Name.toSnake b :: taken)]
    simp only [Coordinator.stepNames, List.flatMap_cons, hsuffix]
    rfl

theorem exists_of_mem_stemsFrom {order : List String} {index : Nat} {taken : List String}
    {k : String × Option Nat} (h : k ∈ stemsFrom index taken order) :
    ∃ b ∈ order, k.1 = Name.toSnake b := by
  induction order generalizing index taken with
  | nil => simp [stemsFrom] at h
  | cons b bs ih =>
    rcases List.mem_cons.mp h with rfl | h
    · exact ⟨b, by simp, rfl⟩
    · obtain ⟨b', hb', hk⟩ := ih h
      exact ⟨b', by simp [hb'], hk⟩

theorem exists_of_mem_stepNames {order : List String} {name : String}
    (h : name ∈ Coordinator.stepNames (steps order)) :
    ∃ b ∈ order, ∃ flag suffix, name = stepName flag (Name.toSnake b) suffix := by
  rw [steps, stepNames_stepsFrom] at h
  obtain ⟨k, hk, hname⟩ := List.mem_flatMap.mp h
  obtain ⟨b, hb, hstem⟩ := exists_of_mem_stemsFrom hk
  rw [hstem] at hname
  rcases List.mem_pair.mp hname with rfl | rfl
  · exact ⟨b, hb, false, k.2, rfl⟩
  · exact ⟨b, hb, true, k.2, rfl⟩

theorem isWordlike_of_mem_steps {order : List String} (h : ∀ b ∈ order, Name.isIdentifier b = true)
    {s : Step} (hs : s ∈ steps order) : s.IsWordlike := by
  have hname : ∀ name ∈ [s.fieldName, s.flagName], Name.Wordlike name.toList := by
    intro name hname
    obtain ⟨b, hb, flag, suffix, rfl⟩ :=
      exists_of_mem_stepNames (List.mem_flatMap.mpr ⟨s, hs, hname⟩)
    exact wordlike_stepName flag suffix (Name.wordlike_toSnake (h b hb))
  have hbehavior : s.behavior ∈ order := steps_behavior order ▸ List.mem_map_of_mem hs
  exact ⟨h _ hbehavior, hname _ (by simp), hname _ (by simp)⟩

/-- A stem that was not taken has no number, and later steps have greater numbers. -/
theorem fresh_of_mem_stemsFrom {index : Nat} {taken order : List String} {k : String × Option Nat}
    (h : k ∈ stemsFrom index taken order) :
    (k.2 = none ∧ k.1 ∉ taken) ∨ ∃ n, k.2 = some n ∧ index ≤ n := by
  induction order generalizing index taken with
  | nil => simp [stemsFrom] at h
  | cons b bs ih =>
    rcases List.mem_cons.mp h with rfl | h
    · by_cases ht : Name.toSnake b ∈ taken
      · exact Or.inr ⟨index, by simp [ht], Nat.le_refl _⟩
      · exact Or.inl (by simp [ht])
    · rcases ih h with ⟨hnone, hnot⟩ | ⟨n, hn, hle⟩
      · exact Or.inl ⟨hnone, fun hm => hnot (List.mem_cons_of_mem _ hm)⟩
      · exact Or.inr ⟨n, hn, by omega⟩

theorem stemsFrom_nodup (index : Nat) (taken order : List String) :
    (stemsFrom index taken order).Nodup := by
  induction order generalizing index taken with
  | nil => exact List.nodup_nil
  | cons b bs ih =>
    refine List.nodup_cons.mpr ⟨fun hm => ?_, ih _ _⟩
    rcases fresh_of_mem_stemsFrom hm with ⟨_, hnot⟩ | ⟨n, hn, hle⟩
    · exact hnot (List.mem_cons_self ..)
    · simp only at hn
      split at hn
      · obtain rfl := Option.some.inj hn
        omega
      · simp at hn

theorem stepNames_nodup (order : List String) : (Coordinator.stepNames (steps order)).Nodup := by
  rw [steps, stepNames_stepsFrom, List.nodup_flatMap]
  refine ⟨fun k _ => ?_, (stemsFrom_nodup 1 [] order).imp fun {k k'} hne => ?_⟩
  · refine List.nodup_cons.mpr ⟨fun hm => ?_, List.nodup_singleton _⟩
    simpa using (stepName_inj (List.mem_singleton.mp hm)).1
  · intro name hk hk'
    have hparts : ∀ {j : String × Option Nat},
        name ∈ [stepName false j.1 j.2, stepName true j.1 j.2] →
          ∃ flag, name = stepName flag j.1 j.2 := by
      intro j hj
      rcases List.mem_pair.mp hj with h | h
      · exact ⟨false, h⟩
      · exact ⟨true, h⟩
    obtain ⟨flag, rfl⟩ := hparts hk
    obtain ⟨flag', h⟩ := hparts hk'
    obtain ⟨_, hstem, hsuffix⟩ := stepName_inj h
    exact hne (Prod.ext hstem hsuffix)

theorem index_stepsFrom (index : Nat) (taken order : List String) :
    (stepsFrom index taken order).map (·.index) =
      (List.range' index order.length).map Int.ofNat := by
  induction order generalizing index taken with
  | nil => rfl
  | cons b bs ih => simp [stepsFrom, ih, List.range'_succ]

theorem index_steps (order : List String) :
    (steps order).map (·.index) = (List.range' 1 order.length).map Int.ofNat :=
  index_stepsFrom 1 [] order

theorem exists_position_of_mem_steps {order : List String} {s : Step} (hs : s ∈ steps order) :
    ∃ i : Nat, order[i]? = some s.behavior ∧ s.index = i + 1 := by
  obtain ⟨i, hi⟩ := List.getElem?_of_mem hs
  have hbehavior : ((steps order).map (·.behavior))[i]? = some s.behavior := by
    rw [List.getElem?_map, hi, Option.map_some]
  have hindex : ((steps order).map (·.index))[i]? = some s.index := by
    rw [List.getElem?_map, hi, Option.map_some]
  rw [steps_behavior] at hbehavior
  have hlt : i < order.length := (List.getElem?_eq_some_iff.mp hbehavior).1
  rw [index_steps, List.getElem?_map, List.getElem?_range' hlt, Option.map_some] at hindex
  refine ⟨i, hbehavior, ?_⟩
  rw [← Option.some.inj hindex]
  simp only [Int.ofNat_eq_natCast]
  omega

theorem sound_of_mem_steps {order : List String} (h : ∀ b ∈ order, b ≠ "") {s : Step}
    (hs : s ∈ steps order) : Checked.defect? s = none := by
  have hindex : s.index ∈ (List.range' 1 order.length).map Int.ofNat :=
    index_steps order ▸ List.mem_map_of_mem hs
  have hbehavior : s.behavior ∈ order := steps_behavior order ▸ List.mem_map_of_mem hs
  obtain ⟨n, hn, hi⟩ := List.mem_map.mp hindex
  rw [List.mem_range'_1] at hn
  simp only [Checked.defect?, Option.or_eq_none_iff, defectIf_eq_none_iff, blank?_eq_none_iff,
    decide_eq_false_iff_not]
  exact ⟨by rw [← hi]; simp only [Int.ofNat_eq_natCast]; omega, h _ hbehavior⟩

theorem length_steps (order : List String) : (steps order).length = order.length := by
  simpa using congrArg List.length (steps_behavior order)

end Startup

end BehaviorPlan
