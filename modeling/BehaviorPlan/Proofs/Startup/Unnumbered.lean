import BehaviorPlan.Proofs.Name.Casing
import BehaviorPlan.Proofs.Startup.StepNames

/-! # Steps without a number

A step has its number in its names exactly if an earlier behavior has the same snake form. Names in
pascal case without underscores have snake forms of their own, so among such behaviors no step needs
a number. -/
namespace BehaviorPlan

/-- The names of the step come from the snake form alone. -/
structure Step.Unnumbered (s : Step) : Prop where
  fieldName : s.fieldName = "_" ++ Name.toSnake s.behavior ++ "_behavior"
  flagName : s.flagName = "_" ++ Name.toSnake s.behavior ++ "_initialized"

namespace Startup

section Steps

variable {order : List String} {s : Step}

theorem unnumbered_iff_stepName {suffix : Option Nat}
    (hfield : s.fieldName = stepName false (Name.toSnake s.behavior) suffix)
    (hflag : s.flagName = stepName true (Name.toSnake s.behavior) suffix) :
    s.Unnumbered ↔ suffix = none := by
  have hbare : ∀ flag stem, stepName flag stem none = "_" ++ stem ++ ending flag := by
    intro flag stem
    simp [stepName, suffixText, toString]
  constructor
  · intro h
    have hsame := hfield.symm.trans (h.fieldName.trans (hbare false _).symm)
    exact (stepName_inj hsame).2.2
  · rintro rfl
    exact ⟨hfield.trans (hbare false _), hflag.trans (hbare true _)⟩

def suffixOf (index : Nat) (taken : List String) (b : String) : Option Nat :=
  if Name.toSnake b ∈ taken then some index else none

theorem stepsFrom_cons (index : Nat) (taken : List String) (b : String) (bs : List String) :
    stepsFrom index taken (b :: bs) =
      { index
        behavior := b
        fieldName := stepName false (Name.toSnake b) (suffixOf index taken b)
        flagName := stepName true (Name.toSnake b) (suffixOf index taken b) } ::
          stepsFrom (index + 1) (Name.toSnake b :: taken) bs := by
  have hsuffix : (if Name.toSnake b ∈ taken then s!"_{index}" else "") =
      suffixText (suffixOf index taken b) := by
    unfold suffixOf
    split <;> rfl
  rw [stepsFrom, hsuffix]
  rfl

/-- A step has a number exactly if the snake form was taken at the start or by an earlier step. -/
theorem unnumbered_iff_of_stepsFrom {index i : Nat} {taken : List String}
    (h : (stepsFrom index taken order)[i]? = some s) : s.Unnumbered ↔
      Name.toSnake s.behavior ∉ taken ∧
        ∀ b ∈ order.take i, Name.toSnake b ≠ Name.toSnake s.behavior := by
  induction order generalizing index i taken with
  | nil => simp [stepsFrom] at h
  | cons b bs ih =>
    rw [stepsFrom_cons] at h
    cases i with
    | zero =>
      obtain rfl := Option.some.inj h
      rw [unnumbered_iff_stepName rfl rfl]
      simp [suffixOf]
    | succ i =>
      rw [List.getElem?_cons_succ] at h
      rw [ih h, List.take_succ_cons, List.forall_mem_cons, List.mem_cons, not_or]
      constructor
      · rintro ⟨⟨hfirst, htaken⟩, hrest⟩
        exact ⟨htaken, Ne.symm hfirst, hrest⟩
      · rintro ⟨htaken, hfirst, hrest⟩
        exact ⟨⟨hfirst.symm, htaken⟩, hrest⟩

theorem unnumbered_iff {i : Nat} (h : (steps order)[i]? = some s) :
    s.Unnumbered ↔ ∀ b ∈ order.take i, Name.toSnake b ≠ Name.toSnake s.behavior := by
  rw [unnumbered_iff_of_stepsFrom h]
  simp

theorem unnumbered_of_compact {i : Nat} (h : (steps order)[i]? = some s)
    (hcompact : Name.isCompact s.behavior = true)
    (hbefore : ∀ b ∈ order.take i, Name.isCompact b = true ∧ b ≠ s.behavior) : s.Unnumbered := by
  refine (unnumbered_iff h).mpr fun b hb hsame => ?_
  obtain ⟨hb, hne⟩ := hbefore b hb
  exact hne (Name.toSnake_inj (Name.isCapitalText_of_isCompact hb)
    (Name.isCapitalText_of_isCompact hcompact) hsame)

theorem not_mem_take_of_nodup (hn : order.Nodup) {i : Nat} (h : (steps order)[i]? = some s) :
    s.behavior ∈ order ∧ s.behavior ∉ order.take i := by
  have hbehavior : order[i]? = some s.behavior := by
    have hmap := congrArg (Option.map Step.behavior) h
    rwa [← List.getElem?_map, steps_behavior] at hmap
  obtain ⟨hlt, hget⟩ := List.getElem?_eq_some_iff.mp hbehavior
  refine ⟨List.mem_of_getElem? hbehavior, fun hmem => ?_⟩
  obtain ⟨j, hj, hsame⟩ := List.mem_take_iff_getElem.mp hmem
  have hij := (List.Nodup.getElem_inj_iff hn).mp (hsame.trans hget.symm)
  omega

end Steps

/-- Pascal case and snake case undo each other, on capitalized names and on joined lowercase words.
So a step for an identifier in pascal case without underscores has no number, unless an earlier
behavior has its name or is of another kind; in a coordinator no behavior comes twice. -/
theorem casings_invert_each_other :
    (∀ name : String, Name.isCapitalized name.toList = true →
      Name.toPascal (Name.toSnake name) = name) ∧
    (∀ words : List String, (∀ w ∈ words, Name.isPlainWord w.toList = true) →
      Name.toSnake (Name.toPascal ("_".intercalate words)) = "_".intercalate words) ∧
    (∀ (order : List String) (i : Nat) (s : Step), (steps order)[i]? = some s →
      Name.isCompact s.behavior = true →
      (∀ b ∈ order.take i, Name.isCompact b = true ∧ b ≠ s.behavior) → s.Unnumbered) ∧
    ∀ settings order behaviors c, synthesize settings order behaviors = .ok c →
      (∀ b ∈ order, Name.isCompact b = true) → ∀ s ∈ c.steps, s.Unnumbered := by
  refine ⟨fun name h => ?_, fun words h => ?_, fun order i s => unnumbered_of_compact, ?_⟩
  · exact Name.toPascal_toSnake (Name.isCapitalText_of_isCapitalized h)
  · exact Name.toSnake_toPascal fun w hw => Name.isLowerWord_of_isPlainWord (h w hw)
  · intro settings order behaviors c hc hcompact s hs
    have hnodup := (known_nodup_of_synthesize hc).2
    rw [(synthesize_inv hc).2.2.1] at hs
    obtain ⟨i, hi⟩ := List.getElem?_of_mem hs
    obtain ⟨hmem, hnot⟩ := not_mem_take_of_nodup hnodup hi
    refine unnumbered_of_compact hi (hcompact _ hmem) fun b hb => ?_
    exact ⟨hcompact b (List.mem_of_mem_take hb), fun hsame => hnot (hsame ▸ hb)⟩

def doorKinds : List Behavior :=
  [{ name := "Door" }, { name := "DoorLED2" }, { name := "DoorLed2" }]

theorem casings_invert_each_other_doorKinds :
    Name.toPascal (Name.toSnake "DoorLED2") = "DoorLED2" ∧
    Name.toSnake (Name.toPascal "door_l_e_d2") = "door_l_e_d2" ∧
    (∃ s, (steps ["Door", "DoorLED2", "door_led2"])[1]? = some s ∧ s.Unnumbered) ∧
    ∃ c, synthesize {} ["DoorLED2", "Door", "DoorLed2"] doorKinds = .ok c ∧
      ∀ s ∈ c.steps, s.Unnumbered := by
  obtain ⟨hpascal, hsnake, hstep, hcoordinator⟩ := casings_invert_each_other
  refine ⟨hpascal "DoorLED2" (by decide), ?_, ?_, ?_⟩
  · have hjoin : "_".intercalate ["door", "l", "e", "d2"] = "door_l_e_d2" := by decide
    exact hjoin ▸ hsnake ["door", "l", "e", "d2"] (by decide)
  · exact ⟨_, rfl, hstep ["Door", "DoorLED2", "door_led2"] 1 _ rfl (by decide) (by decide)⟩
  · obtain ⟨c, hc⟩ : ∃ c, synthesize {} ["DoorLED2", "Door", "DoorLed2"] doorKinds = .ok c :=
      exists_synthesize_eq_ok (StartupSettings.legal_of_sound StartupSettings.sound_default)
        (by decide +kernel) (by decide +kernel) (by decide) (by decide) (by decide)
    exact ⟨c, hc, hcoordinator _ _ _ c hc (by decide)⟩

end Startup

end BehaviorPlan
