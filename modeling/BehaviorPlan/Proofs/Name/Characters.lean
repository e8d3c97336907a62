import BehaviorPlan.Name.Casing
import BehaviorPlan.Name.Identifier

/-! # Characters of names

An identifier has word characters only, but for a line feed that may end it. Snake case keeps both:
it brings in no other characters, and no line feed that was not there. -/
namespace BehaviorPlan.Name

/-- An ASCII letter or an underscore, then ASCII letters, digits and underscores. -/
def isStrictText : List Char → Bool
  | [] => false
  | c :: cs => isIdentStart c && cs.all isIdentRest

/-- An identifier without a line feed at its end. -/
def isStrict (name : String) : Bool :=
  isStrictText name.toList

def Wordlike (cs : List Char) : Prop :=
  ∀ c ∈ cs, isIdentRest c = true ∨ c = '\n'

section Word

variable {c : Char} {cs : List Char}

theorem isIdentRest_of_isIdentStart (h : isIdentStart c = true) : isIdentRest c = true := by
  simp only [isIdentStart, isIdentRest, Char.isAlphanum, Bool.or_eq_true] at h ⊢
  exact h.imp_left Or.inl

theorem toNat_lt_of_isIdentRest (h : isIdentRest c = true) : c.toNat < 128 := by
  by_cases hunderscore : c = '_'
  · rw [hunderscore]
    decide
  · have hletter : c.isAlpha = (c.isUpper || c.isLower) := rfl
    have hupper : c.isUpper = decide (c.val ≥ 'A'.val ∧ c.val ≤ 'Z'.val) := rfl
    have hlower : c.isLower = (c.val ≥ 'a'.val && c.val ≤ 'z'.val) := rfl
    simp only [isIdentRest, Char.isAlphanum, hletter, hupper, hlower, Char.isDigit,
      UInt32.le_iff_toNat_le, ge_iff_le, beq_iff_eq, hunderscore, Bool.or_eq_true,
      Bool.and_eq_true, decide_eq_true_eq, or_false] at h
    change c.val.toNat < 128
    have hZ : 'Z'.val.toNat = 90 := rfl
    have hz : 'z'.val.toNat = 122 := rfl
    have hnine : '9'.val.toNat = 57 := rfl
    omega

theorem forall_isIdentRest {P : Char → Prop} (h : ∀ n : Fin 128, P (Char.ofNat n))
    (hc : isIdentRest c = true) : P c := by
  have hchar := h ⟨c.toNat, toNat_lt_of_isIdentRest hc⟩
  rwa [Char.ofNat_toNat] at hchar

theorem ne_newline_of_isIdentRest (h : isIdentRest c = true) : c ≠ '\n' := by
  rintro rfl
  exact absurd h (by decide)

theorem isIdentRest_toLower (h : isIdentRest c = true) : isIdentRest c.toLower = true :=
  forall_isIdentRest (P := fun c => isIdentRest c = true → isIdentRest c.toLower = true)
    (by decide) h h

theorem wordlike_cons_iff :
    Wordlike (c :: cs) ↔ (isIdentRest c = true ∨ c = '\n') ∧ Wordlike cs :=
  List.forall_mem_cons

theorem wordlike_append_iff {xs ys : List Char} :
    Wordlike (xs ++ ys) ↔ Wordlike xs ∧ Wordlike ys :=
  List.forall_mem_append

theorem wordlike_of_all (h : cs.all isIdentRest = true) : Wordlike cs :=
  fun c hc => Or.inl (List.all_eq_true.mp h c hc)

end Word

section Identifier

variable {name : String} {cs : List Char}

/-- An identifier is a first character and a rest, all of them word characters, but for a line feed
that may stand at the very end. -/
theorem exists_parts_of_isIdentifierText (h : isIdentifierText cs = true) :
    ∃ c front, isIdentStart c = true ∧ front.all isIdentRest = true ∧
      (cs = c :: front ∨ cs = c :: (front ++ ['\n'])) := by
  cases cs with
  | nil => simp [isIdentifierText] at h
  | cons c cs =>
    rw [isIdentifierText, Bool.and_eq_true] at h
    refine ⟨c, dropFinalNewline cs, h.1, h.2, ?_⟩
    unfold dropFinalNewline
    split
    · rename_i hlast
      obtain ⟨front, rfl⟩ := List.getLast?_eq_some_iff.mp hlast
      exact Or.inr (by simp)
    · exact Or.inl rfl

theorem wordlike_of_isIdentifierText (h : isIdentifierText cs = true) : Wordlike cs := by
  obtain ⟨c, front, hc, hfront, rfl | rfl⟩ := exists_parts_of_isIdentifierText h
  · exact wordlike_cons_iff.mpr ⟨Or.inl (isIdentRest_of_isIdentStart hc), wordlike_of_all hfront⟩
  · refine wordlike_cons_iff.mpr ⟨Or.inl (isIdentRest_of_isIdentStart hc), ?_⟩
    exact wordlike_append_iff.mpr ⟨wordlike_of_all hfront, by simp [Wordlike]⟩

theorem isStrictText_cons_iff {c : Char} (hc : isIdentStart c = true) (h : Wordlike cs) :
    isStrictText (c :: cs) = true ↔ '\n' ∉ c :: cs := by
  have hne := ne_newline_of_isIdentRest (isIdentRest_of_isIdentStart hc)
  rw [isStrictText, hc, Bool.true_and, List.all_eq_true, List.mem_cons, not_or]
  constructor
  · exact fun hall => ⟨hne.symm, fun hn => ne_newline_of_isIdentRest (hall _ hn) rfl⟩
  · exact fun ⟨_, hn⟩ d hd => (h d hd).resolve_right fun he => hn (he ▸ hd)

theorem all_isIdentRest_of_isStrict (h : isStrict name = true) :
    name.toList.all isIdentRest = true := by
  rw [isStrict] at h
  cases hname : name.toList with
  | nil => rfl
  | cons c cs =>
    rw [hname, isStrictText, Bool.and_eq_true] at h
    rw [List.all_cons, isIdentRest_of_isIdentStart h.1, h.2, Bool.true_and]

theorem isStrict_iff_of_isIdentifier (h : isIdentifier name = true) :
    isStrict name = true ↔ '\n' ∉ name.toList := by
  rw [isIdentifier] at h
  rw [isStrict]
  have hwords := wordlike_of_isIdentifierText h
  obtain ⟨c, front, hc, -, hname | hname⟩ := exists_parts_of_isIdentifierText h <;>
    rw [hname] at hwords ⊢ <;>
    exact isStrictText_cons_iff hc (wordlike_cons_iff.mp hwords).2

/-- A line feed in an identifier is its last character, and the rest is strict. -/
theorem exists_strict_of_isIdentifier (h : isIdentifier name = true) :
    ∃ stem, isStrict stem = true ∧ (name = stem ∨ name = stem ++ "\n") := by
  obtain ⟨c, front, hc, hfront, hname⟩ := exists_parts_of_isIdentifierText h
  refine ⟨String.ofList (c :: front), by simp [isStrict, isStrictText, hc, hfront], ?_⟩
  simpa [← String.toList_inj] using hname

end Identifier

section Namespace

variable {c : Char} {sep : List Char} {pieces : List (List Char)}

theorem mem_intercalate (h : c ∈ sep.intercalate pieces) : c ∈ sep ∨ ∃ piece ∈ pieces, c ∈ piece := by
  induction pieces with
  | nil => simp at h
  | cons piece pieces ih =>
    cases pieces with
    | nil => exact Or.inr ⟨piece, by simp, by simpa using h⟩
    | cons next pieces =>
      rw [List.intercalate_cons_cons, List.mem_append, List.mem_append] at h
      rcases h with (hpiece | hsep) | hrest
      · exact Or.inr ⟨piece, by simp, hpiece⟩
      · exact Or.inl hsep
      · refine (ih hrest).imp_right ?_
        rintro ⟨later, hlater, hc⟩
        exact ⟨later, List.mem_cons_of_mem _ hlater, hc⟩

theorem isIdentRest_or_eq_of_isNamespace {name : String} (h : isNamespace name = true)
    (hc : c ∈ name.toList) : isIdentRest c = true ∨ c = '\n' ∨ c = '.' := by
  rw [isNamespace, List.all_eq_true] at h
  have hsplit : ['.'].intercalate (name.toList.splitOn '.') = name.toList :=
    List.intercalate_splitOn '.'
  rw [← hsplit] at hc
  rcases mem_intercalate hc with hpoint | ⟨piece, hpiece, hc⟩
  · exact Or.inr (Or.inr (List.mem_singleton.mp hpoint))
  · exact (wordlike_of_isIdentifierText (h piece hpiece) c hc).imp_right Or.inl

end Namespace

section Snake

variable {c : Char} {cs : List Char}

theorem mem_snakeTail (h : c ∈ snakeTail cs) :
    c = '_' ∨ c ∈ cs ∨ ∃ d ∈ cs, c ∈ Text.lowerChar d := by
  obtain ⟨d, hd, hc⟩ := List.mem_flatMap.mp h
  split at hc
  · rcases List.mem_cons.mp hc with rfl | hc
    · exact Or.inl rfl
    · exact Or.inr (Or.inr ⟨d, hd, hc⟩)
  · exact Or.inr (Or.inl (List.mem_singleton.mp hc ▸ hd))

theorem mem_snakeText (h : c ∈ snakeText cs) :
    c = '_' ∨ c ∈ cs ∨ ∃ d ∈ cs, c ∈ Text.lowerChar d := by
  cases cs with
  | nil => simp [snakeText] at h
  | cons e cs =>
    rw [snakeText, List.mem_append] at h
    rcases h with h | h
    · split at h
      · exact Or.inr (Or.inr ⟨e, by simp, h⟩)
      · exact Or.inr (Or.inl (by simp [List.mem_singleton.mp h]))
    · rcases mem_snakeTail h with h | h | ⟨d, hd, h⟩
      · exact Or.inl h
      · exact Or.inr (Or.inl (List.mem_cons_of_mem _ h))
      · exact Or.inr (Or.inr ⟨d, List.mem_cons_of_mem _ hd, h⟩)

theorem isIdentRest_or_mem_of_mem_snakeText (hcs : Wordlike cs) (h : c ∈ snakeText cs) :
    isIdentRest c = true ∨ c = '\n' ∧ '\n' ∈ cs := by
  have word : ∀ {d}, d ∈ cs → isIdentRest d = true ∨ d = '\n' ∧ '\n' ∈ cs := fun {d} hd =>
    (hcs d hd).imp_right fun he => ⟨he, he ▸ hd⟩
  rcases mem_snakeText h with rfl | h | ⟨d, hd, h⟩
  · exact Or.inl (by decide)
  · exact word h
  · rcases word hd with hrest | ⟨rfl, hn⟩
    · rw [Text.lowerChar_of_ascii (toNat_lt_of_isIdentRest hrest), List.mem_singleton] at h
      exact Or.inl (h ▸ isIdentRest_toLower hrest)
    · rw [Text.lowerChar_of_ascii (by decide), List.mem_singleton] at h
      exact Or.inr ⟨h, hn⟩

theorem newline_mem_snakeText (h : '\n' ∈ cs) : '\n' ∈ snakeText cs := by
  have hlower : Text.isUpper '\n' = false := by decide
  cases cs with
  | nil => simp at h
  | cons c cs =>
    rw [snakeText, List.mem_append]
    rcases List.mem_cons.mp h with rfl | h
    · exact Or.inl (by simp [hlower])
    · exact Or.inr (List.mem_flatMap.mpr ⟨'\n', h, by simp [hlower]⟩)

variable {name : String}

theorem wordlike_toSnake (h : isIdentifier name = true) : Wordlike (toSnake name).toList := by
  intro c hc
  rw [toList_toSnake] at hc
  exact (isIdentRest_or_mem_of_mem_snakeText (wordlike_of_isIdentifierText h) hc).imp_right And.left

theorem newline_mem_toSnake_iff (h : isIdentifier name = true) :
    '\n' ∈ (toSnake name).toList ↔ '\n' ∈ name.toList := by
  rw [toList_toSnake]
  refine ⟨fun hn => ?_, newline_mem_snakeText⟩
  rcases isIdentRest_or_mem_of_mem_snakeText (wordlike_of_isIdentifierText h) hn with hrest | ⟨_, hn⟩
  · exact absurd rfl (ne_newline_of_isIdentRest hrest)
  · exact hn

end Snake

end BehaviorPlan.Name
