import BehaviorPlan.Proofs.Name.Characters

/-! # From pascal case to snake case and back

A list of lowercase words has one pascal form, in which each word is capitalized, and one snake
form, in which underscores stand between them. Each form is converted into the other, and every
name in pascal case without separators is the pascal form of some words. So on such names, and on
such joined words, each conversion undoes the other. -/
namespace BehaviorPlan.Name

open Text

section Words

theorem pascalText_append (xs ys : List Char) :
    pascalText (xs ++ '_' :: ys) = pascalText xs ++ pascalText ys := by
  have hseparator : isSeparator '_' = true := rfl
  have hsplit := List.splitOnP_append_cons xs ys hseparator
  simp only [pascalText, words, hsplit, List.filter_append, List.flatMap_append]

def isWordPart (c : Char) : Bool :=
  decide (c.toNat < 128) && !isSeparator c

/-- A lowercase ASCII letter, then ASCII characters that are neither capital letters nor
separators. -/
def isLowerWord : List Char → Bool
  | [] => false
  | c :: cs => c.isLower && cs.all fun d => isWordPart d && !d.isUpper

/-- A capital ASCII letter, then ASCII characters that are no separators. -/
def isCapitalText : List Char → Bool
  | [] => false
  | c :: cs => c.isUpper && cs.all isWordPart

variable {c : Char} {cs w : List Char} {ws : List (List Char)}

theorem isWordPart_iff : isWordPart c = true ↔ c.toNat < 128 ∧ isSeparator c = false := by
  simp [isWordPart]

theorem isIdentRest_of_isAlphanum (h : c.isAlphanum = true) : isIdentRest c = true := by
  simp [isIdentRest, h]

theorem isAlphanum_of_isUpper (h : c.isUpper = true) : c.isAlphanum = true := by
  change (c.isUpper || c.isLower || c.isDigit) = true
  rw [h]
  rfl

theorem isAlphanum_of_isLower (h : c.isLower = true) : c.isAlphanum = true := by
  change (c.isUpper || c.isLower || c.isDigit) = true
  rw [h, Bool.or_true]
  rfl

theorem isAlphanum_of_isDigit (h : c.isDigit = true) : c.isAlphanum = true := by
  change (c.isUpper || c.isLower || c.isDigit) = true
  rw [h, Bool.or_true]

theorem toLower_of_isUpper (h : c.isUpper = true) :
    c.toLower.isLower = true ∧ c.toLower.toUpper = c ∧ isWordPart c = true := by
  have hrest := isIdentRest_of_isAlphanum (isAlphanum_of_isUpper h)
  exact forall_isIdentRest (P := fun c => c.isUpper = true →
    c.toLower.isLower = true ∧ c.toLower.toUpper = c ∧ isWordPart c = true) (by decide) hrest h

theorem toUpper_of_isLower (h : c.isLower = true) :
    c.toUpper.isUpper = true ∧ c.toUpper.toLower = c ∧ isWordPart c = true := by
  have hrest := isIdentRest_of_isAlphanum (isAlphanum_of_isLower h)
  exact forall_isIdentRest (P := fun c => c.isLower = true →
    c.toUpper.isUpper = true ∧ c.toUpper.toLower = c ∧ isWordPart c = true) (by decide) hrest h

theorem toLower_of_not_isUpper (h : c.isUpper = false) : c.toLower = c := by
  have hrange : ¬ (c.val ≥ 'A'.val ∧ c.val ≤ 'Z'.val) := of_decide_eq_false h
  exact dif_neg hrange

theorem isLowerWord_cons_iff : isLowerWord (c :: cs) = true ↔
    c.isLower = true ∧ ∀ d ∈ cs, isWordPart d = true ∧ d.isUpper = false := by
  simp [isLowerWord]

theorem isCapitalText_cons_iff : isCapitalText (c :: cs) = true ↔
    c.isUpper = true ∧ ∀ d ∈ cs, isWordPart d = true := by
  simp [isCapitalText]

theorem exists_cons_of_isLowerWord (h : isLowerWord w = true) : ∃ c cs, w = c :: cs ∧
    c.isLower = true ∧ ∀ d ∈ cs, isWordPart d = true ∧ d.isUpper = false := by
  cases w with
  | nil => simp [isLowerWord] at h
  | cons c cs => exact ⟨c, cs, rfl, isLowerWord_cons_iff.mp h⟩

theorem pascalWord_of_lower (hc : c.isLower = true)
    (hcs : ∀ d ∈ cs, isWordPart d = true ∧ d.isUpper = false) :
    pascalWord (c :: cs) = c.toUpper :: cs := by
  have hascii : ∀ d ∈ cs, d.toNat < 128 := fun d hd => (isWordPart_iff.mp (hcs d hd).1).1
  have hsame : cs.map Char.toLower = cs :=
    (List.map_congr_left fun d hd => toLower_of_not_isUpper (hcs d hd).2).trans (List.map_id cs)
  rw [pascalWord, upperChar_of_ascii (isWordPart_iff.mp (toUpper_of_isLower hc).2.2).1,
    lower_of_ascii cs hascii, hsame, List.singleton_append]

theorem pascalText_of_word (hne : w ≠ []) (h : ∀ d ∈ w, isWordPart d = true) :
    pascalText w = pascalWord w := by
  have hsplit : w.splitOnP isSeparator = [w] :=
    List.splitOnP_eq_singleton fun d hd => (isWordPart_iff.mp (h d hd)).2
  simp [pascalText, words, hsplit, hne]

theorem snakeTail_of_lower (h : ∀ d ∈ cs, isWordPart d = true ∧ d.isUpper = false) :
    snakeTail cs = cs := by
  induction cs with
  | nil => rfl
  | cons d cs ih =>
    obtain ⟨⟨hpart, hlower⟩, hcs⟩ := List.forall_mem_cons.mp h
    have hd : isUpper d = false := by
      rw [isUpper_of_ascii (isWordPart_iff.mp hpart).1, hlower]
    rw [snakeTail, List.flatMap_cons, hd, if_neg Bool.false_ne_true]
    exact congrArg (d :: ·) (ih hcs)

theorem snakeText_cons_of_isUpper (h : c.isUpper = true) :
    snakeText (c :: cs) = c.toLower :: snakeTail cs := by
  have hascii := (isWordPart_iff.mp (toLower_of_isUpper h).2.2).1
  rw [snakeText, isUpper_of_ascii hascii, if_pos h, lowerChar_of_ascii hascii,
    List.singleton_append]

theorem snakeTail_cons_of_isUpper (h : c.isUpper = true) :
    snakeTail (c :: cs) = '_' :: snakeText (c :: cs) := by
  have hascii := (isWordPart_iff.mp (toLower_of_isUpper h).2.2).1
  rw [snakeText_cons_of_isUpper h, snakeTail, List.flatMap_cons, isUpper_of_ascii hascii, if_pos h,
    lowerChar_of_ascii hascii]
  rfl

end Words

section Forms

variable {c : Char} {cs w : List Char} {ws : List (List Char)}

def snakeForm (ws : List (List Char)) : List Char :=
  ['_'].intercalate ws

/-- Words with a capital letter each. -/
def pascalForm (ws : List (List Char)) : List Char :=
  ws.flatMap pascalWord

theorem snakeForm_cons_cons (w next : List Char) (ws : List (List Char)) :
    snakeForm (w :: next :: ws) = w ++ '_' :: snakeForm (next :: ws) := by
  simp [snakeForm, List.intercalate_cons_cons]

theorem pascalForm_cons (w : List Char) (ws : List (List Char)) :
    pascalForm (w :: ws) = pascalWord w ++ pascalForm ws :=
  List.flatMap_cons

theorem pascalText_snakeForm (h : ∀ w ∈ ws, isLowerWord w = true) :
    pascalText (snakeForm ws) = pascalForm ws := by
  induction ws with
  | nil => rfl
  | cons w ws ih =>
    obtain ⟨hw, hws⟩ := List.forall_mem_cons.mp h
    obtain ⟨c, cs, rfl, hc, hcs⟩ := exists_cons_of_isLowerWord hw
    have hparts : ∀ d ∈ c :: cs, isWordPart d = true :=
      List.forall_mem_cons.mpr ⟨(toUpper_of_isLower hc).2.2, fun d hd => (hcs d hd).1⟩
    have hword := pascalText_of_word (List.cons_ne_nil c cs) hparts
    cases ws with
    | nil => simpa [snakeForm, pascalForm] using hword
    | cons next ws => rw [snakeForm_cons_cons, pascalText_append, hword, ih hws, ← pascalForm_cons]

theorem pascalForm_of_lower (hc : c.isLower = true)
    (hcs : ∀ d ∈ cs, isWordPart d = true ∧ d.isUpper = false) (ws : List (List Char)) :
    pascalForm ((c :: cs) :: ws) = c.toUpper :: (cs ++ pascalForm ws) := by
  rw [pascalForm_cons, pascalWord_of_lower hc hcs, List.cons_append]

theorem snakeText_pascalForm (h : ∀ w ∈ ws, isLowerWord w = true) :
    snakeText (pascalForm ws) = snakeForm ws := by
  induction ws with
  | nil => rfl
  | cons w ws ih =>
    obtain ⟨hw, hws⟩ := List.forall_mem_cons.mp h
    obtain ⟨c, cs, rfl, hc, hcs⟩ := exists_cons_of_isLowerWord hw
    obtain ⟨hupper, hlower, -⟩ := toUpper_of_isLower hc
    have hfirst : snakeText (pascalForm ((c :: cs) :: ws)) =
        c :: cs ++ snakeTail (pascalForm ws) := by
      rw [pascalForm_of_lower hc hcs, snakeText_cons_of_isUpper hupper, hlower, snakeTail_append,
        snakeTail_of_lower hcs, List.cons_append]
    rw [hfirst]
    cases ws with
    | nil => simp [pascalForm, snakeTail, snakeForm]
    | cons next ws =>
      -- The capital letter that starts the next word brings the underscore.
      obtain ⟨d, ds, rfl, hd, hds⟩ := exists_cons_of_isLowerWord (hws next (List.mem_cons_self ..))
      have hnext := pascalForm_of_lower hd hds ws
      rw [snakeForm_cons_cons, ← ih hws, hnext,
        snakeTail_cons_of_isUpper (toUpper_of_isLower hd).1]

/-- What stands before the first capital letter belongs to a word that began earlier; from there on
every capital letter begins a word. -/
theorem exists_pascalForm_of_parts (h : ∀ d ∈ cs, isWordPart d = true) :
    ∃ front ws, (∀ d ∈ front, isWordPart d = true ∧ d.isUpper = false) ∧
      (∀ w ∈ ws, isLowerWord w = true) ∧ cs = front ++ pascalForm ws := by
  induction cs with
  | nil => exact ⟨[], [], by simp, by simp, rfl⟩
  | cons d cs ih =>
    obtain ⟨hd, hcs⟩ := List.forall_mem_cons.mp h
    obtain ⟨front, ws, hfront, hws, hsplit⟩ := ih hcs
    cases hupper : d.isUpper with
    | true =>
      obtain ⟨hlower, hback, -⟩ := toLower_of_isUpper hupper
      refine ⟨[], (d.toLower :: front) :: ws, by simp, List.forall_mem_cons.mpr ⟨?_, hws⟩, ?_⟩
      · exact isLowerWord_cons_iff.mpr ⟨hlower, hfront⟩
      · rw [pascalForm_of_lower hlower hfront, hback, ← hsplit, List.nil_append]
    | false =>
      refine ⟨d :: front, ws, List.forall_mem_cons.mpr ⟨⟨hd, hupper⟩, hfront⟩, hws, ?_⟩
      rw [hsplit, List.cons_append]

theorem exists_pascalForm_of_isCapitalText (h : isCapitalText cs = true) :
    ∃ ws, (∀ w ∈ ws, isLowerWord w = true) ∧ cs = pascalForm ws := by
  cases cs with
  | nil => simp [isCapitalText] at h
  | cons c cs =>
    obtain ⟨hc, hcs⟩ := isCapitalText_cons_iff.mp h
    obtain ⟨front, ws, hfront, hws, hsplit⟩ := exists_pascalForm_of_parts hcs
    obtain ⟨hlower, hback, -⟩ := toLower_of_isUpper hc
    refine ⟨(c.toLower :: front) :: ws, List.forall_mem_cons.mpr ⟨?_, hws⟩, ?_⟩
    · exact isLowerWord_cons_iff.mpr ⟨hlower, hfront⟩
    · rw [pascalForm_of_lower hlower hfront, hback, ← hsplit]

end Forms

def isCapitalized : List Char → Bool
  | [] => false
  | c :: cs => c.isUpper && cs.all Char.isAlphanum

/-- A lowercase ASCII letter, then lowercase ASCII letters and digits. -/
def isPlainWord : List Char → Bool
  | [] => false
  | c :: cs => c.isLower && cs.all fun d => d.isLower || d.isDigit

/-- An identifier in pascal case without underscores. -/
def isCompact (name : String) : Bool :=
  isPascal name && !name.toList.contains '_'

section Domains

variable {name other : String} {c : Char} {cs : List Char}

theorem isWordPart_of_isIdentRest (h : isIdentRest c = true) (hne : c ≠ '_') :
    isWordPart c = true :=
  forall_isIdentRest (P := fun c => c ≠ '_' → isIdentRest c = true → isWordPart c = true)
    (by decide) h hne h

theorem isCapitalText_of_isCapitalized (h : isCapitalized cs = true) : isCapitalText cs = true := by
  cases cs with
  | nil => exact h
  | cons c cs =>
    rw [isCapitalized, Bool.and_eq_true, List.all_eq_true] at h
    refine isCapitalText_cons_iff.mpr ⟨h.1, fun d hd => ?_⟩
    have hd := h.2 d hd
    refine isWordPart_of_isIdentRest (isIdentRest_of_isAlphanum hd) ?_
    rintro rfl
    exact absurd hd (by decide)

theorem isLowerWord_of_isPlainWord (h : isPlainWord cs = true) : isLowerWord cs = true := by
  cases cs with
  | nil => exact h
  | cons c cs =>
    rw [isPlainWord, Bool.and_eq_true, List.all_eq_true] at h
    refine isLowerWord_cons_iff.mpr ⟨h.1, fun d hd => ?_⟩
    have hd := h.2 d hd
    have hrest : isIdentRest d = true := by
      rw [Bool.or_eq_true] at hd
      exact isIdentRest_of_isAlphanum (hd.elim isAlphanum_of_isLower isAlphanum_of_isDigit)
    exact forall_isIdentRest (P := fun d => (d.isLower || d.isDigit) = true →
      isWordPart d = true ∧ d.isUpper = false) (by decide) hrest hd

theorem isCapitalText_of_isCompact (h : isCompact name = true) :
    isCapitalText name.toList = true := by
  simp only [isCompact, isPascal, startsUpper, isIdentifier, Bool.and_eq_true, Bool.not_eq_true',
    List.contains_eq_mem, decide_eq_false_iff_not] at h
  obtain ⟨⟨hident, hupper⟩, hunderscore⟩ := h
  cases hname : name.toList with
  | nil =>
    rw [hname] at hident
    simp [isIdentifierText] at hident
  | cons c cs =>
    rw [hname] at hident hupper hunderscore
    have hwords := (wordlike_cons_iff.mp (wordlike_of_isIdentifierText hident)).2
    rw [isIdentifierText, Bool.and_eq_true] at hident
    have hascii := toNat_lt_of_isIdentRest (isIdentRest_of_isIdentStart hident.1)
    refine isCapitalText_cons_iff.mpr ⟨?_, fun d hd => ?_⟩
    · rw [← isUpper_of_ascii hascii]
      exact hupper
    · -- A line feed may end the name. It separates no words.
      rcases hwords d hd with hrest | rfl
      · refine isWordPart_of_isIdentRest hrest ?_
        rintro rfl
        exact hunderscore (List.mem_cons_of_mem c hd)
      · rfl

end Domains

/-- A name without separators that starts with a capital letter is got back from its snake form. -/
theorem toPascal_toSnake {name : String} (h : isCapitalText name.toList = true) :
    toPascal (toSnake name) = name := by
  obtain ⟨ws, hws, hname⟩ := exists_pascalForm_of_isCapitalText h
  rw [← String.toList_inj, toList_toPascal, toList_toSnake, hname, snakeText_pascalForm hws,
    pascalText_snakeForm hws]

/-- Joined lowercase words are got back from their pascal form. -/
theorem toSnake_toPascal {words : List String} (h : ∀ w ∈ words, isLowerWord w.toList = true) :
    toSnake (toPascal ("_".intercalate words)) = "_".intercalate words := by
  have hjoin : ("_".intercalate words).toList = snakeForm (words.map String.toList) :=
    String.toList_intercalate
  have hwords : ∀ w ∈ words.map String.toList, isLowerWord w = true := List.forall_mem_map.mpr h
  rw [← String.toList_inj, toList_toSnake, toList_toPascal, hjoin, pascalText_snakeForm hwords,
    snakeText_pascalForm hwords]

theorem toSnake_inj {name other : String} (h : isCapitalText name.toList = true)
    (hother : isCapitalText other.toList = true) (hsame : toSnake name = toSnake other) :
    name = other := by
  rw [← toPascal_toSnake h, hsame, toPascal_toSnake hother]

end BehaviorPlan.Name
