import Mathlib.Algebra.Order.Ring.Int
import BehaviorPlan.Code.Rule

/-! # Balanced code

The scan for literals and comments works piece by piece: text without quotes stays, a whole
literal becomes an empty one, and comments end with their lines. So the weight of a text, its
opening braces less its closing ones, adds up over its lines. -/
namespace BehaviorPlan.Code

section Scan

theorem emptyLiterals_append {xs : List Char} (h : '"' ∉ xs) (ys : List Char) :
    emptyLiterals (xs ++ ys) = xs ++ emptyLiterals ys := by
  induction xs with
  | nil => rfl
  | cons c xs ih =>
    rw [List.mem_cons, not_or] at h
    rw [List.cons_append, emptyLiterals, if_neg (Ne.symm h.1), ih h.2, List.cons_append]

theorem afterLiteral?_append {body : List Char} (hquote : '"' ∉ body) (hslash : '\\' ∉ body)
    (rest : List Char) : afterLiteral? (body ++ '"' :: rest) = some rest := by
  induction body with
  | nil => rw [List.nil_append, afterLiteral?]
  | cons c body ih =>
    rw [List.mem_cons, not_or] at hquote hslash
    have htail := ih hquote.2 hslash.2
    rw [List.cons_append, afterLiteral?]
    · exact htail
    · exact fun h => hquote.1 h.symm
    · exact fun h => absurd h.symm hslash.1
    · exact fun _ _ h => absurd h.symm hslash.1

theorem emptyLiterals_quoted {body : List Char} (hquote : '"' ∉ body) (hslash : '\\' ∉ body)
    (rest : List Char) :
    emptyLiterals ('"' :: (body ++ '"' :: rest)) = '"' :: '"' :: emptyLiterals rest := by
  rw [emptyLiterals, if_pos rfl]
  split
  · rename_i found
    rw [afterLiteral?_append hquote hslash] at found
    obtain rfl := Option.some.inj found
    rfl
  · rename_i hnone
    simp [afterLiteral?_append hquote hslash] at hnone

theorem dropComments_comment (cs : List Char) :
    dropComments ('/' :: '/' :: cs) = dropComments (cs.dropWhile (· ≠ '\n')) := by
  rw [dropComments]

theorem dropComments_cons {c : Char} {cs : List Char} (h : ∀ rest, c = '/' → cs ≠ '/' :: rest) :
    dropComments (c :: cs) = c :: dropComments cs := by
  rw [dropComments]
  exact fun rest hc hcs => h rest hc hcs

theorem dropComments_newline (xs ys : List Char) :
    dropComments (xs ++ '\n' :: ys) = dropComments xs ++ '\n' :: dropComments ys := by
  induction xs using dropComments.induct with
  | case1 => simp [dropComments]
  | case2 cs ih =>
    have hdrop : (cs ++ '\n' :: ys).dropWhile (· ≠ '\n') =
        cs.dropWhile (· ≠ '\n') ++ '\n' :: ys := by
      rw [List.dropWhile_append]
      split
      · rename_i hempty
        rw [List.isEmpty_iff.mp hempty]
        rfl
      · rfl
    rw [List.cons_append, List.cons_append, dropComments_comment, dropComments_comment, hdrop, ih]
  | case3 c cs h ih =>
    have happend : ∀ rest, c = '/' → cs ++ '\n' :: ys ≠ '/' :: rest := by
      intro rest hc hcs
      cases cs with
      | nil => simp at hcs
      | cons d cs => exact h cs hc (by rw [(List.cons.inj hcs).1])
    rw [List.cons_append, dropComments_cons happend, ih, dropComments_cons fun rest hc => h rest hc,
      List.cons_append]

theorem dropComments_sublist (cs : List Char) : (dropComments cs).Sublist cs := by
  induction cs using dropComments.induct with
  | case1 => simp [dropComments]
  | case2 cs ih =>
    rw [dropComments_comment]
    exact ((ih.trans (List.dropWhile_sublist _)).cons _).cons _
  | case3 c cs h ih =>
    rw [dropComments_cons fun rest hc hcs => h rest hc hcs]
    exact ih.cons_cons c

theorem dropComments_of_not_mem {cs : List Char} (h : '/' ∉ cs) : dropComments cs = cs := by
  induction cs with
  | nil => simp [dropComments]
  | cons c cs ih =>
    rw [List.mem_cons, not_or] at h
    rw [dropComments_cons fun _ hc => absurd hc.symm h.1, ih h.2]

end Scan

section Weight

/-- Emptying the literals of the text gives the code, whatever follows. -/
def Empties (text code : List Char) : Prop :=
  ∀ rest, emptyLiterals (text ++ rest) = code ++ emptyLiterals rest

theorem empties_of_not_mem {text : List Char} (h : '"' ∉ text) : Empties text text :=
  emptyLiterals_append h

theorem empties_quoted {body : List Char} (hquote : '"' ∉ body) (hslash : '\\' ∉ body) :
    Empties ('"' :: body ++ ['"']) ['"', '"'] := by
  intro rest
  simpa using emptyLiterals_quoted hquote hslash rest

theorem Empties.append {xs ys xs' ys' : List Char} (hx : Empties xs xs') (hy : Empties ys ys') :
    Empties (xs ++ ys) (xs' ++ ys') := by
  intro rest
  rw [List.append_assoc, hx, hy, List.append_assoc]

/-- Whatever follows, the text leaves code with so many more opening braces than closing ones, and
with its parentheses balanced. -/
def Weighs (text : List Char) (n : Int) : Prop :=
  ∃ code, (∀ rest, stripLiterals (text ++ rest) = code ++ stripLiterals rest) ∧
    (code.count '\x7b' : Int) - code.count '\x7d' = n ∧ code.count '(' = code.count ')'

theorem weighs_nil : Weighs [] 0 :=
  ⟨[], fun _ => rfl, rfl, rfl⟩

theorem Weighs.append {xs ys : List Char} {m n : Int} (hx : Weighs xs m) (hy : Weighs ys n) :
    Weighs (xs ++ ys) (m + n) := by
  obtain ⟨code, hcode, hbraces, hparens⟩ := hx
  obtain ⟨code', hcode', hbraces', hparens'⟩ := hy
  refine ⟨code ++ code', fun rest => ?_, ?_, ?_⟩
  · rw [List.append_assoc, hcode, hcode', List.append_assoc]
  · simp only [List.count_append]
    omega
  · simp only [List.count_append]
    omega

theorem Weighs.unique {text : List Char} {m n : Int} (hm : Weighs text m) (hn : Weighs text n) :
    m = n := by
  obtain ⟨code, hcode, rfl, -⟩ := hm
  obtain ⟨code', hcode', rfl, -⟩ := hn
  have hsame : code = code' := List.append_cancel_right ((hcode []).symm.trans (hcode' []))
  rw [hsame]

theorem weighs_flatMap {α : Type} {items : List α} {text : α → List Char}
    (h : ∀ a ∈ items, Weighs (text a) 0) : Weighs (items.flatMap text) 0 := by
  induction items with
  | nil => exact weighs_nil
  | cons a items ih =>
    rw [List.flatMap_cons]
    exact (h a (by simp)).append (ih fun b hb => h b (by simp [hb]))

theorem weighs_line {text code : List Char} {n : Int} (h : Empties text code)
    (hbraces : ((dropComments code).count '\x7b' : Int) - (dropComments code).count '\x7d' = n)
    (hparens : (dropComments code).count '(' = (dropComments code).count ')') :
    Weighs (text ++ ['\n']) n := by
  refine ⟨dropComments code ++ ['\n'], fun rest => ?_, ?_, ?_⟩
  · have hnewline : emptyLiterals ('\n' :: rest) = '\n' :: emptyLiterals rest := by
      rw [emptyLiterals, if_neg (by decide)]
    simp only [stripLiterals, List.append_assoc, List.singleton_append, h ('\n' :: rest), hnewline,
      dropComments_newline]
  · simpa [List.count_append] using hbraces
  · simpa [List.count_append] using hparens

/-- A text that weighs nothing has as many braces, and as many parentheses, of either side outside
literals and comments. -/
theorem count_stripLiterals_of_weighs {text : List Char} (h : Weighs text 0) :
    (stripLiterals text).count '\x7b' = (stripLiterals text).count '\x7d' ∧
      (stripLiterals text).count '(' = (stripLiterals text).count ')' := by
  obtain ⟨code, hcode, hbraces, hparens⟩ := h
  have hstrip : stripLiterals text = code := by
    have hnil : stripLiterals [] = [] := by simp [stripLiterals, emptyLiterals, dropComments]
    simpa [hnil] using hcode []
  rw [hstrip]
  exact ⟨by omega, hparens⟩

end Weight

section Lines

def isQuiet (c : Char) : Bool :=
  !(['"', '\\', '/', '\x7b', '\x7d', '(', ')'].contains c)

def Quiet (cs : List Char) : Prop :=
  ∀ c ∈ cs, isQuiet c = true

instance (cs : List Char) : Decidable (Quiet cs) :=
  decidable_of_iff (cs.all isQuiet = true) List.all_eq_true

theorem Quiet.not_mem {cs : List Char} (h : Quiet cs) {c : Char} (hc : isQuiet c = false) :
    c ∉ cs :=
  fun hm => Bool.false_ne_true (hc.symm.trans (h c hm))

theorem Quiet.append {xs ys : List Char} (hx : Quiet xs) (hy : Quiet ys) : Quiet (xs ++ ys) :=
  fun c hc => (List.mem_append.mp hc).elim (hx c) (hy c)

/-- A character that neither quotes nor counts. It may start a comment. -/
def isPlain (c : Char) : Bool :=
  !(['"', '\x7b', '\x7d', '(', ')'].contains c)

def Plain (cs : List Char) : Prop :=
  ∀ c ∈ cs, isPlain c = true

instance (cs : List Char) : Decidable (Plain cs) :=
  decidable_of_iff (cs.all isPlain = true) List.all_eq_true

theorem Quiet.plain {cs : List Char} (h : Quiet cs) : Plain cs := by
  intro c hc
  have hq := h c hc
  simp [isQuiet, isPlain] at hq ⊢
  tauto

theorem Plain.append {xs ys : List Char} (hx : Plain xs) (hy : Plain ys) : Plain (xs ++ ys) :=
  fun c hc => (List.mem_append.mp hc).elim (hx c) (hy c)

theorem Plain.not_mem {cs : List Char} (h : Plain cs) {c : Char} (hc : isPlain c = false) :
    c ∉ cs :=
  fun hm => Bool.false_ne_true (hc.symm.trans (h c hm))

theorem weighs_plain {text : List Char} (h : Plain text) : Weighs (text ++ ['\n']) 0 := by
  have hsub := dropComments_sublist text
  have hzero : ∀ c, isPlain c = false → (dropComments text).count c = 0 := fun c hc =>
    List.count_eq_zero.mpr fun hm => h.not_mem hc (hsub.subset hm)
  refine weighs_line (empties_of_not_mem (h.not_mem rfl)) ?_ ?_
  · rw [hzero _ rfl, hzero _ rfl]
    rfl
  · rw [hzero _ rfl, hzero _ rfl]

/-- Code around something else: the parentheses of both parts together balance. -/
def isFrame (before after : List Char) : Bool :=
  (before ++ after).all (fun c => !(['"', '/', '\x7b', '\x7d'].contains c)) &&
    (before ++ after).count '(' == (before ++ after).count ')'

theorem not_mem_of_isFrame {before after : List Char} (h : isFrame before after = true) {c : Char}
    (hc : ['"', '/', '\x7b', '\x7d'].contains c = true) : c ∉ before ∧ c ∉ after := by
  simp only [isFrame, Bool.and_eq_true, List.all_eq_true] at h
  have hnot : c ∉ before ++ after := fun hm => by
    have := h.1 c hm
    simp_all
  rwa [List.mem_append, not_or] at hnot

theorem weighs_framed {lead before middle after code : List Char} (hlead : Quiet lead)
    (h : isFrame before after = true) (hmiddle : Empties middle code) (hslash : '/' ∉ code)
    (hcount : ∀ c ∈ ['\x7b', '\x7d', '(', ')'], c ∉ code) :
    Weighs (lead ++ (before ++ middle ++ after) ++ ['\n']) 0 := by
  have hquote := not_mem_of_isFrame (c := '"') h rfl
  have hcomment := not_mem_of_isFrame (c := '/') h rfl
  have hopen := not_mem_of_isFrame (c := '\x7b') h rfl
  have hclose := not_mem_of_isFrame (c := '\x7d') h rfl
  have hleadSlash : '/' ∉ lead := hlead.not_mem rfl
  have hempties :
      Empties (lead ++ (before ++ middle ++ after)) (lead ++ (before ++ code ++ after)) :=
    (empties_of_not_mem (hlead.not_mem rfl)).append
      (((empties_of_not_mem hquote.1).append hmiddle).append (empties_of_not_mem hquote.2))
  have hdrop :
      dropComments (lead ++ (before ++ code ++ after)) = lead ++ (before ++ code ++ after) :=
    dropComments_of_not_mem (by simp [hleadSlash, hcomment, hslash])
  have hlead0 : ∀ c, isQuiet c = false → lead.count c = 0 := fun c hc =>
    List.count_eq_zero.mpr (hlead.not_mem hc)
  have hcode0 : ∀ c ∈ ['\x7b', '\x7d', '(', ')'], code.count c = 0 := fun c hc =>
    List.count_eq_zero.mpr (hcount c hc)
  refine weighs_line hempties ?_ ?_
  · rw [hdrop]
    simp [List.count_append, hlead0, hcode0, isQuiet, List.count_eq_zero.mpr hopen.1,
      List.count_eq_zero.mpr hopen.2, List.count_eq_zero.mpr hclose.1,
      List.count_eq_zero.mpr hclose.2]
  · rw [hdrop]
    simp only [isFrame, Bool.and_eq_true, beq_iff_eq, List.count_append] at h
    have hparens := h.2
    simp [List.count_append, hlead0, hcode0, isQuiet]
    omega

theorem weighs_around {lead before middle after : List Char} (hlead : Quiet lead)
    (h : isFrame before after = true) (hmiddle : Quiet middle) :
    Weighs (lead ++ (before ++ middle ++ after) ++ ['\n']) 0 := by
  refine weighs_framed hlead h (empties_of_not_mem (hmiddle.not_mem rfl)) (hmiddle.not_mem rfl) ?_
  intro c hc
  refine hmiddle.not_mem ?_
  simp only [List.mem_cons, List.not_mem_nil, or_false] at hc
  rcases hc with rfl | rfl | rfl | rfl <;> rfl

theorem weighs_quoted {lead before body after : List Char} (hlead : Quiet lead)
    (h : isFrame before after = true) (hquote : '"' ∉ body) (hslash : '\\' ∉ body) :
    Weighs (lead ++ (before ++ ('"' :: body ++ ['"']) ++ after) ++ ['\n']) 0 :=
  weighs_framed hlead h (empties_quoted hquote hslash) (by simp) (by simp)

theorem weighs_brace {lead : List Char} (hlead : Quiet lead) (opening : Bool) :
    Weighs (lead ++ [if opening then '\x7b' else '\x7d'] ++ ['\n'])
      (if opening then 1 else -1) := by
  have hlead0 : ∀ c, isQuiet c = false → lead.count c = 0 := fun c hc =>
    List.count_eq_zero.mpr (hlead.not_mem hc)
  have hslash : '/' ∉ lead := hlead.not_mem rfl
  have hquote : '"' ∉ lead := hlead.not_mem rfl
  have hempties : Empties (lead ++ [if opening then '\x7b' else '\x7d'])
      (lead ++ [if opening then '\x7b' else '\x7d']) :=
    empties_of_not_mem (by cases opening <;> simp [hquote])
  have hdrop : dropComments (lead ++ [if opening then '\x7b' else '\x7d']) =
      lead ++ [if opening then '\x7b' else '\x7d'] :=
    dropComments_of_not_mem (by cases opening <;> simp [hslash])
  refine weighs_line hempties ?_ ?_
  · rw [hdrop]
    cases opening <;> simp [List.count_append, hlead0, isQuiet]
  · rw [hdrop]
    cases opening <;> simp [List.count_append, hlead0, isQuiet]

end Lines

end BehaviorPlan.Code
