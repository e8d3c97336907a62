import Mathlib.Data.List.TakeWhile
import BehaviorPlan.Code.Scan
import BehaviorPlan.Proofs.Name.Characters

/-! # Where a scan finds a declaration

A declaration is read from the start of a line: words and blanks up to an opening parenthesis, a
second word among them, then parameters up to a parenthesis that ends the line. Where one of these
is missing nothing is read, whatever comes later in the text. -/
namespace BehaviorPlan.Code

open Text (isBlank isWordChar)

section Classes

variable {c : Char}

def isHeadChar (c : Char) : Bool :=
  isTypeChar c || isBlank c

theorem isTypeChar_of_isWordChar (h : isWordChar c = true) : isTypeChar c = true := by
  simp [isTypeChar, h]

theorem isHeadChar_of_isTypeChar (h : isTypeChar c = true) : isHeadChar c = true := by
  simp [isHeadChar, h]

theorem isHeadChar_of_isWordChar (h : isWordChar c = true) : isHeadChar c = true :=
  isHeadChar_of_isTypeChar (isTypeChar_of_isWordChar h)

theorem isHeadChar_of_isBlank (h : isBlank c = true) : isHeadChar c = true := by
  simp [isHeadChar, h]

theorem isHeadChar_of_isSpaceOrTab (h : isSpaceOrTab c = true) : isHeadChar c = true := by
  simp only [isSpaceOrTab, Bool.or_eq_true, beq_iff_eq] at h
  rcases h with rfl | rfl <;> decide

theorem isWordChar_of_isIdentRest (h : Name.isIdentRest c = true) : isWordChar c = true :=
  Name.forall_isIdentRest (P := fun c => Name.isIdentRest c = true → isWordChar c = true)
    (by decide) h h

theorem isWordChar_of_isIdentStart (h : Name.isIdentStart c = true) : isWordChar c = true :=
  isWordChar_of_isIdentRest (Name.isIdentRest_of_isIdentStart h)

theorem isBlank_of_isIdentRest (h : Name.isIdentRest c = true) : isBlank c = false :=
  Name.forall_isIdentRest (P := fun c => Name.isIdentRest c = true → isBlank c = false)
    (by decide) h h

theorem takeWhile_exact {p : Char → Bool} {xs ys : List Char} (hxs : xs.all p = true)
    (hc : p c = false) : (xs ++ c :: ys).takeWhile p = xs := by
  rw [List.takeWhile_append_of_pos (List.all_eq_true.mp hxs),
    List.takeWhile_cons_of_neg (by simp [hc]), List.append_nil]

theorem dropWhile_exact {p : Char → Bool} {xs ys : List Char} (hxs : xs.all p = true)
    (hc : p c = false) : (xs ++ c :: ys).dropWhile p = c :: ys := by
  rw [List.dropWhile_append_of_pos (List.all_eq_true.mp hxs),
    List.dropWhile_cons_of_neg (by simp [hc])]

theorem all_imp {p q : Char → Bool} {cs : List Char} (h : ∀ c, p c = true → q c = true)
    (hp : cs.all p = true) : cs.all q = true :=
  List.all_eq_true.mpr fun c hc => h c (List.all_eq_true.mp hp c hc)

theorem not_mem_of_all {p : Char → Bool} {cs : List Char} (h : cs.all p = true)
    (hc : p c = false) : c ∉ cs :=
  fun hm => absurd (hc.symm.trans (List.all_eq_true.mp h c hm)) nofun

theorem newline_not_mem_of_all {lead : List Char} (h : lead.all isSpaceOrTab = true) :
    '\n' ∉ lead :=
  not_mem_of_all h (by decide)

end Classes

section Head

def hasSecondWord (cs : List Char) : Bool :=
  (cs.dropWhile (!isBlank ·)).any Name.isIdentStart

theorem hasSecondWord_append {xs ys : List Char} (h : hasSecondWord ys = true) :
    hasSecondWord (xs ++ ys) = true := by
  rw [hasSecondWord, List.dropWhile_append]
  split
  · exact h
  · obtain ⟨c, hc, hstart⟩ := List.any_eq_true.mp h
    have hmem : c ∈ ys := (List.dropWhile_sublist _).subset hc
    exact List.any_eq_true.mpr ⟨c, List.mem_append_right _ hmem, hstart⟩

theorem hasSecondWord_of_blanks {blanks ys : List Char} (hne : blanks ≠ [])
    (hblanks : blanks.all isBlank = true) (h : ys.any Name.isIdentStart = true) :
    hasSecondWord (blanks ++ ys) = true := by
  cases blanks with
  | nil => exact absurd rfl hne
  | cons b blanks =>
    have hb : isBlank b = true := (List.all_eq_true.mp hblanks) b (by simp)
    have hstop : (b :: blanks ++ ys).dropWhile (!isBlank ·) = b :: blanks ++ ys :=
      List.dropWhile_cons_of_neg (by simp [hb])
    rw [hasSecondWord, hstop, List.any_append, h, Bool.or_true]

/-- What stands before parameters: words and blanks, and then the parameters to the end of the
line. -/
def Calls (cs head : List Char) : Prop :=
  ∃ after, cs = head ++ '(' :: after ∧ head.all isHeadChar = true ∧
    atLineEnd (after.dropWhile isParameterChar) = true

theorem Calls.prepend {cs head xs : List Char} (h : Calls cs head)
    (hxs : xs.all isHeadChar = true) : Calls (xs ++ cs) (xs ++ head) := by
  obtain ⟨after, rfl, hhead, hend⟩ := h
  exact ⟨after, (List.append_assoc ..).symm, by simp [hxs, hhead], hend⟩

theorem atLineEnd_of_parameters? {name cs : List Char} {s : Signature}
    (h : parameters? name cs = some s) : atLineEnd (cs.dropWhile isParameterChar) = true := by
  simp only [parameters?] at h
  split at h
  · rename_i hend
    exact hend.1
  · simp at h

theorem calls_of_named? {cs : List Char} {s : Signature} (h : named? cs = some s) :
    ∃ head, Calls cs head ∧ head.any Name.isIdentStart = true := by
  simp only [named?] at h
  split at h
  · rename_i hstart
    split at h
    · simp at h
    · rename_i c after hrest
      split at h
      · rename_i hparen
        subst hparen
        have hcalls : Calls ('(' :: after) [] := ⟨after, rfl, rfl, atLineEnd_of_parameters? h⟩
        have hblanks : ((cs.dropWhile isWordChar).takeWhile isBlank).all isHeadChar = true :=
          all_imp (fun _ => isHeadChar_of_isBlank) List.all_takeWhile
        have hwords : (cs.takeWhile isWordChar).all isHeadChar = true :=
          all_imp (fun _ => isHeadChar_of_isWordChar) List.all_takeWhile
        have hcs := (hcalls.prepend hblanks).prepend hwords
        rw [← hrest, List.takeWhile_append_dropWhile, List.takeWhile_append_dropWhile,
          List.append_nil] at hcs
        refine ⟨_, hcs, ?_⟩
        cases cs with
        | nil => simp at hstart
        | cons d ds =>
          have hd : Name.isIdentStart d = true := by simpa using hstart
          have htake : (d :: ds).takeWhile isWordChar = d :: ds.takeWhile isWordChar :=
            List.takeWhile_cons_of_pos (isWordChar_of_isIdentStart hd)
          rw [htake, List.cons_append, List.any_cons, hd, Bool.true_or]
      · simp at h
  · simp at h

/-- What a declaration starts with: words and blanks, with the start of a name after the first
blank. -/
def Headed (cs : List Char) : Prop :=
  cs.head?.any Name.isIdentStart = true ∧ ∃ head, Calls cs head ∧ hasSecondWord head = true

theorem Headed.prepend {cs xs : List Char} (h : Headed cs) (hxs : xs.all isHeadChar = true)
    (hstart : xs.head?.any Name.isIdentStart = true) : Headed (xs ++ cs) := by
  obtain ⟨-, head, hcalls, hsecond⟩ := h
  refine ⟨?_, xs ++ head, hcalls.prepend hxs, hasSecondWord_append hsecond⟩
  cases xs with
  | nil => simp at hstart
  | cons x xs => exact hstart

theorem exists_of_afterBlanks? {cs rest : List Char} (h : afterBlanks? cs = some rest) :
    ∃ blanks, blanks ≠ [] ∧ blanks.all isBlank = true ∧ cs = blanks ++ rest := by
  cases cs with
  | nil => simp [afterBlanks?] at h
  | cons b cs =>
    simp only [afterBlanks?] at h
    split at h
    · rename_i hb
      obtain rfl := Option.some.inj h
      refine ⟨b :: cs.takeWhile isBlank, List.cons_ne_nil _ _, ?_, ?_⟩
      · rw [List.all_cons, hb, List.all_takeWhile, Bool.and_true]
      · rw [List.cons_append, List.takeWhile_append_dropWhile]
    · simp at h

theorem headed_of_signature? {cs : List Char} {s : Signature} (h : signature? cs = some s) :
    Headed cs := by
  simp only [signature?] at h
  split at h
  · rename_i hstart
    obtain ⟨rest, hrest, hnamed⟩ := Option.bind_eq_some_iff.mp h
    obtain ⟨head, hcalls, hname⟩ := calls_of_named? hnamed
    obtain ⟨blanks, hne, hblanks, hsplit⟩ := exists_of_afterBlanks? hrest
    have htype : (cs.takeWhile isTypeChar).all isHeadChar = true :=
      all_imp (fun _ => isHeadChar_of_isTypeChar) List.all_takeWhile
    have hcs := (hcalls.prepend (all_imp (fun _ => isHeadChar_of_isBlank) hblanks)).prepend htype
    rw [← hsplit, List.takeWhile_append_dropWhile] at hcs
    exact ⟨hstart.1, _, hcs, hasSecondWord_append (hasSecondWord_of_blanks hne hblanks hname)⟩
  · simp at h

theorem isIdentRest_modifiers : ∀ m ∈ modifiers,
    m.toList.all Name.isIdentRest = true ∧ m.toList.head?.any Name.isIdentStart = true := by
  decide

theorem headed_of_afterModifier? {cs rest : List Char} (h : afterModifier? cs = some rest)
    (hrest : Headed rest) : Headed cs := by
  obtain ⟨m, hm, hafter⟩ := Option.bind_eq_some_iff.mp h
  obtain ⟨blanks, -, hblanks, hsplit⟩ := exists_of_afterBlanks? hafter
  obtain ⟨hword, hstart⟩ := isIdentRest_modifiers m (List.mem_of_find?_eq_some hm)
  have hfound := List.find?_some hm
  have hprefix : m.toList <+: cs := List.isPrefixOf_iff_prefix.mp hfound
  have hcs : cs = (m.toList ++ blanks) ++ rest := by
    rw [List.append_assoc, ← hsplit, ← String.length_toList, List.prefix_iff_eq_append.mp hprefix]
  rw [hcs]
  apply hrest.prepend
  · rw [List.all_append, Bool.and_eq_true]
    exact ⟨all_imp (fun _ hc => isHeadChar_of_isWordChar (isWordChar_of_isIdentRest hc)) hword,
      all_imp (fun _ => isHeadChar_of_isBlank) hblanks⟩
  · cases hchars : m.toList with
    | nil => simp [hchars] at hstart
    | cons c ds => simpa [hchars] using hstart

theorem headed_of_mem_afterModifiers {cs rest : List Char} (h : rest ∈ afterModifiers cs)
    (hrest : Headed rest) : Headed cs := by
  fun_induction afterModifiers cs with
  | case1 cs next hnext ih =>
    rcases List.mem_append.mp h with h | h
    · exact headed_of_afterModifier? hnext (ih h)
    · rwa [← List.mem_singleton.mp h]
  | case2 cs _ => rwa [← List.mem_singleton.mp h]

theorem headed_of_declarationAt? {line : List Char} {d : List Char × Signature}
    (h : declarationAt? line = some d) : Headed (line.dropWhile isSpaceOrTab) := by
  obtain ⟨s, hs, -⟩ := Option.map_eq_some_iff.mp h
  obtain ⟨rest, hmem, hrest⟩ := List.exists_of_findSome?_eq_some hs
  exact headed_of_mem_afterModifiers hmem (headed_of_signature? hrest)

end Head

section Idle

/-- The line starts with something that is no name. -/
def isAside (line : List Char) : Bool :=
  (line.dropWhile isSpaceOrTab).head?.any (!Name.isIdentStart ·)

def isSingle (line : List Char) : Bool :=
  line.any (!isHeadChar ·) &&
    !hasSecondWord ((line.dropWhile isSpaceOrTab).takeWhile isHeadChar)

/-- The words at the start of the line end in something other than parameters, or the parameters
end inside of the line. -/
def isStopped (line : List Char) : Bool :=
  match line.dropWhile isHeadChar with
  | [] => false
  | c :: after => c != '(' || (after.dropWhile isParameterChar).head?.any (· != '\n')

/-- No declaration starts with the line, however it goes on. -/
def isIdle (line : List Char) : Bool :=
  isAside line || isSingle line || isStopped line

variable {line rest : List Char}

theorem not_declarationAt?_of_not_headed (h : ¬ Headed (line.dropWhile isSpaceOrTab)) :
    declarationAt? line = none := by
  cases hd : declarationAt? line with
  | none => rfl
  | some d => exact absurd (headed_of_declarationAt? hd) h

theorem Calls.eq_takeWhile {cs head : List Char} (h : Calls cs head) :
    head = cs.takeWhile isHeadChar ∧ ∃ after, cs.dropWhile isHeadChar = '(' :: after ∧
      atLineEnd (after.dropWhile isParameterChar) = true := by
  obtain ⟨after, rfl, hhead, hend⟩ := h
  have hparen : isHeadChar '(' = false := by decide
  exact ⟨(takeWhile_exact hhead hparen).symm, after, dropWhile_exact hhead hparen, hend⟩

theorem declarationAt?_of_isAside (h : isAside line = true) : declarationAt? line = none := by
  apply not_declarationAt?_of_not_headed
  rintro ⟨hstart, -⟩
  rw [isAside] at h
  cases hline : (line.dropWhile isSpaceOrTab).head? with
  | none => simp [hline] at h
  | some c => simp_all

theorem declarationAt?_of_isSingle (h : isSingle line = true) : declarationAt? line = none := by
  apply not_declarationAt?_of_not_headed
  rintro ⟨-, head, hcalls, hsecond⟩
  obtain ⟨rfl, -⟩ := hcalls.eq_takeWhile
  simp [isSingle, hsecond] at h

theorem isStopped_append_of_all {xs : List Char} (hxs : xs.all isHeadChar = true) :
    isStopped (xs ++ line) = isStopped line := by
  rw [isStopped, isStopped, List.dropWhile_append_of_pos (List.all_eq_true.mp hxs)]

theorem declarationAt?_of_isStopped (h : isStopped line = true) : declarationAt? line = none := by
  apply not_declarationAt?_of_not_headed
  rintro ⟨-, head, hcalls, -⟩
  have hblanks : (line.takeWhile isSpaceOrTab).all isHeadChar = true :=
    all_imp (fun _ => isHeadChar_of_isSpaceOrTab) List.all_takeWhile
  rw [← List.takeWhile_append_dropWhile (p := isSpaceOrTab) (l := line),
    isStopped_append_of_all hblanks] at h
  obtain ⟨-, after, hafter, hend⟩ := hcalls.eq_takeWhile
  rw [isStopped, hafter] at h
  cases hrest : after.dropWhile isParameterChar with
  | nil => simp [hrest] at h
  | cons c cs => simp_all [atLineEnd]

theorem isStopped_call {head params : List Char} (hhead : head.all isHeadChar = true)
    (hparams : params.all isParameterChar = true) :
    isStopped (head ++ '(' :: (params ++ ';' :: rest)) = true := by
  have hparen : isHeadChar '(' = false := by decide
  have hsemicolon : isParameterChar ';' = false := by decide
  simp only [isStopped, dropWhile_exact hhead hparen, dropWhile_exact hparams hsemicolon]
  rfl

theorem isAside_append (h : isAside line = true) : isAside (line ++ rest) = true := by
  rw [isAside] at h ⊢
  rw [List.dropWhile_append]
  cases hline : line.dropWhile isSpaceOrTab with
  | nil => simp [hline] at h
  | cons c cs => simpa [hline] using h

theorem isStopped_append (h : isStopped line = true) (rest : List Char) :
    isStopped (line ++ rest) = true := by
  rw [isStopped] at h ⊢
  rw [List.dropWhile_append]
  cases hline : line.dropWhile isHeadChar with
  | nil => simp [hline] at h
  | cons c after =>
    simp only [hline, Bool.or_eq_true] at h
    simp only [List.isEmpty_cons, Bool.false_eq_true, if_false, List.cons_append, Bool.or_eq_true]
    refine h.imp_right fun hafter => ?_
    rw [List.dropWhile_append]
    cases hparams : after.dropWhile isParameterChar with
    | nil => simp [hparams] at hafter
    | cons d ds => simpa [hparams] using hafter

theorem exists_first_of_any (h : line.any (!isHeadChar ·) = true) :
    ∃ head c tail, line = head ++ c :: tail ∧ head.all isHeadChar = true ∧
      isHeadChar c = false := by
  cases hline : line.dropWhile isHeadChar with
  | nil =>
    obtain ⟨c, hc, hnot⟩ := List.any_eq_true.mp h
    have hall := List.dropWhile_eq_nil_iff.mp hline c hc
    simp [hall] at hnot
  | cons c tail =>
    have hsplit := List.takeWhile_append_dropWhile (p := isHeadChar) (l := line)
    have hc := List.head?_dropWhile_not isHeadChar line
    rw [hline] at hsplit hc
    exact ⟨_, c, tail, hsplit.symm, List.all_takeWhile, by simpa using hc⟩

theorem takeWhile_of_first {head tail : List Char} {c : Char} (hhead : head.all isHeadChar = true)
    (hc : isHeadChar c = false) :
    ((head ++ c :: tail).dropWhile isSpaceOrTab).takeWhile isHeadChar =
      head.dropWhile isSpaceOrTab := by
  have hblank : ¬ isSpaceOrTab c = true := fun h =>
    absurd (hc.symm.trans (isHeadChar_of_isSpaceOrTab h)) nofun
  have htail : (c :: tail).takeWhile isHeadChar = [] := List.takeWhile_cons_of_neg (by simp [hc])
  have hall : ∀ d ∈ head.dropWhile isSpaceOrTab, isHeadChar d = true := fun d hd =>
    List.all_eq_true.mp hhead d ((List.dropWhile_sublist _).subset hd)
  rw [List.dropWhile_append]
  split
  · rename_i hempty
    rw [List.dropWhile_cons_of_neg hblank, htail, List.isEmpty_iff.mp hempty]
  · rw [List.takeWhile_append_of_pos hall, htail, List.append_nil]

theorem isSingle_append (h : isSingle line = true) : isSingle (line ++ rest) = true := by
  obtain ⟨hany, hsecond⟩ := (Bool.and_eq_true _ _).mp h
  obtain ⟨head, c, tail, rfl, hhead, hc⟩ := exists_first_of_any hany
  rw [takeWhile_of_first hhead hc] at hsecond
  rw [isSingle, List.append_assoc, List.cons_append, takeWhile_of_first hhead hc, hsecond,
    Bool.and_true]
  simp [hc]

/-- Nothing that follows makes a declaration of an idle line. -/
theorem declarationAt?_of_isIdle (h : isIdle line = true) :
    declarationAt? (line ++ rest) = none := by
  simp only [isIdle, Bool.or_eq_true] at h
  rcases h with (haside | hsingle) | hstopped
  · exact declarationAt?_of_isAside (isAside_append haside)
  · exact declarationAt?_of_isSingle (isSingle_append hsingle)
  · exact declarationAt?_of_isStopped (isStopped_append hstopped rest)

theorem isIdle_append_of_all {lead : List Char} (hlead : lead.all isSpaceOrTab = true)
    (h : isIdle line = true) : isIdle (lead ++ line) = true := by
  have hdrop : (lead ++ line).dropWhile isSpaceOrTab = line.dropWhile isSpaceOrTab :=
    List.dropWhile_append_of_pos (List.all_eq_true.mp hlead)
  have hstopped : isStopped (lead ++ line) = isStopped line :=
    isStopped_append_of_all (all_imp (fun _ => isHeadChar_of_isSpaceOrTab) hlead)
  simp only [isIdle, isAside, isSingle, hdrop, hstopped, List.any_append, Bool.or_eq_true,
    Bool.and_eq_true] at h ⊢
  exact h.imp_left (Or.imp_right (And.imp_left Or.inr))

end Idle

end BehaviorPlan.Code
