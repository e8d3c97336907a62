import Mathlib.Data.List.Infix
import Mathlib.Order.Bounds.Basic
import BehaviorPlan.Text.Lines

/-! # Lines on which a piece of text occurs

A piece may occur on many lines. The search finds its first occurrence, so it gives the least of
these lines. Splitting a text keeps its line numbers if every boundary is a line feed, with or
without a carriage return before it; any other boundary starts a line that the numbers do not
count. Lines that are joined by line feeds are given back by a cut at line feeds. -/
namespace BehaviorPlan.Text

theorem toList_append_ofList {xs ys : List Char} :
    (String.ofList xs ++ String.ofList ys).toList = xs ++ ys := by
  rw [String.toList_append, String.toList_ofList, String.toList_ofList]

section Occurrences

variable {piece cs xs ys : List Char} {n : Nat}

/-- The piece occurs in the text, and it starts on the given line. -/
def OnLine (piece cs : List Char) (n : Nat) : Prop :=
  ∃ before, before ++ piece <+: cs ∧ lineAfter before = n

instance : Decidable (OnLine piece cs n) :=
  decidable_of_iff (∃ before ∈ cs.inits, before ++ piece <+: cs ∧ lineAfter before = n)
    ⟨fun ⟨before, _, h⟩ => ⟨before, h⟩, fun ⟨before, hpre, hline⟩ =>
      ⟨before, List.mem_inits _ _ |>.mpr ((List.prefix_append _ _).trans hpre), hpre, hline⟩⟩

theorem OnLine.pos (h : OnLine piece cs n) : 0 < n := by
  obtain ⟨before, -, rfl⟩ := h
  exact Nat.succ_pos _

theorem OnLine.isInfix (h : OnLine piece cs n) : piece <:+: cs := by
  obtain ⟨before, ⟨after, hafter⟩, -⟩ := h
  exact ⟨before, after, hafter⟩

theorem contains_iff_isInfix : contains piece cs = true ↔ piece <:+: cs := by
  induction cs with
  | nil => by_cases h : piece = [] <;> simp [contains, before?, h]
  | cons c cs ih =>
    rw [List.infix_cons_iff, ← ih, contains, before?]
    by_cases h : piece <+: c :: cs
    · simp [h]
    · simp [h, contains]

theorem before?_le (h : before? piece cs = some xs) (hy : ys ++ piece <+: cs) : xs <+: ys := by
  induction cs generalizing xs ys with
  | nil =>
    simp only [before?] at h
    split at h <;> simp_all
  | cons c cs ih =>
    simp only [before?] at h
    split at h
    · obtain rfl := Option.some.inj h
      exact List.nil_prefix
    · rename_i hno
      obtain ⟨xs, hxs, rfl⟩ := Option.map_eq_some_iff.mp h
      cases ys with
      | nil => exact absurd (List.isPrefixOf_iff_prefix.mpr hy) hno
      | cons y ys =>
        obtain ⟨rfl, hrest⟩ := List.cons_prefix_cons.mp hy
        exact List.cons_prefix_cons.mpr ⟨rfl, ih hxs hrest⟩

theorem lineAfter_le (h : xs <+: ys) : lineAfter xs ≤ lineAfter ys :=
  Nat.succ_le_succ (h.sublist.count_le '\n')

theorem before?_map_lineAfter_iff :
    (before? piece cs).map lineAfter = some n ↔ IsLeast {n | OnLine piece cs n} n := by
  have hleast {xs : List Char} (h : before? piece cs = some xs) :
      IsLeast {n | OnLine piece cs n} (lineAfter xs) := by
    refine ⟨⟨xs, before?_prefix h, rfl⟩, ?_⟩
    rintro _ ⟨ys, hy, rfl⟩
    exact lineAfter_le (before?_le h hy)
  constructor
  · intro h
    obtain ⟨xs, hxs, rfl⟩ := Option.map_eq_some_iff.mp h
    exact hleast hxs
  · intro h
    obtain ⟨xs, hxs⟩ := Option.isSome_iff_exists.mp (contains_iff_isInfix.mpr h.1.isInfix)
    rw [hxs, Option.map_some, (hleast hxs).unique h]

end Occurrences

section Splitting

variable {piece cs xs line : List Char} {c : Char}

/-- The piece cannot be spread over several lines. -/
structure IsInline (piece : List Char) : Prop where
  ne_nil : piece ≠ []
  inside : piece.all (!isLineBoundary ·) = true

/-- Every line boundary is a line feed, perhaps with a carriage return before it. -/
def hasPlainLines : List Char → Bool
  | [] => true
  | '\r' :: '\n' :: cs => hasPlainLines cs
  | c :: cs => (c == '\n' || !isLineBoundary c) && hasPlainLines cs

theorem IsInline.not_mem (h : IsInline piece) (hc : isLineBoundary c = true) : c ∉ piece := by
  intro hmem
  simpa [hc] using List.all_eq_true.mp h.inside c hmem

theorem prefix_append_cons_iff (hc : c ∉ piece) : piece <+: xs ++ c :: cs ↔ piece <+: xs := by
  refine ⟨fun h => ?_, fun h => h.trans (List.prefix_append _ _)⟩
  have hline : xs ++ [c] <+: xs ++ c :: cs := by simp
  rcases List.prefix_or_prefix_of_prefix h hline with h | h
  · rcases List.prefix_concat_iff.mp h with rfl | h
    · simp at hc
    · exact h
  · exact absurd (h.subset (by simp)) hc

theorem IsInline.infix_concat_iff (h : IsInline piece) (hc : isLineBoundary c = true) :
    piece <:+: xs ++ [c] ↔ piece <:+: xs := by
  rw [List.infix_concat_iff, List.suffix_concat_iff, or_iff_right]
  rintro (hnil | ⟨front, rfl, -⟩)
  · exact h.ne_nil hnil
  · exact h.not_mem hc (by simp)

theorem onLine_cons_iff {n : Nat} : OnLine piece (c :: cs) n ↔
    n = 1 ∧ piece <+: c :: cs ∨ ∃ m, n = m + [c].count '\n' ∧ OnLine piece cs m := by
  constructor
  · rintro ⟨before, hpre, rfl⟩
    cases before with
    | nil => exact Or.inl ⟨rfl, hpre⟩
    | cons d before =>
      obtain ⟨rfl, hrest⟩ := List.cons_prefix_cons.mp hpre
      refine Or.inr ⟨_, ?_, before, hrest, rfl⟩
      simp only [lineAfter, List.count_cons, List.count_nil]
      omega
  · rintro (⟨rfl, hpre⟩ | ⟨_, rfl, before, hpre, rfl⟩)
    · exact ⟨[], hpre, rfl⟩
    · refine ⟨c :: before, List.cons_prefix_cons.mpr ⟨rfl, hpre⟩, ?_⟩
      simp only [lineAfter, List.count_cons, List.count_nil]
      omega

/-- A piece is either on the first line, or it is somewhere after it. -/
theorem IsInline.onLine_newline_iff (h : IsInline piece) (hxs : '\n' ∉ xs) {n : Nat} :
    OnLine piece (xs ++ '\n' :: cs) n ↔
      n = 1 ∧ piece <:+: xs ∨ ∃ m, n = m + 1 ∧ OnLine piece cs m := by
  have hnewline : '\n' ∉ piece := h.not_mem rfl
  induction xs with
  | nil =>
    have hno : ¬ piece <+: '\n' :: cs := by
      rw [← List.nil_append ('\n' :: cs), prefix_append_cons_iff hnewline, List.prefix_nil]
      exact h.ne_nil
    rw [List.nil_append, onLine_cons_iff, List.infix_nil]
    simp [hno, h.ne_nil]
  | cons x xs ih =>
    rw [List.mem_cons, not_or] at hxs
    have hcount : [x].count '\n' = 0 := List.count_eq_zero.mpr (by simpa using hxs.1)
    have hpre : piece <+: x :: (xs ++ '\n' :: cs) ↔ piece <+: x :: xs := by
      rw [← List.cons_append, prefix_append_cons_iff hnewline]
    rw [List.cons_append, onLine_cons_iff, hcount, hpre, List.infix_cons_iff]
    simp only [Nat.add_zero, exists_eq_left', ih hxs.2]
    rw [and_or_left, or_assoc]

theorem onLine_iff_of_not_mem (hcs : '\n' ∉ cs) {n : Nat} :
    OnLine piece cs n ↔ n = 1 ∧ piece <:+: cs := by
  constructor
  · rintro ⟨before, hpre, rfl⟩
    have hbefore : '\n' ∉ before := fun hmem =>
      hcs (hpre.subset (List.mem_append_left _ hmem))
    rw [lineAfter, List.count_eq_zero.mpr hbefore]
    exact ⟨rfl, OnLine.isInfix ⟨before, hpre, rfl⟩⟩
  · rintro ⟨rfl, before, after, rfl⟩
    refine ⟨before, List.prefix_append _ _, ?_⟩
    rw [lineAfter, List.count_eq_zero.mpr fun hmem => hcs (by simp [hmem])]

/-- If a line feed ends the first line and the rest is numbered alike, so is the whole. -/
theorem IsInline.onLine_newline_iff_getElem? (h : IsInline piece) (hxs : '\n' ∉ xs)
    {l : List Char} {lines : List (List Char)} (hl : piece <:+: xs ↔ piece <:+: l)
    (hlines : ∀ i, OnLine piece cs (i + 1) ↔ ∃ l, lines[i]? = some l ∧ piece <:+: l) (i : Nat) :
    OnLine piece (xs ++ '\n' :: cs) (i + 1) ↔
      ∃ l', (l :: lines)[i]? = some l' ∧ piece <:+: l' := by
  rw [h.onLine_newline_iff hxs, hl]
  cases i with
  | zero =>
    have hzero : ¬ OnLine piece cs 0 := fun hon => absurd hon.pos (Nat.lt_irrefl 0)
    simp [hzero]
  | succ i => simp [hlines]

theorem onLine_iff_getElem?_splitLinesFrom (h : IsInline piece) (hline : '\n' ∉ line)
    (hplain : hasPlainLines cs = true) (i : Nat) : OnLine piece (line.reverse ++ cs) (i + 1) ↔
      ∃ l, (splitLinesFrom line cs)[i]? = some l ∧ piece <:+: l := by
  fun_induction splitLinesFrom line cs generalizing i with
  | case1 =>
    rw [List.reverse_nil, List.nil_append, onLine_iff_of_not_mem List.not_mem_nil]
    simp [h.ne_nil]
  | case2 line hne =>
    rw [List.append_nil, onLine_iff_of_not_mem (by simpa using hline)]
    cases i <;> simp
  | case3 line cs ih =>
    have hxs : '\n' ∉ line.reverse ++ ['\r'] := by simpa using hline
    have hsplit : line.reverse ++ '\r' :: '\n' :: cs =
      (line.reverse ++ ['\r']) ++ '\n' :: cs := by simp
    rw [hsplit]
    exact h.onLine_newline_iff_getElem? hxs (h.infix_concat_iff rfl) (ih List.not_mem_nil hplain) i
  | case4 line c cs hcr hc ih =>
    rw [hasPlainLines.eq_3 _ _ hcr, hc] at hplain
    simp only [Bool.not_true, Bool.or_false, Bool.and_eq_true, beq_iff_eq] at hplain
    obtain ⟨rfl, hplain⟩ := hplain
    exact h.onLine_newline_iff_getElem? (by simpa using hline) Iff.rfl
      (ih List.not_mem_nil hplain) i
  | case5 line c cs hcr hc ih =>
    rw [hasPlainLines.eq_3 _ _ hcr, Bool.and_eq_true] at hplain
    have hne : c ≠ '\n' := by
      rintro rfl
      exact hc rfl
    have hnext : '\n' ∉ c :: line := by simp [hline, hne.symm]
    simpa using ih hnext hplain.2 i

theorem onLine_iff_getElem?_splitLines (h : IsInline piece) (hplain : hasPlainLines cs = true)
    (i : Nat) : OnLine piece cs (i + 1) ↔
      ∃ l, (splitLines cs)[i]? = some l ∧ contains piece l = true := by
  simp only [contains_iff_isInfix]
  exact onLine_iff_getElem?_splitLinesFrom h List.not_mem_nil hplain i

end Splitting

section Joining

variable {lines : List String}

theorem splitOn_unlines (hne : lines ≠ []) (h : ∀ line ∈ lines, '\n' ∉ line.toList) :
    (unlines lines).toList.splitOn '\n' = lines.map String.toList ++ [[]] := by
  have htext : (unlines lines).toList =
      ['\n'].intercalate (lines.map String.toList) ++ '\n' :: [] := by
    simp [unlines]
  rw [htext, List.splitOn_append_cons_self, List.splitOn_intercalate, List.splitOn_nil]
  · simpa using h
  · simpa using hne

end Joining

end BehaviorPlan.Text
