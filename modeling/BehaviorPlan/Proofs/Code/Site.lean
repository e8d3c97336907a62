import BehaviorPlan.Proofs.Code.Scanning
import BehaviorPlan.Proofs.Text.Lines

/-! # Where the scanned methods stand

The scan hands on the text of a declaration, not its place. Here the same scan keeps the places:
each method comes with the rest of the text from its declaration on. The methods are those of the
scan, each declaration is the text at its own place, and the places follow each other line by
line. -/
namespace BehaviorPlan.Code

open Text (lineAfter OnLine)

section Closing

variable {cs ds text : List Char} {s : Signature}

/-- The declaration ends in a parenthesis, and then come the blanks and the rest. -/
def Closes (s : Signature) (cs : List Char) : Prop :=
  ∃ front, cs = front ++ ')' :: (s.trailing.reverse ++ s.rest)

theorem Closes.of_suffix (h : Closes s cs) (hsuffix : cs <:+ ds) : Closes s ds := by
  obtain ⟨front, rfl⟩ := h
  obtain ⟨before, rfl⟩ := hsuffix
  exact ⟨before ++ front, (List.append_assoc ..).symm⟩

theorem closes_of_parameters? {name : List Char} (h : parameters? name cs = some s) :
    Closes s cs := by
  simp only [parameters?] at h
  split at h
  · rename_i hend
    obtain rfl := Option.some.inj h
    obtain ⟨front, hfront⟩ := List.head?_eq_some_iff.mp hend.2
    have hinside : cs.takeWhile isParameterChar = front.reverse ++
        ')' :: ((cs.takeWhile isParameterChar).reverse.takeWhile isSpaceOrTab).reverse := by
      rw [← List.reverse_inj, List.reverse_append, List.reverse_cons, List.reverse_reverse,
        List.reverse_reverse, List.append_assoc, List.singleton_append, ← hfront,
        List.takeWhile_append_dropWhile]
    have hsplit := congrArg (· ++ cs.dropWhile isParameterChar) hinside
    simp only [List.takeWhile_append_dropWhile, List.append_assoc, List.cons_append] at hsplit
    exact ⟨front.reverse, hsplit⟩
  · simp at h

theorem closes_of_named? (h : named? cs = some s) : Closes s cs := by
  simp only [named?] at h
  split at h
  · split at h
    · simp at h
    · rename_i c after hafter
      split at h
      · have hsuffix : c :: after <:+ cs :=
          hafter ▸ (List.dropWhile_suffix _).trans (List.dropWhile_suffix _)
        exact (closes_of_parameters? h).of_suffix ((List.suffix_cons _ _).trans hsuffix)
      · simp at h
  · simp at h

theorem suffix_of_afterBlanks? {rest : List Char} (h : afterBlanks? cs = some rest) :
    rest <:+ cs := by
  obtain ⟨blanks, -, -, rfl⟩ := exists_of_afterBlanks? h
  exact List.suffix_append _ _

theorem closes_of_signature? (h : signature? cs = some s) : Closes s cs := by
  simp only [signature?] at h
  split at h
  · obtain ⟨rest, hrest, hnamed⟩ := Option.bind_eq_some_iff.mp h
    exact (closes_of_named? hnamed).of_suffix
      ((suffix_of_afterBlanks? hrest).trans (List.dropWhile_suffix _))
  · simp at h

theorem suffix_of_afterModifier? {rest : List Char} (h : afterModifier? cs = some rest) :
    rest <:+ cs := by
  obtain ⟨m, -, hafter⟩ := Option.bind_eq_some_iff.mp h
  exact (suffix_of_afterBlanks? hafter).trans (List.drop_suffix _ _)

theorem suffix_of_mem_afterModifiers {rest : List Char} (h : rest ∈ afterModifiers cs) :
    rest <:+ cs := by
  fun_induction afterModifiers cs with
  | case1 cs next hnext ih =>
    rcases List.mem_append.mp h with h | h
    · exact (ih h).trans (suffix_of_afterModifier? hnext)
    · rw [List.mem_singleton.mp h]
  | case2 cs _ => rw [List.mem_singleton.mp h]

theorem declarationAt?_closes (h : declarationAt? cs = some (text, s)) :
    cs.dropWhile isSpaceOrTab = text ++ (s.trailing.reverse ++ s.rest) ∧
      ∃ front, text = front ++ [')'] := by
  obtain ⟨s', hs, heq⟩ := Option.map_eq_some_iff.mp h
  obtain ⟨rfl, rfl⟩ := Prod.mk.inj heq
  obtain ⟨rest, hmem, hrest⟩ := List.exists_of_findSome?_eq_some hs
  obtain ⟨front, hfront⟩ :=
    (closes_of_signature? hrest).of_suffix (suffix_of_mem_afterModifiers hmem)
  have hsplit : cs.dropWhile isSpaceOrTab =
      (front ++ [')']) ++ (s'.trailing.reverse ++ s'.rest) := by
    rw [hfront, List.append_assoc, List.singleton_append]
  have htake : (cs.dropWhile isSpaceOrTab).length - s'.rest.length - s'.trailing.length =
      (front ++ [')']).length := by
    rw [hsplit]
    simp only [List.length_append, List.length_reverse]
    omega
  have htext : (cs.dropWhile isSpaceOrTab).take
      ((cs.dropWhile isSpaceOrTab).length - s'.rest.length - s'.trailing.length) =
      front ++ [')'] := by
    rw [htake, hsplit, List.take_left]
  rw [htext]
  exact ⟨hsplit, front, rfl⟩

/-- A declaration starts with a word and ends in a parenthesis, so there is nothing to trim. -/
theorem trim_of_declarationAt? (h : declarationAt? cs = some (text, s)) :
    Text.trim text = text := by
  obtain ⟨hsplit, front, rfl⟩ := declarationAt?_closes h
  have hstart := (headed_of_declarationAt? h).1
  rw [hsplit] at hstart
  have hblank : Text.trimStart (front ++ [')']) = front ++ [')'] := by
    cases front with
    | nil => rfl
    | cons c front =>
      have hc : Name.isIdentStart c = true := by simpa using hstart
      exact Text.trimStart_of_not_blank
        (isBlank_of_isIdentRest (Name.isIdentRest_of_isIdentStart hc))
  rw [Text.trim, hblank, Text.trimEnd_of_not_blank (by decide)]

end Closing

section Sites

/-- A scanned method with the rest of the text from its declaration on. -/
structure Site where
  tail : List Char
  method : Method
  deriving DecidableEq, Repr

variable {cs rest : List Char} {site : Site}

def siteAt? (cs : List Char) : Option Site :=
  (declarationAt? cs).map fun (text, s) =>
    { tail := cs.dropWhile isSpaceOrTab
      method :=
        { name := String.ofList s.name
          declaration := String.ofList (Text.trim text)
          body := String.ofList (nextBlock s.rest) } }

def afterDeclaration (cs : List Char) : List Char :=
  match declarationAt? cs with
  | some (_, s) => s.rest
  | none => cs

theorem suffix_of_declarationAt? {text : List Char} {s : Signature}
    (h : declarationAt? cs = some (text, s)) : s.rest <:+ cs.dropWhile isSpaceOrTab := by
  rw [(declarationAt?_closes h).1, ← List.append_assoc]
  exact List.suffix_append _ _

theorem afterDeclaration_suffix (cs : List Char) : afterDeclaration cs <:+ cs := by
  unfold afterDeclaration
  split
  · rename_i h
    exact (suffix_of_declarationAt? h).trans (List.dropWhile_suffix _)
  · exact List.suffix_rfl

theorem suffix_of_nextLine? (h : nextLine? cs = some rest) : '\n' :: rest <:+ cs := by
  simp only [nextLine?] at h
  split at h
  · simp at h
  · rename_i c after hafter
    obtain rfl := Option.some.inj h
    have hc := List.head?_dropWhile_not (· ≠ '\n') cs
    rw [hafter] at hc
    obtain rfl : c = '\n' := by simpa using hc
    exact hafter ▸ List.dropWhile_suffix _

/-- The scan for methods with the place of each declaration. -/
def sitesFrom (cs : List Char) : List Site :=
  match _h : nextLine? (afterDeclaration cs) with
  | some rest => (siteAt? cs).toList ++ sitesFrom rest
  | none => (siteAt? cs).toList
termination_by cs.length
decreasing_by exact (length_nextLine? _h).trans_le (afterDeclaration_suffix cs).length_le

theorem map_method_sitesFrom (cs : List Char) :
    (sitesFrom cs).map (·.method) = scanMethods cs := by
  have hstep (cs : List Char) : scanMethods cs =
      (siteAt? cs).toList.map (·.method) ++ scanAfterLine (afterDeclaration cs) := by
    cases h : declarationAt? cs with
    | none => simp [scanMethods_of_none h, siteAt?, afterDeclaration, h]
    | some d => simp [scanMethods_of_some h, siteAt?, afterDeclaration, h]
  fun_induction sitesFrom cs with
  | case1 cs rest hnext ih => rw [hstep, scanAfterLine, hnext, List.map_append, ih]
  | case2 cs hnext => rw [hstep, scanAfterLine, hnext, List.append_nil]

structure Site.Within (cs : List Char) (site : Site) : Prop where
  tail : site.tail <:+ cs
  declaration : site.method.declaration.toList <+: site.tail

theorem within_of_siteAt? (h : siteAt? cs = some site) : site.Within cs := by
  obtain ⟨⟨text, s⟩, hd, rfl⟩ := Option.map_eq_some_iff.mp h
  refine ⟨List.dropWhile_suffix _, ?_⟩
  simp only [String.toList_ofList, trim_of_declarationAt? hd, (declarationAt?_closes hd).1]
  exact List.prefix_append _ _

theorem suffix_of_siteAt? (h : siteAt? cs = some site)
    (hnext : nextLine? (afterDeclaration cs) = some rest) : '\n' :: rest <:+ site.tail := by
  obtain ⟨⟨text, s⟩, hd, rfl⟩ := Option.map_eq_some_iff.mp h
  rw [afterDeclaration, hd] at hnext
  exact (suffix_of_nextLine? hnext).trans (suffix_of_declarationAt? hd)

theorem within_of_mem_sitesFrom (h : site ∈ sitesFrom cs) : site.Within cs := by
  fun_induction sitesFrom cs with
  | case1 cs rest hnext ih =>
    rcases List.mem_append.mp h with h | h
    · exact within_of_siteAt? (Option.mem_toList.mp h)
    · have hrest : rest <:+ cs := (List.suffix_cons _ _).trans
        ((suffix_of_nextLine? hnext).trans (afterDeclaration_suffix cs))
      exact ⟨(ih h).tail.trans hrest, (ih h).declaration⟩
  | case2 cs _ => exact within_of_siteAt? (Option.mem_toList.mp h)

/-- The line on which the declaration starts. -/
def Site.lineIn (cs : List Char) (site : Site) : Nat :=
  lineAfter (cs.take (cs.length - site.tail.length))

theorem Site.Within.onLine (h : site.Within cs) :
    OnLine site.method.declaration.toList cs (site.lineIn cs) := by
  refine ⟨_, ?_, rfl⟩
  conv_rhs => rw [← List.suffix_iff_eq_append.mp h.tail]
  exact (List.prefix_append_right_inj _).mpr h.declaration

/-- Line feeds before and after the start of the declaration are all there are. -/
theorem Site.Within.lineIn_add_count (h : site.Within cs) :
    site.lineIn cs + site.tail.count '\n' = cs.count '\n' + 1 := by
  have hsplit := congrArg (List.count '\n') (List.suffix_iff_eq_append.mp h.tail)
  rw [List.count_append] at hsplit
  rw [Site.lineIn, lineAfter]
  omega

theorem pairwise_count_sitesFrom (cs : List Char) :
    (sitesFrom cs).Pairwise fun a b => b.tail.count '\n' < a.tail.count '\n' := by
  fun_induction sitesFrom cs with
  | case1 cs rest hnext ih =>
    refine List.pairwise_append.mpr ⟨Option.pairwise_toList, ih, fun a ha b hb => ?_⟩
    have hrest := (suffix_of_siteAt? (Option.mem_toList.mp ha) hnext).sublist.count_le '\n'
    have htail := (within_of_mem_sitesFrom hb).tail.sublist.count_le '\n'
    rw [List.count_cons_self] at hrest
    omega
  | case2 cs _ => exact Option.pairwise_toList

/-- No two declarations share a line, and they come in the order of their lines. -/
theorem pairwise_lineIn_sitesFrom (cs : List Char) :
    (sitesFrom cs).Pairwise fun a b => a.lineIn cs < b.lineIn cs := by
  refine (pairwise_count_sitesFrom cs).imp_of_mem fun {a b} ha hb hlt => ?_
  have hfirst := (within_of_mem_sitesFrom ha).lineIn_add_count
  have hsecond := (within_of_mem_sitesFrom hb).lineIn_add_count
  omega

end Sites

end BehaviorPlan.Code
