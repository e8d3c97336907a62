import Mathlib.Data.List.DropRight
import BehaviorPlan.Proofs.Code.Balance
import BehaviorPlan.Proofs.Number.Characters
import BehaviorPlan.Proofs.Startup.Steps
import BehaviorPlan.Startup.Source

/-! # Balanced lines

Names and numerals hold no quote, backslash, slash, brace or parenthesis, so they can stand anywhere
in generated code; a line feed at the end of a name is as quiet as the rest. A line that stands for
itself weighs nothing, however it is indented. The other lines are braces, and they come in pairs. -/
namespace BehaviorPlan

namespace Code

theorem quiet_nil : Quiet [] := by
  simp [Quiet]

theorem quiet_cons_iff {c : Char} {cs : List Char} :
    Quiet (c :: cs) ↔ isQuiet c = true ∧ Quiet cs :=
  List.forall_mem_cons

theorem quiet_append_iff {xs ys : List Char} : Quiet (xs ++ ys) ↔ Quiet xs ∧ Quiet ys :=
  List.forall_mem_append

section Names

theorem isQuiet_of_isIdentRest {c : Char} (h : Name.isIdentRest c = true) : isQuiet c = true := by
  by_contra hnot
  simp only [isQuiet, Bool.not_eq_true, Bool.not_eq_false', List.contains_iff_mem, List.mem_cons,
    List.not_mem_nil, or_false] at hnot
  rcases hnot with rfl | rfl | rfl | rfl | rfl | rfl | rfl <;> revert h <;> decide

theorem quiet_of_wordlike {cs : List Char} (h : Name.Wordlike cs) : Quiet cs := by
  intro c hc
  rcases h c hc with hrest | rfl
  · exact isQuiet_of_isIdentRest hrest
  · rfl

theorem quiet_of_isIdentifierText {cs : List Char} (h : Name.isIdentifierText cs = true) :
    Quiet cs :=
  quiet_of_wordlike (Name.wordlike_of_isIdentifierText h)

theorem quiet_of_isNamespace {name : String} (h : Name.isNamespace name = true) :
    Quiet name.toList := by
  intro c hc
  rcases Name.isIdentRest_or_eq_of_isNamespace h hc with hrest | rfl | rfl
  · exact isQuiet_of_isIdentRest hrest
  · rfl
  · rfl

end Names

section Numerals

theorem isQuiet_of_isNumeralChar {c : Char} (h : Numeral.isNumeralChar c = true) :
    isQuiet c = true := by
  rw [Numeral.isNumeralChar, Bool.or_eq_true] at h
  rcases h with hrest | hsign
  · exact isQuiet_of_isIdentRest hrest
  · simp only [List.contains_iff_mem, List.mem_cons, List.not_mem_nil, or_false] at hsign
    rcases hsign with rfl | rfl | rfl <;> rfl

theorem quiet_of_numeric {cs : List Char} (h : Numeral.Numeric cs) : Quiet cs :=
  fun c hc => isQuiet_of_isNumeralChar (h c hc)

end Numerals

end Code

namespace Startup

open Code (Quiet Plain Weighs isFrame isPlain isQuiet isSpaceOrTab weighs_nil)

section Line

theorem trimEnd_subset (cs : List Char) : Text.trimEnd cs ⊆ cs :=
  (List.rdropWhile_prefix Text.isBlank cs).subset

theorem trimEnd_trimEnd (cs : List Char) : Text.trimEnd (Text.trimEnd cs) = Text.trimEnd cs :=
  List.rdropWhile_idempotent Text.isBlank cs

/-- However the line is indented, and whether or not its trailing blanks are kept, it weighs
nothing. -/
def Neutral (text : String) : Prop :=
  ∀ lead, Quiet lead → Weighs (lead ++ text.toList ++ ['\n']) 0 ∧
    Weighs (lead ++ Text.trimEnd text.toList ++ ['\n']) 0

theorem Neutral.trim {text : String} (h : Neutral text) :
    Neutral (Text.withoutTrailingBlanks text) := by
  intro lead hlead
  rw [Text.withoutTrailingBlanks, String.toList_ofList, trimEnd_trimEnd]
  exact ⟨(h lead hlead).2, (h lead hlead).2⟩

def isSolid (cs : List Char) : Bool :=
  cs.getLast?.any fun c => !Text.isBlank c

theorem isSolid_append {xs ys : List Char} (h : isSolid ys = true) : isSolid (xs ++ ys) = true := by
  obtain ⟨c, hc, hsolid⟩ := (Option.any_eq_true _ _).mp h
  rw [isSolid, List.getLast?_append, hc]
  exact hsolid

theorem trimEnd_append_of_isSolid {ys : List Char} (h : isSolid ys = true) (xs : List Char) :
    Text.trimEnd (xs ++ ys) = xs ++ ys := by
  obtain ⟨c, hc, hsolid⟩ := (Option.any_eq_true _ _).mp h
  obtain ⟨front, rfl⟩ := List.getLast?_eq_some_iff.mp hc
  rw [← List.append_assoc, Text.trimEnd_of_not_blank (by simpa using hsolid)]

theorem trimEnd_append (xs ys : List Char) : Text.trimEnd (xs ++ ys) =
    if Text.trimEnd ys = [] then Text.trimEnd xs else xs ++ Text.trimEnd ys := by
  simp only [Text.trimEnd, List.reverse_append, List.dropWhile_append, List.isEmpty_iff,
    List.reverse_eq_nil_iff]
  split
  · rfl
  · rw [List.reverse_append, List.reverse_reverse]

theorem neutral_of_plain {text : String} (h : Plain text.toList) : Neutral text := by
  intro lead hlead
  have htrim : Plain (Text.trimEnd text.toList) := fun c hc => h c (trimEnd_subset _ hc)
  exact ⟨Code.weighs_plain (hlead.plain.append h), Code.weighs_plain (hlead.plain.append htrim)⟩

theorem Neutral.indented {text : String} (h : Neutral text) : Neutral (indent ++ text) := by
  intro lead hlead
  have hindent : Quiet indent.toList := by decide
  have hquiet : Quiet (lead ++ indent.toList) := hlead.append hindent
  obtain ⟨hfull, htrimmed⟩ := h _ hquiet
  rw [String.toList_append, trimEnd_append, ← List.append_assoc]
  refine ⟨hfull, ?_⟩
  split
  · have hblank : Plain (Text.trimEnd indent.toList) := fun c hc =>
      hindent.plain c (trimEnd_subset _ hc)
    exact Code.weighs_plain (hlead.plain.append hblank)
  · rwa [← List.append_assoc]

section Framed

/-! Fixed text is given by its characters, which a literal is unfolded to. -/

variable {before after : List Char} {middle body name text : String}

/-- Fixed text around a variable piece of a line: its parentheses balance, and the line does not
end in blanks. -/
def encloses (before after : List Char) : Bool :=
  isFrame before after && isSolid after

theorem neutral_around (hmiddle : Quiet middle.toList)
    (h : encloses before after = true) :
    Neutral (String.ofList before ++ middle ++ String.ofList after) := by
  obtain ⟨hframe, hend⟩ := (Bool.and_eq_true _ _).mp h
  intro lead hlead
  simp only [String.toList_append, String.toList_ofList, trimEnd_append_of_isSolid hend, and_self]
  exact Code.weighs_around hlead hframe hmiddle

theorem neutral_quoted (hbody : Quiet body.toList)
    (h : encloses before after = true) :
    Neutral (String.ofList before ++ ("\"" ++ body ++ "\"") ++ String.ofList after) := by
  obtain ⟨hframe, hend⟩ := (Bool.and_eq_true _ _).mp h
  intro lead hlead
  simp only [String.toList_append, String.toList_ofList, trimEnd_append_of_isSolid hend, and_self]
  exact Code.weighs_quoted hlead hframe (hbody.not_mem rfl) (hbody.not_mem rfl)

theorem neutral_logged (hname : Quiet name.toList) (htext : Quiet text.toList)
    (h : encloses before after = true) :
    Neutral (String.ofList before ++ logged name text ++ String.ofList after) := by
  have hlogged : logged name text = "\"" ++ ("[" ++ name ++ "] " ++ text) ++ "\"" := by
    simp [← String.toList_inj, logged, toString]
  rw [hlogged]
  refine neutral_quoted ?_ h
  simp [Code.quiet_append_iff, Code.quiet_cons_iff, hname, htext, isQuiet]

end Framed

def isFixed (text : List Char) : Bool :=
  text.all isPlain || encloses [] text

theorem neutral_fixed {text : List Char} (h : isFixed text = true) :
    Neutral (String.ofList text) := by
  rw [isFixed, Bool.or_eq_true, List.all_eq_true] at h
  rcases h with hplain | hencloses
  · refine neutral_of_plain ?_
    rwa [String.toList_ofList]
  · have hempty : Quiet "".toList := Code.quiet_nil
    simpa using neutral_around hempty hencloses

end Line

section Lines

/-- Lines in which every brace has its partner. -/
inductive Balanced : List String → Prop
  | nil : Balanced []
  | line {text : String} {lines : List String} (htext : Neutral text) (hlines : Balanced lines) :
      Balanced (text :: lines)
  | block (inner : List String) {lines : List String} (hinner : Balanced inner)
      (hlines : Balanced lines) : Balanced (openBrace :: (inner ++ closeBrace :: lines))

namespace Balanced

theorem of_forall {lines : List String} (h : ∀ text ∈ lines, Neutral text) : Balanced lines := by
  induction lines with
  | nil => exact nil
  | cons text lines ih => exact line (h text (by simp)) (ih fun t ht => h t (by simp [ht]))

theorem fixed {text : List Char} {lines : List String} (h : isFixed text = true)
    (hlines : Balanced lines) : Balanced (String.ofList text :: lines) :=
  line (neutral_fixed h) hlines

theorem append {xs ys : List String} (hx : Balanced xs) (hy : Balanced ys) :
    Balanced (xs ++ ys) := by
  induction hx with
  | nil => exact hy
  | line htext _ ih => exact line htext ih
  | block inner hinner _ _ ih =>
    rw [List.cons_append, List.append_assoc, List.cons_append]
    exact block inner hinner ih

theorem flatMap {α : Type} {items : List α} {lines : α → List String}
    (h : ∀ a ∈ items, Balanced (lines a)) : Balanced (items.flatMap lines) := by
  induction items with
  | nil => exact nil
  | cons a items ih =>
    rw [List.flatMap_cons]
    exact (h a (by simp)).append (ih fun b hb => h b (by simp [hb]))

theorem enclose {lines : List String} (h : Balanced lines) :
    Balanced (openBrace :: (lines ++ [closeBrace])) :=
  block lines h nil

theorem trim {lines : List String} (h : Balanced lines) :
    Balanced (lines.map Text.withoutTrailingBlanks) := by
  induction h with
  | nil => exact nil
  | line htext _ ih => exact line htext.trim ih
  | block inner _ _ hinner hlines =>
    have hopen : Text.withoutTrailingBlanks openBrace = openBrace := by decide
    have hclose : Text.withoutTrailingBlanks closeBrace = closeBrace := by decide
    simp only [List.map_cons, List.map_append, hopen, hclose]
    exact block _ hinner hlines

end Balanced

end Lines

section Written

variable {base : String}

theorem all_isSpaceOrTab_indentation (depth : Nat) :
    (indentation depth).toList.all isSpaceOrTab = true := by
  induction depth with
  | zero => rfl
  | succ depth ih =>
    have hsplit : indentation (depth + 1) = indent ++ indentation depth := by
      simp [indentation, List.replicate_succ, String.join_cons]
    have hindent : indent.toList.all isSpaceOrTab = true := by decide
    rw [hsplit, String.toList_append, List.all_append, hindent, ih]
    rfl

theorem all_isSpaceOrTab_baseIndent (codeNamespace : Option String) :
    (baseIndent codeNamespace).toList.all isSpaceOrTab = true := by
  unfold baseIndent
  split <;> decide

theorem quiet_of_all_isSpaceOrTab {lead : List Char} (h : lead.all isSpaceOrTab = true) :
    Quiet lead := by
  intro c hc
  have hspace := List.all_eq_true.mp h c hc
  simp only [isSpaceOrTab, Bool.or_eq_true, beq_iff_eq] at hspace
  rcases hspace with rfl | rfl
  · rfl
  · rfl

theorem quiet_indentation (depth : Nat) : Quiet (indentation depth).toList :=
  quiet_of_all_isSpaceOrTab (all_isSpaceOrTab_indentation depth)

theorem quiet_baseIndent (codeNamespace : Option String) :
    Quiet (baseIndent codeNamespace).toList :=
  quiet_of_all_isSpaceOrTab (all_isSpaceOrTab_baseIndent codeNamespace)

theorem weighs_render (hbase : Quiet base.toList) {l : CodeLine} (h : Neutral l.text) :
    Weighs ((l.render base).toList ++ ['\n']) 0 := by
  unfold CodeLine.render
  split
  · exact Code.weighs_plain Code.quiet_nil.plain
  · simpa using (h _ (hbase.append (quiet_indentation l.depth))).1

theorem weighs_render_brace (hbase : Quiet base.toList) {l : CodeLine} (opening : Bool)
    (h : l.text = if opening then openBrace else closeBrace) :
    Weighs ((l.render base).toList ++ ['\n']) (if opening then 1 else -1) := by
  have hne : l.text ≠ "" := by rw [h]; cases opening <;> decide
  have hweighs := Code.weighs_brace (hbase.append (quiet_indentation l.depth)) opening
  rw [CodeLine.render, if_neg hne, h]
  cases opening <;> simpa [openBrace, closeBrace] using hweighs

def written (lines : List String) : List Char :=
  lines.flatMap fun text => text.toList ++ ['\n']

theorem written_append (xs ys : List String) : written (xs ++ ys) = written xs ++ written ys :=
  List.flatMap_append

theorem written_cons (text : String) (lines : List String) :
    written (text :: lines) = text.toList ++ ['\n'] ++ written lines :=
  List.flatMap_cons

theorem toList_unlines {lines : List String} (h : lines ≠ []) :
    (Text.unlines lines).toList = written lines := by
  induction lines with
  | nil => exact absurd rfl h
  | cons text lines ih =>
    cases lines with
    | nil => simp [Text.unlines, written]
    | cons next lines =>
      rw [written_cons, ← ih (by simp)]
      simp [Text.unlines, String.intercalate_cons_cons]

theorem weighs_written_of_balanced (hbase : Quiet base.toList) {lines : List CodeLine}
    (h : Balanced (lines.map (·.text))) : Weighs (written (lines.map (·.render base))) 0 := by
  generalize htexts : lines.map (·.text) = texts at h
  induction h generalizing lines with
  | nil =>
    obtain rfl := List.map_eq_nil_iff.mp htexts
    exact weighs_nil
  | line htext _ ih =>
    obtain ⟨l, rest, rfl, rfl, hrest⟩ := List.map_eq_cons_iff.mp htexts
    rw [List.map_cons, written_cons]
    exact (weighs_render hbase htext).append (ih hrest)
  | block inner _ _ hinner hlines =>
    obtain ⟨first, rest, rfl, hfirst, hrest⟩ := List.map_eq_cons_iff.mp htexts
    obtain ⟨body, rest, rfl, hbody, hrest⟩ := List.map_eq_append_iff.mp hrest
    obtain ⟨last, rest, rfl, hlast, hrest⟩ := List.map_eq_cons_iff.mp hrest
    simp only [List.map_cons, List.map_append, written_cons, written_append]
    exact (weighs_render_brace hbase true hfirst).append
      ((hinner hbody).append ((weighs_render_brace hbase false hlast).append (hlines hrest)))

theorem weighs_written_wrapped {codeNamespace : Option String}
    (hname : ∀ name, codeNamespace = some name → Quiet name.toList) {lines : List CodeLine}
    (h : Balanced (lines.map (·.text))) : Weighs (written (wrapped codeNamespace lines)) 0 := by
  have hbody := weighs_written_of_balanced (quiet_baseIndent codeNamespace) h
  cases codeNamespace with
  | none => exact hbody
  | some name =>
    have hhead : Weighs (("namespace " ++ name).toList ++ ['\n']) 0 := by
      refine Code.weighs_plain ?_
      rw [String.toList_append]
      exact Plain.append (by decide) (hname name rfl).plain
    have hopen : Weighs (openBrace.toList ++ ['\n']) 1 := Code.weighs_brace Code.quiet_nil true
    have hclose : Weighs (closeBrace.toList ++ ['\n']) (-1) :=
      Code.weighs_brace Code.quiet_nil false
    simp only [wrapped, written_append, written_cons, List.append_assoc]
    simpa [written] using hhead.append (hopen.append (hbody.append hclose))

end Written

end Startup

end BehaviorPlan
