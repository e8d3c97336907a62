import BehaviorPlan.Proofs.Code.Balance
import BehaviorPlan.Proofs.Code.Declaration
import BehaviorPlan.Proofs.Code.Rule
import BehaviorPlan.Proofs.Text.Lines

/-! # Literals and comments in one scan

The balance of a class is counted on what is left when first all literals are emptied and then all
comments are dropped. One scan from left to right finds literals and comments together: slashes in
a literal start no comment, and a quote in a comment starts no literal. Both ways leave the same
code unless a quote in a comment pairs with one after the comment. -/
namespace BehaviorPlan.Code

/-- What a scan finds: a character of code, a literal, or a line comment up to the end of its
line. -/
inductive Piece where
  | code (c : Char)
  | literal (body : List Char)
  /-- A literal whose closing quote is missing takes the rest of the text. -/
  | unclosed (body : List Char)
  | comment (body : List Char)
  deriving DecidableEq, Repr

namespace Piece

def text : Piece → List Char
  | code c => [c]
  | literal body => '"' :: (body ++ ['"'])
  | unclosed body => '"' :: body
  | comment body => '/' :: '/' :: body

def code? : Piece → Option Char
  | code c => some c
  | _ => none

def isClosed : Piece → Bool
  | literal body => !body.contains '\n'
  | unclosed _ => false
  | _ => true

def stripped : Piece → List Char
  | code c => [c]
  | literal _ => ['"', '"']
  | unclosed _ => ['"']
  | comment _ => []

end Piece

/-- A literal whose opening quote was read: its body, and what follows the closing quote. A
backslash takes the next character with it. -/
def closing? : List Char → Option (List Char × List Char)
  | [] => none
  | '"' :: cs => some ([], cs)
  | ['\\'] => none
  | '\\' :: c :: cs => (closing? cs).map fun (body, rest) => ('\\' :: c :: body, rest)
  | c :: cs => (closing? cs).map fun (body, rest) => (c :: body, rest)

theorem eq_of_closing? {cs body rest : List Char} (h : closing? cs = some (body, rest)) :
    cs = body ++ '"' :: rest := by
  fun_induction closing? cs generalizing body with
  | case1 => simp at h
  | case2 cs =>
    obtain ⟨rfl, rfl⟩ := Prod.mk.inj (Option.some.inj h)
    rfl
  | case3 => simp at h
  | case4 c cs ih =>
    obtain ⟨⟨inner, after⟩, hinner, he⟩ := Option.map_eq_some_iff.mp h
    obtain ⟨rfl, rfl⟩ := Prod.mk.inj he
    rw [ih hinner]
    rfl
  | case5 c cs _ _ _ ih =>
    obtain ⟨⟨inner, after⟩, hinner, he⟩ := Option.map_eq_some_iff.mp h
    obtain ⟨rfl, rfl⟩ := Prod.mk.inj he
    rw [ih hinner]
    rfl

theorem length_closing? {cs body rest : List Char} (h : closing? cs = some (body, rest)) :
    rest.length < cs.length := by
  rw [eq_of_closing? h, List.length_append, List.length_cons]
  omega

def pieces (cs : List Char) : List Piece :=
  match cs with
  | [] => []
  | '/' :: '/' :: cs =>
    .comment (cs.takeWhile (· ≠ '\n')) :: pieces (cs.dropWhile (· ≠ '\n'))
  | c :: cs =>
    if c = '"' then
      match _h : closing? cs with
      | some (body, rest) => .literal body :: pieces rest
      | none => [.unclosed cs]
    else .code c :: pieces cs
termination_by cs.length
decreasing_by
  · have := length_dropWhile_le (fun c => decide (c ≠ '\n')) cs
    simp only [List.length_cons]
    omega
  · have := length_closing? _h
    simp only [List.length_cons]
    omega
  · simp

def outside (cs : List Char) : List Char :=
  (pieces cs).filterMap Piece.code?

/-- Every literal that a quote in a comment opens ends in the comment, or nowhere in the text. -/
inductive Encloses (rest : List Char) : List Char → Prop
  | nil : Encloses rest []
  | other {c : Char} {body : List Char} (hc : c ≠ '"') (h : Encloses rest body) :
      Encloses rest (c :: body)
  | closed {body after : List Char} (hafter : afterLiteral? (body ++ rest) = some (after ++ rest))
      (h : Encloses rest after) : Encloses rest ('"' :: body)
  | lone {body : List Char} (hnone : afterLiteral? (body ++ rest) = none)
      (h : Encloses rest body) : Encloses rest ('"' :: body)

/-- No comment among the pieces opens a literal that ends after the comment. -/
def CommentsEnclose : List Piece → Prop
  | [] => True
  | .comment body :: ps => Encloses (ps.flatMap Piece.text) body ∧ CommentsEnclose ps
  | _ :: ps => CommentsEnclose ps

section Scan

theorem flatMap_text_pieces (cs : List Char) : (pieces cs).flatMap Piece.text = cs := by
  fun_induction pieces cs with
  | case1 => rfl
  | case2 cs ih =>
    rw [List.flatMap_cons, ih, Piece.text, List.cons_append, List.cons_append,
      List.takeWhile_append_dropWhile]
  | case3 cs body rest h _ ih =>
    rw [List.flatMap_cons, ih, eq_of_closing? h]
    simp [Piece.text]
  | case4 cs h _ =>
    simp [Piece.text]
  | case5 c cs _ _ ih =>
    rw [List.flatMap_cons, ih]
    rfl

theorem afterLiteral?_of_closing? {cs body rest : List Char}
    (h : closing? cs = some (body, rest)) (hn : '\n' ∉ body) : afterLiteral? cs = some rest := by
  fun_induction closing? cs generalizing body with
  | case1 => simp at h
  | case2 cs =>
    obtain ⟨-, rfl⟩ := Prod.mk.inj (Option.some.inj h)
    rw [afterLiteral?]
  | case3 => simp at h
  | case4 c cs ih =>
    obtain ⟨⟨inner, after⟩, hinner, he⟩ := Option.map_eq_some_iff.mp h
    obtain ⟨rfl, rfl⟩ := Prod.mk.inj he
    simp only [List.mem_cons, not_or] at hn
    rw [afterLiteral?, if_neg (Ne.symm hn.2.1), ih hinner hn.2.2]
  | case5 c cs hquote hlast hslash ih =>
    obtain ⟨⟨inner, after⟩, hinner, he⟩ := Option.map_eq_some_iff.mp h
    obtain ⟨rfl, rfl⟩ := Prod.mk.inj he
    rw [List.mem_cons, not_or] at hn
    rw [afterLiteral?, ih hinner hn.2]
    · exact hquote
    · exact hlast
    · exact hslash

theorem afterLiteral?_suffix {cs rest : List Char} (h : afterLiteral? cs = some rest) :
    rest <:+ cs := by
  fun_induction afterLiteral? cs with
  | case1 => simp at h
  | case2 cs =>
    obtain rfl := Option.some.inj h
    exact List.suffix_cons _ _
  | case3 => simp at h
  | case4 => simp_all
  | case5 c cs hc ih => exact ((ih h).trans (List.suffix_cons _ _)).trans (List.suffix_cons _ _)
  | case6 c cs _ _ _ ih => exact (ih h).trans (List.suffix_cons _ _)

theorem emptyLiterals_of_some {cs rest : List Char} (h : afterLiteral? cs = some rest) :
    emptyLiterals ('"' :: cs) = '"' :: '"' :: emptyLiterals rest := by
  rw [emptyLiterals, if_pos rfl]
  split
  · rename_i found
    rw [Option.some.inj (h.symm.trans found)]
  · rename_i hnone
    cases h.symm.trans hnone

theorem emptyLiterals_of_none {cs : List Char} (h : afterLiteral? cs = none) :
    emptyLiterals ('"' :: cs) = '"' :: emptyLiterals cs := by
  rw [emptyLiterals, if_pos rfl]
  split
  · rename_i found
    cases h.symm.trans found
  · rfl

theorem emptyLiterals_of_ne {c : Char} (hc : c ≠ '"') (cs : List Char) :
    emptyLiterals (c :: cs) = c :: emptyLiterals cs := by
  rw [emptyLiterals, if_neg hc]

theorem head?_emptyLiterals (cs : List Char) : (emptyLiterals cs).head? = cs.head? := by
  cases cs with
  | nil => rw [emptyLiterals]
  | cons c cs =>
    by_cases hc : c = '"'
    · subst hc
      cases hafter : afterLiteral? cs with
      | none => rw [emptyLiterals_of_none hafter, List.head?_cons, List.head?_cons]
      | some rest => rw [emptyLiterals_of_some hafter, List.head?_cons, List.head?_cons]
    · rw [emptyLiterals_of_ne hc, List.head?_cons, List.head?_cons]

end Scan

section Comments

variable {rest body : List Char}

/-- What comes before the first quote of a comment opens no literal. -/
theorem Encloses.prepend (xs : List Char) (hxs : '"' ∉ xs) (h : Encloses rest body) :
    Encloses rest (xs ++ body) := by
  induction xs with
  | nil => exact h
  | cons c xs ih =>
    rw [List.mem_cons, not_or] at hxs
    exact .other (Ne.symm hxs.1) (ih hxs.2)

/-- Literals in a comment are emptied there, and what follows is emptied by itself. -/
theorem Encloses.exists_emptyLiterals (h : Encloses rest body) (hn : '\n' ∉ body) :
    ∃ code, '\n' ∉ code ∧ emptyLiterals (body ++ rest) = code ++ emptyLiterals rest := by
  induction h with
  | nil => exact ⟨[], by simp, rfl⟩
  | @other c body hc _ ih =>
    rw [List.mem_cons, not_or] at hn
    obtain ⟨code, hcode, he⟩ := ih hn.2
    exact ⟨c :: code, by simp [hn.1, hcode], by
      rw [List.cons_append, emptyLiterals_of_ne hc, he, List.cons_append]⟩
  | @closed body after hafter _ ih =>
    obtain ⟨front, hfront⟩ := afterLiteral?_suffix hafter
    rw [← List.append_assoc] at hfront
    have hbody : front ++ after = body := List.append_cancel_right hfront
    rw [List.mem_cons, not_or] at hn
    obtain ⟨code, hcode, he⟩ := ih fun hm => hn.2 (hbody ▸ List.mem_append_right _ hm)
    exact ⟨'"' :: '"' :: code, by simp [hcode], by
      rw [List.cons_append, emptyLiterals_of_some hafter, he, List.cons_append, List.cons_append]⟩
  | @lone body hnone _ ih =>
    rw [List.mem_cons, not_or] at hn
    obtain ⟨code, hcode, he⟩ := ih hn.2
    exact ⟨'"' :: code, by simp [hcode], by
      rw [List.cons_append, emptyLiterals_of_none hnone, he, List.cons_append]⟩

theorem dropWhile_of_head? {cs : List Char} (h : cs.head?.all (· = '\n') = true) :
    cs.dropWhile (· ≠ '\n') = cs := by
  cases cs with
  | nil => rfl
  | cons c cs =>
    have hc : c = '\n' := by simpa using h
    exact List.dropWhile_cons_of_neg (by simp [hc])

theorem stripLiterals_comment {cs : List Char}
    (h : Encloses (cs.dropWhile (· ≠ '\n')) (cs.takeWhile (· ≠ '\n'))) :
    stripLiterals ('/' :: '/' :: cs) = stripLiterals (cs.dropWhile (· ≠ '\n')) := by
  have hn : '\n' ∉ cs.takeWhile (· ≠ '\n') := not_mem_of_all List.all_takeWhile (by simp)
  obtain ⟨code, hcode, he⟩ := h.exists_emptyLiterals hn
  rw [List.takeWhile_append_dropWhile] at he
  have hall : ∀ c ∈ code, decide (c ≠ '\n') = true := fun c hc =>
    decide_eq_true fun heq => hcode (heq ▸ hc)
  have hstop : (emptyLiterals (cs.dropWhile (· ≠ '\n'))).head?.all (· = '\n') = true := by
    rw [head?_emptyLiterals]
    have hhead := List.head?_dropWhile_not (fun c => decide (c ≠ '\n')) cs
    cases hrest : cs.dropWhile (· ≠ '\n') with
    | nil => rfl
    | cons c rest =>
      rw [hrest] at hhead
      simpa using hhead
  rw [stripLiterals, emptyLiterals_of_ne (by decide), emptyLiterals_of_ne (by decide), he,
    dropComments_comment, List.dropWhile_append_of_pos hall, dropWhile_of_head? hstop,
    stripLiterals]

theorem stripLiterals_literal {cs rest : List Char} (h : closing? cs = some (body, rest))
    (hn : '\n' ∉ body) : stripLiterals ('"' :: cs) = '"' :: '"' :: stripLiterals rest := by
  rw [stripLiterals, emptyLiterals_of_some (afterLiteral?_of_closing? h hn),
    dropComments_cons (by simp), dropComments_cons (by simp), stripLiterals]

theorem stripLiterals_code {c : Char} {cs : List Char} (hquote : c ≠ '"')
    (hslash : ∀ rest, c = '/' → cs ≠ '/' :: rest) :
    stripLiterals (c :: cs) = c :: stripLiterals cs := by
  rw [stripLiterals, emptyLiterals_of_ne hquote, dropComments_cons, stripLiterals]
  intro rest hc hcs
  -- A slash that emptying leaves in front was there before.
  have hhead := head?_emptyLiterals cs
  rw [hcs] at hhead
  cases cs with
  | nil => simp at hhead
  | cons d cs => exact hslash cs hc (by rw [Option.some.inj hhead])

end Comments

section Agreement

/-- Emptying literals and dropping comments leaves what the scan from left to right leaves. -/
theorem stripLiterals_eq_flatMap {cs : List Char} (hclosed : ∀ p ∈ pieces cs, p.isClosed = true)
    (hcomments : CommentsEnclose (pieces cs)) :
    stripLiterals cs = (pieces cs).flatMap Piece.stripped := by
  fun_induction pieces cs with
  | case1 => simp [stripLiterals, emptyLiterals, dropComments]
  | case2 cs ih =>
    obtain ⟨hcomment, hrest⟩ := hcomments
    rw [flatMap_text_pieces] at hcomment
    rw [stripLiterals_comment hcomment, ih (fun p hp => hclosed p (List.mem_cons_of_mem _ hp)) hrest,
      List.flatMap_cons, Piece.stripped, List.nil_append]
  | case3 cs body rest h _ ih =>
    have hbody : '\n' ∉ body := by simpa [Piece.isClosed] using hclosed _ (List.mem_cons_self ..)
    rw [stripLiterals_literal h hbody,
      ih (fun p hp => hclosed p (List.mem_cons_of_mem _ hp)) hcomments, List.flatMap_cons]
    rfl
  | case4 cs h _ => simpa [Piece.isClosed] using hclosed _ (List.mem_cons_self ..)
  | case5 c cs hslash hquote ih =>
    rw [stripLiterals_code hquote hslash,
      ih (fun p hp => hclosed p (List.mem_cons_of_mem _ hp)) hcomments, List.flatMap_cons]
    rfl

theorem count_stripped {d : Char} (hd : d ≠ '"') (ps : List Piece) :
    (ps.flatMap Piece.stripped).count d = (ps.filterMap Piece.code?).count d := by
  induction ps with
  | nil => rfl
  | cons p ps ih =>
    cases p with
    | code c => simp [Piece.stripped, Piece.code?, List.count_cons, ih]
    | literal | unclosed | comment =>
      rw [List.flatMap_cons, List.count_append, ih, List.filterMap_cons_none rfl]
      simp [Piece.stripped, hd.symm]

theorem count_stripLiterals {d : Char} (hd : d ≠ '"') {cs : List Char}
    (hclosed : ∀ p ∈ pieces cs, p.isClosed = true) (hcomments : CommentsEnclose (pieces cs)) :
    (stripLiterals cs).count d = (outside cs).count d := by
  rw [stripLiterals_eq_flatMap hclosed hcomments, count_stripped hd, outside]

end Agreement

section Reports

variable {c : ClassSource} {what other : String} {r : Remark}

def IsUnbalanced (what message : String) : Prop :=
  ("Unbalanced " ++ what ++ ": ").toList <+: message.toList

def ReportsUnbalanced (what : String) (c : ClassSource) : Prop :=
  ∃ f ∈ findingsOn [.wellFormed] c, IsUnbalanced what f.message

theorem not_isUnbalanced_of_mem_nameRemarks {name : String} (h : r ∈ nameRemarks name) :
    ¬ IsUnbalanced what r.message := by
  unfold nameRemarks at h
  split at h
  · obtain rfl := List.mem_singleton.mp h
    change ¬ _ <+: ("Invalid C# class name: " ++ name).toList
    simp
  · split at h
    · obtain rfl := List.mem_singleton.mp h
      change ¬ _ <+: ("Class name '" ++ name ++ "' is a reserved C# keyword").toList
      simp
    · simp at h

theorem exists_mem_balanceRemarks_iff {code : List Char} {opening closing : Char} :
    (∃ r ∈ balanceRemarks code opening closing what, IsUnbalanced what r.message) ↔
      code.count opening ≠ code.count closing := by
  unfold balanceRemarks
  dsimp only
  split
  · simp_all
  · rename_i hne
    refine iff_of_true ⟨_, List.mem_singleton_self _, ?_⟩ hne
    change _ <+: ("Unbalanced " ++ what ++ ": " ++ _ ++ " open, " ++ _ ++ " close").toList
    simp

theorem not_isUnbalanced_of_mem_balanceRemarks {code : List Char} {opening closing : Char}
    (hother : ∀ xs, ¬ what.toList <+: other.toList ++ xs)
    (h : r ∈ balanceRemarks code opening closing other) : ¬ IsUnbalanced what r.message := by
  obtain rfl := eq_of_mem_unless h
  change ¬ _ <+: ("Unbalanced " ++ other ++ ": " ++ _ ++ " open, " ++ _ ++ " close").toList
  simp only [String.toList_append, List.append_assoc, List.prefix_append_right_inj]
  exact fun hprefix => hother _ ((List.prefix_append _ _).trans hprefix)

theorem reportsUnbalanced_iff_remark : ReportsUnbalanced what c ↔
    (∃ r ∈ balanceRemarks (stripLiterals c.source.toList) '\x7b' '\x7d' "braces",
      IsUnbalanced what r.message) ∨
    ∃ r ∈ balanceRemarks (stripLiterals c.source.toList) '(' ')' "parentheses",
      IsUnbalanced what r.message := by
  simp only [ReportsUnbalanced, findingsOn, List.flatMap_cons, List.flatMap_nil, List.append_nil,
    remarks, wellFormedRemarks, List.mem_map, List.mem_append]
  constructor
  · rintro ⟨_, ⟨r, (hr | hr) | hr, rfl⟩, hmessage⟩
    · exact absurd hmessage (not_isUnbalanced_of_mem_nameRemarks hr)
    · exact Or.inl ⟨r, hr, hmessage⟩
    · exact Or.inr ⟨r, hr, hmessage⟩
  · rintro (⟨r, hr, hmessage⟩ | ⟨r, hr, hmessage⟩)
    · exact ⟨_, ⟨r, Or.inl (Or.inr hr), rfl⟩, hmessage⟩
    · exact ⟨_, ⟨r, Or.inr hr, rfl⟩, hmessage⟩

theorem reportsUnbalanced_braces_iff : ReportsUnbalanced "braces" c ↔
    (stripLiterals c.source.toList).count '\x7b' ≠
      (stripLiterals c.source.toList).count '\x7d' := by
  rw [reportsUnbalanced_iff_remark, exists_mem_balanceRemarks_iff, or_iff_left]
  rintro ⟨r, hr, hmessage⟩
  exact not_isUnbalanced_of_mem_balanceRemarks (by simp) hr hmessage

theorem reportsUnbalanced_parentheses_iff : ReportsUnbalanced "parentheses" c ↔
    (stripLiterals c.source.toList).count '(' ≠ (stripLiterals c.source.toList).count ')' := by
  rw [reportsUnbalanced_iff_remark, exists_mem_balanceRemarks_iff, or_iff_right]
  rintro ⟨r, hr, hmessage⟩
  exact not_isUnbalanced_of_mem_balanceRemarks (by simp) hr hmessage

/-- Of either kind, the delimiters outside of literals and comments decide what is reported. -/
def ReportsOutside (c : ClassSource) : Prop :=
  (ReportsUnbalanced "braces" c ↔
    (outside c.source.toList).count '\x7b' ≠ (outside c.source.toList).count '\x7d') ∧
  (ReportsUnbalanced "parentheses" c ↔
    (outside c.source.toList).count '(' ≠ (outside c.source.toList).count ')')

/-- The rule counts what the scan from left to right leaves, wherever every literal is closed on
its line and no comment opens a literal that ends after the comment. -/
theorem reportsOutside_of_commentsEnclose
    (hclosed : ∀ p ∈ pieces c.source.toList, p.isClosed = true)
    (hcomments : CommentsEnclose (pieces c.source.toList)) : ReportsOutside c := by
  have hcount : ∀ d, d ≠ '"' →
      (stripLiterals c.source.toList).count d = (outside c.source.toList).count d :=
    fun _ hd => count_stripLiterals hd hclosed hcomments
  constructor
  · rw [reportsUnbalanced_braces_iff, hcount _ (by decide), hcount _ (by decide)]
  · rw [reportsUnbalanced_parentheses_iff, hcount _ (by decide), hcount _ (by decide)]

/-- A literal with slashes, an escaped quote and a brace, then a comment with a literal of its own
and a comment with the last quote of the text. -/
def quotedSlashes : ClassSource where
  name := "Door"
  source := "Log(\"// \\\" \x7b\"); // \"\x7d\" ends it\n\x7b // a 5\" door"

theorem pieces_quotedSlashes : pieces quotedSlashes.source.toList =
    "Log(".toList.map .code ++ [.literal "// \\\" \x7b".toList] ++ "); ".toList.map .code ++
      [.comment " \"\x7d\" ends it".toList] ++ "\n\x7b ".toList.map .code ++
      [.comment " a 5\" door".toList] := by
  have htext : quotedSlashes.source.toList = _ := String.toList_ofList
  rw [htext]
  decide +kernel

theorem reportsOutside_quotedSlashes :
    (∀ p ∈ pieces quotedSlashes.source.toList, p.isClosed = true) ∧
    CommentsEnclose (pieces quotedSlashes.source.toList) ∧ ReportsOutside quotedSlashes := by
  have hclosed : ∀ p ∈ pieces quotedSlashes.source.toList, p.isClosed = true := by
    rw [pieces_quotedSlashes]
    decide
  have hquote : afterLiteral? ("\x7d\" ends it".toList ++ "\n\x7b // a 5\" door".toList) =
      some (" ends it".toList ++ "\n\x7b // a 5\" door".toList) := by
    decide
  have hends : Encloses "\n\x7b // a 5\" door".toList " \"\x7d\" ends it".toList :=
    .prepend " ".toList (by decide) <| .closed hquote <|
      .prepend " ends it".toList (by decide) .nil
  have hdoor : Encloses [] " a 5\" door".toList :=
    .prepend " a 5".toList (by decide) <| .lone (by decide) <|
      .prepend " door".toList (by decide) .nil
  have hcomments : CommentsEnclose (pieces quotedSlashes.source.toList) := by
    rw [pieces_quotedSlashes]
    exact ⟨hends, hdoor, trivial⟩
  exact ⟨hclosed, hcomments, reportsOutside_of_commentsEnclose hclosed hcomments⟩

/-- A literal that a comment opens takes the code up to the next quote with it. -/
def inchDoor : ClassSource where
  name := "Door"
  source := "public class Door : UdonSharpBehaviour\n\x7b\n    public void Open() // the 5\" door\n" ++
    "    \x7b\n        Log(\"open\");\n    \x7d\n\x7d\n"

/-- The braces of a class may be reported although they balance outside of literals and
comments. -/
theorem not_reportsOutside_of_isClosed : ¬ ∀ c : ClassSource,
    (∀ p ∈ pieces c.source.toList, p.isClosed = true) → ReportsOutside c := by
  intro h
  have htext : inchDoor.source.toList = _ := Text.toList_append_ofList
  have hclosed : ∀ p ∈ pieces inchDoor.source.toList, p.isClosed = true := by
    rw [htext]
    decide +kernel
  have hbalanced : (outside inchDoor.source.toList).count '\x7b' =
      (outside inchDoor.source.toList).count '\x7d' := by
    rw [htext]
    decide +kernel
  have hreported : ReportsUnbalanced "braces" inchDoor := by
    rw [reportsUnbalanced_braces_iff, htext]
    decide +kernel
  exact (h inchDoor hclosed).1.mp hreported hbalanced

end Reports

end BehaviorPlan.Code
