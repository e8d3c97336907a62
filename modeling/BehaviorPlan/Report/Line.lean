import BehaviorPlan.Report.Style
import BehaviorPlan.Text.Columns

/-! # Lines of a console

A line is made of styled pieces. Its tabs are expanded, it is wrapped between words by the columns
of its plain text, and the pieces are cut along with it. -/
namespace BehaviorPlan.Report

open Text

structure Piece where
  style : Style
  text : List Char
  deriving DecidableEq, Repr

abbrev Line := List Piece

def styled (style : Style) (s : String) : Piece := ⟨style, s.toList⟩

def Piece.write (p : Piece) : String :=
  let codes := ";".intercalate (p.style.codes.map toString)
  if p.text = [] ∨ codes = "" then String.ofList p.text
  else s!"\x1b[{codes}m" ++ String.ofList p.text ++ "\x1b[0m"

namespace Line

def write (line : Line) : String :=
  String.join (line.map Piece.write)

def plainText (line : Line) : List Char :=
  line.flatMap (·.text)

def cut (n : Nat) : Line → Line × Line
  | [] => ([], [])
  | p :: ps =>
    let rest := cut (n - p.text.length) ps
    (⟨p.style, p.text.take n⟩ :: rest.1, ⟨p.style, p.text.drop n⟩ :: rest.2)

def cutAll : List Nat → Line → List Line
  | [], line => [line]
  | n :: ns, line => (cut n line).1 :: cutAll ns (cut n line).2

/-- Words, each with the blanks after it; the first one also has the blanks before it. `word`
holds the current word backwards; `ended` says that its blanks have begun. -/
def wordsFrom (word : List Char) (ended : Bool) : List Char → List (List Char)
  | [] => if word.all isBlank then [] else [word.reverse]
  | c :: cs =>
    if isBlank c then wordsFrom (c :: word) (!word.all isBlank) cs
    else if ended then word.reverse :: wordsFrom [c] false cs
    else wordsFrom (c :: word) false cs

def words (cs : List Char) : List (List Char) :=
  wordsFrom [] false cs

/-- Positions of the chunks of a word that starts at `start`. -/
def starts (start : Nat) : List (List Char) → List Nat
  | [] => []
  | chunk :: rest => start :: starts (start + chunk.length) rest

/-- Positions at which a line is broken. `used` counts the columns of the current piece. A word
wider than a line is broken before each of its chunks, except at the start of the line. -/
def breaksFrom (width start used : Nat) : List (List Char) → List Nat
  | [] => []
  | word :: rest =>
    let next := start + word.length
    let needed := columns (trimEnd word)
    if used + needed ≤ width then breaksFrom width next (used + columns word) rest
    else if width < needed then
      let pieces := chunks width word
      (starts start pieces).filter (· ≠ 0) ++
        breaksFrom width next (columns (pieces.getLastD [])) rest
    else if used ≠ 0 ∧ start ≠ 0 then start :: breaksFrom width next (columns word) rest
    else breaksFrom width next used rest

def gaps (start : Nat) : List Nat → List Nat
  | [] => []
  | n :: ns => (n - start) :: gaps n ns

/-- A piece that is too long loses blanks at its end, as many as needed or as it has. -/
def dropExcess (width : Nat) (line : Line) : Line :=
  let cs := plainText line
  let blanks := cs.length - (trimEnd cs).length
  (cut (cs.length - min blanks (cs.length - width)) line).1

def clip (width : Nat) (line : Line) : Line :=
  (cut ((chunks width (plainText line)).headD []).length line).1

def wrap (width : Nat) (line : Line) : List Line :=
  let breaks := breaksFrom width 0 0 (words (plainText line))
  (cutAll (gaps 0 breaks) line).map fun piece => clip width (dropExcess width piece)

def splitNewlines (line : Line) : List Line :=
  let parts := (plainText line).splitOn '\n'
  (cutAll (parts.dropLast.map (·.length + 1)) line).zipIdx.map fun (l, i) =>
    if i + 1 < parts.length then (cut ((plainText l).length - 1) l).1 else l

def tabStop : Nat := 8

def expandTabs (line : Line) : Line :=
  let parts := (plainText line).splitOn '\t'
  ((cutAll (parts.dropLast.map (·.length + 1)) line).zip parts).flatMap fun (l, part) =>
    let blanks := List.replicate (tabStop - columns part % tabStop) ' '
    l.map fun p => { p with text := p.text.flatMap fun c => if c = '\t' then blanks else [c] }

def printed (width : Nat) (line : Line) : List String :=
  ((splitNewlines line).flatMap fun l => wrap width (expandTabs l)).map write

theorem not_mem_expandTabs (line : Line) : '\t' ∉ plainText (expandTabs line) := by
  intro h
  obtain ⟨p, hp, hc⟩ := List.mem_flatMap.mp h
  obtain ⟨⟨l, part⟩, _, hl⟩ := List.mem_flatMap.mp hp
  obtain ⟨q, _, rfl⟩ := List.mem_map.mp hl
  obtain ⟨c, _, hcc⟩ := List.mem_flatMap.mp hc
  split at hcc
  · exact absurd (List.eq_of_mem_replicate hcc) (by decide)
  · next hne => exact hne (List.mem_singleton.mp hcc).symm

theorem plainText_cut (n : Nat) (line : Line) :
    plainText (cut n line).1 ++ plainText (cut n line).2 = plainText line := by
  induction line generalizing n with
  | nil => rfl
  | cons p ps ih =>
    have h := ih (n - p.text.length)
    by_cases hn : n ≤ p.text.length
    · have h0 : n - p.text.length = 0 := by omega
      have hz : ∀ l : Line, plainText (cut 0 l).1 = [] := by
        intro l
        induction l with
        | nil => rfl
        | cons q qs ihq => simpa [cut, plainText] using ihq
      have ht := hz ps
      simp only [cut, plainText, h0, List.flatMap_cons] at h ht ⊢
      rw [ht] at h ⊢
      simp only [List.append_nil, List.nil_append] at h ⊢
      rw [h, ← List.append_assoc, List.take_append_drop]
    · have ht : p.text.take n = p.text := List.take_of_length_le (by omega)
      have hd : p.text.drop n = [] := List.drop_of_length_le (by omega)
      simp only [cut, plainText, List.flatMap_cons, ht, hd, List.nil_append] at h ⊢
      rw [← h, List.append_assoc]

end Line

end BehaviorPlan.Report
