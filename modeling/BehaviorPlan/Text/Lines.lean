/-! # Pieces and lines of a text

Two notions of line are in use. A line number counts line feeds only, as editors do. Splitting
into lines also breaks at the other line boundaries, a carriage return with the line feed after
it being one boundary. -/
namespace BehaviorPlan.Text

section Pieces

def before? (piece : List Char) : List Char → Option (List Char)
  | [] => if piece = [] then some [] else none
  | c :: cs =>
    if piece.isPrefixOf (c :: cs) then some [] else (before? piece cs).map (c :: ·)

def contains (piece cs : List Char) : Bool :=
  (before? piece cs).isSome

def occursIn (piece s : String) : Bool :=
  contains piece.toList s.toList

theorem before?_prefix {piece cs xs : List Char} (h : before? piece cs = some xs) :
    xs ++ piece <+: cs := by
  induction cs generalizing xs with
  | nil =>
    simp only [before?] at h
    split at h <;> simp_all
  | cons c cs ih =>
    simp only [before?] at h
    split at h
    · rename_i hp
      simp only [Option.some.injEq] at h
      subst h
      simpa using List.isPrefixOf_iff_prefix.mp hp
    · obtain ⟨ys, hys, rfl⟩ := Option.map_eq_some_iff.mp h
      simpa using ih hys

end Pieces

section Lines

/-- Number of the line that a position is on, given the text before the position. -/
def lineAfter (before : List Char) : Nat :=
  before.count '\n' + 1

def isLineBoundary (c : Char) : Bool :=
  let n := c.toNat
  (decide (10 ≤ n) && decide (n ≤ 13)) || (decide (28 ≤ n) && decide (n ≤ 30)) ||
    n == 0x85 || n == 0x2028 || n == 0x2029

/-- Splits at line boundaries. `line` holds the current line backwards; a last line without a
boundary counts unless it is empty. -/
def splitLinesFrom (line : List Char) : List Char → List (List Char)
  | [] => if line = [] then [] else [line.reverse]
  | '\r' :: '\n' :: cs => line.reverse :: splitLinesFrom [] cs
  | c :: cs =>
    if isLineBoundary c then line.reverse :: splitLinesFrom [] cs
    else splitLinesFrom (c :: line) cs

def splitLines (cs : List Char) : List (List Char) :=
  splitLinesFrom [] cs

def unlines (lines : List String) : String :=
  "\n".intercalate lines ++ "\n"

theorem lineAfter_nil : lineAfter [] = 1 := rfl

theorem lineAfter_append (xs ys : List Char) :
    lineAfter (xs ++ ys) = lineAfter xs + ys.count '\n' := by
  simp [lineAfter]
  omega

theorem unlines_append {xs ys : List String} (hx : xs ≠ []) (hy : ys ≠ []) :
    unlines (xs ++ ys) = unlines xs ++ unlines ys := by
  rw [unlines, String.intercalate_append_of_ne_nil hx hy, unlines, unlines]
  simp only [String.append_assoc]

theorem unlines_eq_join {lines : List String} (hne : lines ≠ []) :
    unlines lines = String.join (lines.map (· ++ "\n")) := by
  induction lines with
  | nil => exact absurd rfl hne
  | cons line lines ih =>
    cases lines with
    | nil => simp [unlines]
    | cons next lines =>
      have happend := unlines_append (List.cons_ne_nil line []) (List.cons_ne_nil next lines)
      rw [List.map_cons, String.join_cons, ← ih (List.cons_ne_nil next lines)]
      rw [List.singleton_append] at happend
      rw [happend]
      simp [unlines]

end Lines

end BehaviorPlan.Text
