import Mathlib.Data.List.Infix
import BehaviorPlan.Proofs.Code.Scanning

/-! # Blocks

A block ends at the brace that closes it: what is before that brace is balanced, and no other piece
of the text is balanced and followed by a closing brace. A block that is never closed goes on to
the end of the text. -/
namespace BehaviorPlan.Code

/-- No prefix closes more braces than it opens, and all of them are closed at the end. -/
structure Balanced (cs : List Char) : Prop where
  within : ∀ front, front <+: cs → front.count '\x7d' ≤ front.count '\x7b'
  total : cs.count '\x7b' = cs.count '\x7d'

/-- The text starts with a balanced body, and then comes a closing brace. -/
structure StartsClosed (cs body : List Char) : Prop where
  balanced : Balanced body
  closed : body ++ ['\x7d'] <+: cs

/-- The body of a block that is open at the start of the text: the one body that is closed there, or
the whole text if there is none. -/
structure IsBlock (cs body : List Char) : Prop where
  closed_or_open : StartsClosed cs body ∨ (∀ other, ¬ StartsClosed cs other) ∧ body = cs
  unique : ∀ other, StartsClosed cs other → StartsClosed cs body ∧ other = body

section Depth

variable {depth : Nat} {c : Char} {cs body : List Char}

/-- At the start of the text `depth` blocks are open. No prefix closes more than were opened, and at
the end all of them are closed. -/
structure Balances (depth : Nat) (cs : List Char) : Prop where
  within : ∀ front, front <+: cs → front.count '\x7d' ≤ front.count '\x7b' + depth
  total : cs.count '\x7d' = cs.count '\x7b' + depth

theorem balances_zero_iff : Balances 0 cs ↔ Balanced cs :=
  ⟨fun h => ⟨h.within, h.total.symm⟩, fun h => ⟨h.within, h.total.symm⟩⟩

theorem balances_nil : Balances 0 [] := by
  refine ⟨fun front hfront => ?_, rfl⟩
  rw [List.prefix_nil.mp hfront]
  exact Nat.le_refl 0

/-- The blocks that are open after a character. -/
def depthAfter (depth : Nat) (c : Char) : Nat :=
  if c = '\x7b' then depth + 1 else if c = '\x7d' then depth - 1 else depth

theorem depthAfter_add_count (h : c = '\x7d' → 0 < depth) :
    depthAfter depth c + [c].count '\x7d' = depth + [c].count '\x7b' := by
  unfold depthAfter
  split
  · rename_i hopen
    rw [hopen]
    rfl
  · rename_i hopen
    split
    · rename_i hclose
      have hpos := h hclose
      rw [hclose]
      simp
      omega
    · rename_i hclose
      simp [hopen, hclose]

theorem balances_cons_iff :
    Balances depth (c :: cs) ↔ (c = '\x7d' → 0 < depth) ∧ Balances (depthAfter depth c) cs := by
  constructor
  · intro h
    have hpos : c = '\x7d' → 0 < depth := by
      rintro rfl
      have hfirst := h.within ['\x7d'] (List.cons_prefix_cons.mpr ⟨rfl, List.nil_prefix⟩)
      simpa [Nat.one_le_iff_ne_zero, Nat.pos_iff_ne_zero] using hfirst
    have hcount := depthAfter_add_count hpos
    refine ⟨hpos, fun front hfront => ?_, ?_⟩
    · have hle := h.within (c :: front) (List.cons_prefix_cons.mpr ⟨rfl, hfront⟩)
      rw [← List.singleton_append, List.count_append, List.count_append] at hle
      omega
    · have htotal := h.total
      rw [← List.singleton_append, List.count_append, List.count_append] at htotal
      omega
  · rintro ⟨hpos, h⟩
    have hcount := depthAfter_add_count hpos
    refine ⟨fun front hfront => ?_, ?_⟩
    · cases front with
      | nil => exact Nat.zero_le _
      | cons d front =>
        obtain ⟨rfl, hrest⟩ := List.cons_prefix_cons.mp hfront
        have hle := h.within front hrest
        rw [← List.singleton_append, List.count_append, List.count_append]
        omega
    · have htotal := h.total
      rw [← List.singleton_append, List.count_append, List.count_append]
      omega

theorem block_cons (h : c = '\x7d' → 0 < depth) :
    block depth (c :: cs) = c :: block (depthAfter depth c) cs := by
  by_cases hopen : c = '\x7b'
  · subst hopen
    exact block_open depth cs
  · by_cases hclose : c = '\x7d'
    · subst hclose
      obtain ⟨before, rfl⟩ := Nat.exists_eq_succ_of_ne_zero (h rfl).ne'
      exact block_close before cs
    · rw [block_other hopen hclose, depthAfter, if_neg hopen, if_neg hclose]

theorem block_of_balances (h : Balances depth body) (rest : List Char) :
    block depth (body ++ '\x7d' :: rest) = body := by
  induction body generalizing depth with
  | nil =>
    obtain rfl : depth = 0 := by simpa using h.total.symm
    exact block_end rest
  | cons c body ih =>
    obtain ⟨hpos, htail⟩ := balances_cons_iff.mp h
    rw [List.cons_append, block_cons hpos, ih htail]

theorem block_closed_or_open (depth : Nat) (cs : List Char) :
    Balances depth (block depth cs) ∧ block depth cs ++ ['\x7d'] <+: cs ∨ block depth cs = cs := by
  induction cs generalizing depth with
  | nil => exact Or.inr rfl
  | cons c cs ih =>
    by_cases hpos : c = '\x7d' → 0 < depth
    · rw [block_cons hpos]
      rcases ih (depthAfter depth c) with ⟨hbalances, hclosed⟩ | hopen
      · refine Or.inl ⟨balances_cons_iff.mpr ⟨hpos, hbalances⟩, ?_⟩
        exact List.cons_prefix_cons.mpr ⟨rfl, hclosed⟩
      · exact Or.inr (congrArg (c :: ·) hopen)
    · obtain ⟨rfl, hzero⟩ := Classical.not_imp.mp hpos
      obtain rfl : depth = 0 := Nat.eq_zero_of_not_pos hzero
      rw [block_end]
      exact Or.inl ⟨balances_nil, List.cons_prefix_cons.mpr ⟨rfl, List.nil_prefix⟩⟩

end Depth

section Source

variable {cs body : List Char}

theorem StartsClosed.block_eq (h : StartsClosed cs body) : block 0 cs = body := by
  obtain ⟨rest, rfl⟩ := h.closed
  rw [List.append_assoc, List.singleton_append]
  exact block_of_balances (balances_zero_iff.mpr h.balanced) rest

theorem startsClosed_block_or_open (cs : List Char) :
    StartsClosed cs (block 0 cs) ∨ (∀ other, ¬ StartsClosed cs other) ∧ block 0 cs = cs := by
  rcases block_closed_or_open 0 cs with ⟨hbalances, hclosed⟩ | hopen
  · exact Or.inl ⟨balances_zero_iff.mp hbalances, hclosed⟩
  · refine Or.inr ⟨fun other h => ?_, hopen⟩
    -- A body that is closed is the block, and that leaves no room for its closing brace.
    have hlength := h.closed.length_le
    rw [← h.block_eq, hopen, List.length_append, List.length_singleton] at hlength
    omega

theorem isBlock_block (cs : List Char) : IsBlock cs (block 0 cs) where
  closed_or_open := startsClosed_block_or_open cs
  unique other h := by
    rw [h.block_eq]
    exact ⟨h, rfl⟩

theorem nextBlock_drop {source : List Char} {openAt : Nat} (h : source[openAt]? = some '\x7b') :
    nextBlock (source.drop openAt) = block 0 (source.drop (openAt + 1)) := by
  obtain ⟨hlt, hbrace⟩ := List.getElem?_eq_some_iff.mp h
  rw [List.drop_eq_getElem_cons hlt, hbrace]
  rfl

/-- The block of an opening brace is the only balanced text behind it that is followed by a closing
brace. If there is no such text, the block is all that follows. -/
theorem isBlock_nextBlock (source : List Char) (openAt : Nat)
    (h : source[openAt]? = some '\x7b') :
    IsBlock (source.drop (openAt + 1)) (nextBlock (source.drop openAt)) := by
  rw [nextBlock_drop h]
  exact isBlock_block _

/-- A nested block, and a last brace that is not closed although a brace is. -/
def nestedSource : List Char :=
  "if (a) \x7b b \x7b c \x7d d \x7d else \x7b e \x7b \x7d".toList

theorem isBlock_nestedSource :
    IsBlock (nestedSource.drop 8) " b \x7b c \x7d d ".toList ∧
      IsBlock (nestedSource.drop 27) " e \x7b \x7d".toList := by
  have hclosed : nextBlock (nestedSource.drop 7) = " b \x7b c \x7d d ".toList := by
    decide +kernel
  have hopen : nextBlock (nestedSource.drop 26) = " e \x7b \x7d".toList := by
    decide +kernel
  rw [← hclosed, ← hopen]
  constructor
  · exact isBlock_nextBlock nestedSource 7 (by decide)
  · exact isBlock_nextBlock nestedSource 26 (by decide)

end Source

end BehaviorPlan.Code
