import BehaviorPlan.Text.WidthTable

/-! # Columns of a console

How much of a line's width a text takes. A control character or a mark takes no column, a wide
character takes two, and every other character takes one. Characters that are shown as one make a
cluster: a mark belongs to the character before it, a joiner adds the character after it, and a
selector turns a narrow character into a wide emoji. A text too wide for one line is cut into
chunks of whole clusters, each of which is as wide as the line allows. -/
namespace BehaviorPlan.Text

def isControl (c : Char) : Bool :=
  decide (c.toNat < 32) || (decide (127 ≤ c.toNat) && decide (c.toNat < 160))

/-- Bell, backspace, vertical tab, form feed and carriage return act on the console itself, so
they are never sent to it. -/
def actsOnConsole (c : Char) : Bool :=
  let n := c.toNat
  n == 7 || n == 8 || (decide (11 ≤ n) && decide (n ≤ 13))

def consoleText (cs : List Char) : List Char :=
  cs.filter fun c => !(actsOnConsole c)

def columnsOf (c : Char) : Nat :=
  if isControl c then 0
  else if c.toNat < 128 then 1
  else if inSpans wideSpans c then 2
  else if inSpans markSpans c then 0
  else 1

def joiner : Char := Char.ofNat 0x200D

def emojiSelector : Char := Char.ofNat 0xFE0F

/-- Characters that are shown as one. -/
structure Cluster where
  text : List Char
  width : Nat
  /-- A selector makes it wider. -/
  narrow : Bool
  /-- The next character belongs to it, whatever it is. -/
  joins : Bool
  deriving DecidableEq, Repr

namespace Cluster

def start (c : Char) : Cluster :=
  ⟨[c], columnsOf c, columnsOf c == 1 && inSpans narrowEmojiSpans c, false⟩

def add (k : Cluster) (c : Char) (joins : Bool) : Cluster :=
  { k with text := k.text ++ [c], joins }

def widen (k : Cluster) : Cluster :=
  if k.narrow then { k with width := k.width + 1, narrow := false } else k

def extend? (k : Cluster) (c : Char) : Option Cluster :=
  if k.joins then some (k.add c false)
  else if c = joiner then some (k.add c true)
  else if c = emojiSelector then some (k.widen.add c false)
  else if columnsOf c = 0 then some (k.add c false)
  else none

end Cluster

def clustersFrom (k : Cluster) : List Char → List Cluster
  | [] => [k]
  | c :: cs =>
    match k.extend? c with
    | some k => clustersFrom k cs
    | none => k :: clustersFrom (.start c) cs

def clusters : List Char → List Cluster
  | [] => []
  | c :: cs => clustersFrom (.start c) cs

def totalWidth (ks : List Cluster) : Nat :=
  ks.foldr (fun k n => k.width + n) 0

def columns (cs : List Char) : Nat :=
  totalWidth (clusters cs)

/-- Puts clusters into groups. `group` holds the current group backwards and `used` counts its
columns; it ends before a cluster that would make it wider than `width`. -/
def groupsFrom (width used : Nat) (group : List Cluster) : List Cluster → List (List Cluster)
  | [] => [group.reverse]
  | k :: ks =>
    if used + k.width ≤ width then groupsFrom width (used + k.width) (k :: group) ks
    else group.reverse :: groupsFrom width k.width [k] ks

def groups (width : Nat) (cs : List Char) : List (List Cluster) :=
  groupsFrom width 0 [] (clusters cs)

def chunks (width : Nat) (cs : List Char) : List (List Char) :=
  (groups width cs).map fun group => group.flatMap (·.text)

theorem columnsOf_of_actsOnConsole {c : Char} (h : actsOnConsole c = true) : columnsOf c = 0 := by
  have hc : isControl c = true := by
    simp only [actsOnConsole, Bool.or_eq_true, Bool.and_eq_true, beq_iff_eq,
      decide_eq_true_eq] at h
    simp only [isControl, Bool.or_eq_true, Bool.and_eq_true, decide_eq_true_eq]
    omega
  simp [columnsOf, hc]

theorem columnsOf_le_two (c : Char) : columnsOf c ≤ 2 := by
  unfold columnsOf
  repeat' split
  all_goals omega

namespace Cluster

theorem text_widen (k : Cluster) : k.widen.text = k.text := by
  unfold widen
  split <;> rfl

theorem text_extend? {k next : Cluster} {c : Char} (h : k.extend? c = some next) :
    next.text = k.text ++ [c] := by
  unfold extend? at h
  repeat' split at h
  all_goals simp only [Option.some.injEq, reduceCtorEq] at h
  all_goals subst h
  all_goals simp [add, text_widen]

/-- Only one column may still be added, and only to a narrow cluster. -/
def Settled (k : Cluster) : Prop :=
  k.width ≤ 2 ∧ (k.narrow = true → k.width ≤ 1)

theorem settled_start (c : Char) : (start c).Settled := by
  refine ⟨columnsOf_le_two c, fun h => ?_⟩
  simp only [start, Bool.and_eq_true, beq_iff_eq] at h ⊢
  omega

theorem Settled.add {k : Cluster} (h : k.Settled) (c : Char) (joins : Bool) :
    (k.add c joins).Settled :=
  h

theorem Settled.widen {k : Cluster} (h : k.Settled) : k.widen.Settled := by
  unfold Cluster.widen
  split
  · next hk => exact ⟨Nat.succ_le_succ (h.2 hk), fun hn => nomatch hn⟩
  · exact h

theorem Settled.extend {k next : Cluster} {c : Char} (h : k.Settled)
    (he : k.extend? c = some next) : next.Settled := by
  unfold Cluster.extend? at he
  repeat' split at he
  all_goals simp only [Option.some.injEq, reduceCtorEq] at he
  all_goals subst he
  · exact h.add c false
  · exact h.add c true
  · exact h.widen.add c false
  · exact h.add c false

end Cluster

theorem flatMap_clustersFrom (k : Cluster) (cs : List Char) :
    (clustersFrom k cs).flatMap (·.text) = k.text ++ cs := by
  induction cs generalizing k with
  | nil => simp [clustersFrom]
  | cons c cs ih =>
    simp only [clustersFrom]
    split
    · next hk => simp [ih, Cluster.text_extend? hk]
    · simp [ih, Cluster.start]

theorem flatMap_clusters (cs : List Char) : (clusters cs).flatMap (·.text) = cs := by
  cases cs with
  | nil => rfl
  | cons c cs => exact flatMap_clustersFrom (.start c) cs

theorem settled_of_mem_clustersFrom {k next : Cluster} {cs : List Char} (hk : k.Settled)
    (h : next ∈ clustersFrom k cs) : next.Settled := by
  induction cs generalizing k with
  | nil =>
    simp only [clustersFrom, List.mem_singleton] at h
    exact h ▸ hk
  | cons c cs ih =>
    simp only [clustersFrom] at h
    split at h
    · next he => exact ih (hk.extend he) h
    · rcases List.mem_cons.mp h with rfl | h
      · exact hk
      · exact ih (Cluster.settled_start c) h

theorem width_le_two_of_mem_clusters {k : Cluster} {cs : List Char} (h : k ∈ clusters cs) :
    k.width ≤ 2 := by
  cases cs with
  | nil => nomatch h
  | cons c cs => exact (settled_of_mem_clustersFrom (Cluster.settled_start c) h).1

theorem flatten_groupsFrom (width used : Nat) (group ks : List Cluster) :
    (groupsFrom width used group ks).flatten = group.reverse ++ ks := by
  induction ks generalizing used group with
  | nil => simp [groupsFrom]
  | cons k ks ih =>
    simp only [groupsFrom]
    split <;> simp [ih]

theorem flatten_chunks (width : Nat) (cs : List Char) : (chunks width cs).flatten = cs := by
  have h := flatten_groupsFrom width 0 [] (clusters cs)
  rw [List.reverse_nil, List.nil_append] at h
  calc (chunks width cs).flatten
      = (groups width cs).flatMap fun group => (id group).flatMap (·.text) := by
        rw [chunks, ← List.flatMap_def]
        rfl
    _ = (groups width cs).flatten.flatMap (·.text) := by rw [← List.flatMap_assoc, List.flatMap_id]
    _ = cs := by rw [groups, h, flatMap_clusters]

theorem totalWidth_append (xs ys : List Cluster) :
    totalWidth (xs ++ ys) = totalWidth xs + totalWidth ys := by
  induction xs with
  | nil => simp [totalWidth]
  | cons k ks ih =>
    have hk : ∀ zs, totalWidth (k :: zs) = k.width + totalWidth zs := fun _ => rfl
    rw [List.cons_append, hk, hk, ih, Nat.add_assoc]

theorem totalWidth_reverse (ks : List Cluster) : totalWidth ks.reverse = totalWidth ks := by
  induction ks with
  | nil => rfl
  | cons k ks ih =>
    rw [List.reverse_cons, totalWidth_append, ih]
    exact Nat.add_comm ..

theorem totalWidth_le_of_mem_groupsFrom {width : Nat} {group ks piece : List Cluster}
    (hks : ∀ k ∈ ks, k.width ≤ width) (hgroup : totalWidth group ≤ width)
    (h : piece ∈ groupsFrom width (totalWidth group) group ks) : totalWidth piece ≤ width := by
  induction ks generalizing group with
  | nil =>
    simp only [groupsFrom, List.mem_singleton] at h
    subst h
    rwa [totalWidth_reverse]
  | cons k ks ih =>
    have hrest : ∀ k ∈ ks, k.width ≤ width := fun k hk => hks k (List.mem_cons_of_mem _ hk)
    have hcons : totalWidth group + k.width = totalWidth (k :: group) := Nat.add_comm ..
    simp only [groupsFrom, hcons] at h
    split at h
    · next hk => exact ih hrest hk h
    · rcases List.mem_cons.mp h with rfl | h
      · rwa [totalWidth_reverse]
      · have hone : totalWidth [k] ≤ width := hks k List.mem_cons_self
        exact ih hrest hone h

theorem totalWidth_le_of_mem_groups {width : Nat} (hw : 2 ≤ width) {cs : List Char}
    {group : List Cluster} (h : group ∈ groups width cs) : totalWidth group ≤ width :=
  @totalWidth_le_of_mem_groupsFrom width [] (clusters cs) group
    (fun _ hk => Nat.le_trans (width_le_two_of_mem_clusters hk) hw) (Nat.zero_le width) h

end BehaviorPlan.Text
