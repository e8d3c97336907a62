import Mathlib.Data.List.Induction
import Mathlib.Data.List.Nodup
import BehaviorPlan.Table

/-! # First occurrences and tables

Erasing repetitions keeps every element at its first occurrence. A table made from pairs with
distinct keys holds exactly these pairs. -/
namespace BehaviorPlan

/-- A scan that remembers what it has seen finds no repetition here and none after it. -/
theorem nodup_fresh_cons_iff {α : Type} {seen l : List α} {a : α} :
    ((a :: l).Nodup ∧ ∀ b ∈ a :: l, b ∉ seen) ↔
      a ∉ seen ∧ l.Nodup ∧ ∀ b ∈ l, b ∉ a :: seen := by
  simp only [List.nodup_cons, List.mem_cons, forall_eq_or_imp, not_or]
  constructor
  · rintro ⟨⟨ha, hl⟩, hs, h⟩
    exact ⟨hs, hl, fun b hb => ⟨fun he => ha (he ▸ hb), h b hb⟩⟩
  · rintro ⟨hs, hl, h⟩
    exact ⟨⟨fun ha => (h a ha).1 rfl, hl⟩, hs, fun b hb => (h b hb).2⟩

theorem eq_singleton_iff_of_nodup {α : Type} {l : List α} {a : α} (h : l.Nodup) :
    l = [a] ↔ a ∈ l ∧ ∀ b ∈ l, b = a := by
  constructor
  · rintro rfl
    simp
  · rintro ⟨ha, hall⟩
    by_contra hne
    rcases (h.ne_singleton_iff a).mp hne with rfl | ⟨b, hb, hba⟩
    · simp at ha
    · exact hba (hall b hb)

theorem two_le_length_iff_of_nodup {α : Type} {l : List α} (h : l.Nodup) :
    2 ≤ l.length ↔ ∃ a ∈ l, ∃ b ∈ l, a ≠ b := by
  match l, h with
  | [], _ => simp
  | [a], _ => simp
  | a :: b :: l, h =>
    have hab : a ≠ b := fun he => (List.nodup_cons.mp h).1 (by simp [he])
    simp only [List.length_cons, Nat.le_add_left, true_iff]
    exact ⟨a, by simp, b, by simp, hab⟩

/-- Distinct keys cut a list into groups that hold every element with one of the keys, as often as
the list does. -/
theorem flatMap_filter_perm {α κ : Type} [DecidableEq κ] (key : α → κ) {keys : List κ}
    (hn : keys.Nodup) (l : List α) :
    (keys.flatMap fun k => l.filter (key · = k)).Perm (l.filter (key · ∈ keys)) := by
  induction keys with
  | nil => simp
  | cons k keys ih =>
    obtain ⟨hk, hn⟩ := List.nodup_cons.mp hn
    have hfirst : (l.filter (key · ∈ k :: keys)).filter (key · = k) = l.filter (key · = k) := by
      rw [List.filter_filter]
      refine List.filter_congr fun a _ => ?_
      by_cases ha : key a = k <;> simp [ha]
    have hrest : (l.filter (key · ∈ k :: keys)).filter (fun a => !decide (key a = k)) =
        l.filter (key · ∈ keys) := by
      rw [List.filter_filter]
      refine List.filter_congr fun a _ => ?_
      by_cases ha : key a = k <;> simp [ha, hk]
    have hsplit := List.filter_append_perm (key · = k) (l.filter (key · ∈ k :: keys))
    rw [hfirst, hrest] at hsplit
    rw [List.flatMap_cons]
    exact ((ih hn).append_left _).trans hsplit

section Sorting

variable {α : Type} (size : α → Nat)

theorem decide_size_trans (a b c : α) (hab : decide (size b ≤ size a) = true)
    (hbc : decide (size c ≤ size b) = true) : decide (size c ≤ size a) = true := by
  simp only [decide_eq_true_eq] at hab hbc ⊢
  omega

theorem decide_size_total (a b : α) :
    (decide (size b ≤ size a) || decide (size a ≤ size b)) = true := by
  simp only [Bool.or_eq_true, decide_eq_true_eq]
  omega

end Sorting

section FirstOccurrence

variable {α : Type} [DecidableEq α]

theorem eraseDups_concat (l : List α) (a : α) :
    (l ++ [a]).eraseDups = if a ∈ l then l.eraseDups else l.eraseDups ++ [a] := by
  rw [List.eraseDups_append, List.cons_removeAll]
  by_cases h : a ∈ l <;> simp [h, List.eraseDups_cons]

theorem eraseDups_filter (p : α → Bool) (l : List α) :
    (l.filter p).eraseDups = l.eraseDups.filter p := by
  induction l using List.reverseRecOn with
  | nil => rfl
  | append_singleton l a ih =>
    rw [List.filter_append, eraseDups_concat]
    by_cases ha : p a = true
    · rw [List.filter_cons_of_pos ha, List.filter_nil, eraseDups_concat, ih]
      by_cases hl : a ∈ l
      · rw [if_pos hl, if_pos (List.mem_filter.mpr ⟨hl, ha⟩)]
      · rw [if_neg hl, if_neg fun hm => hl (List.mem_filter.mp hm).1, List.filter_append,
          List.filter_cons_of_pos ha, List.filter_nil]
    · rw [List.filter_cons_of_neg ha, List.filter_nil, List.append_nil, ih]
      split
      · rfl
      · rw [List.filter_append, List.filter_cons_of_neg ha, List.filter_nil, List.append_nil]

theorem pairwise_idxOf_eraseDups (l : List α) :
    l.eraseDups.Pairwise fun a b => l.idxOf a < l.idxOf b := by
  induction l using List.reverseRecOn with
  | nil => simp
  | append_singleton l a ih =>
    have hold : l.eraseDups.Pairwise fun b c => (l ++ [a]).idxOf b < (l ++ [a]).idxOf c := by
      refine ih.imp_of_mem fun {b c} hb hc h => ?_
      rw [List.mem_eraseDups] at hb hc
      rwa [List.idxOf_append_of_mem hb, List.idxOf_append_of_mem hc]
    rw [eraseDups_concat]
    split
    · exact hold
    · rename_i ha
      refine List.pairwise_append.mpr ⟨hold, List.pairwise_singleton _ _, ?_⟩
      intro b hb c hc
      rw [List.mem_eraseDups] at hb
      rw [List.mem_singleton.mp hc, List.idxOf_append_of_mem hb, List.idxOf_append_of_notMem ha]
      exact Nat.lt_add_right _ (List.idxOf_lt_length_of_mem hb)

theorem nodup_eraseDups (l : List α) : l.eraseDups.Nodup :=
  (pairwise_idxOf_eraseDups l).imp fun h he => absurd (he ▸ h) (Nat.lt_irrefl _)

theorem eraseDups_eq_nil_iff {l : List α} : l.eraseDups = [] ↔ l = [] := by
  simp only [List.eq_nil_iff_forall_not_mem, List.mem_eraseDups]

theorem eraseDups_eq_self {l : List α} (h : l.Nodup) : l.eraseDups = l := by
  induction l using List.reverseRecOn with
  | nil => rfl
  | append_singleton l a ih =>
    obtain ⟨hl, _, hd⟩ := List.nodup_append.mp h
    have ha : a ∉ l := fun hm => hd a hm a (by simp) rfl
    rw [eraseDups_concat, if_neg ha, ih hl]

theorem pairwise_idxOf_of_nodup {l : List α} (h : l.Nodup) :
    l.Pairwise fun a b => l.idxOf a < l.idxOf b := by
  simpa only [eraseDups_eq_self h] using pairwise_idxOf_eraseDups l

/-- Lists without repetitions that hold the same in the order of a third one are equal. -/
theorem eq_of_perm_of_sublist {k l all : List α} (hn : all.Nodup) (hk : k.Sublist all)
    (hl : l.Sublist all) (h : k.Perm l) : k = l := by
  have hall := pairwise_idxOf_of_nodup hn
  exact h.eq_of_pairwise (fun _ _ _ _ hab hba => absurd hba (Nat.lt_asymm hab))
    (hall.sublist hk) (hall.sublist hl)

end FirstOccurrence

section Groups

variable {α β : Type}

theorem eraseDups_map_const {l : List α} (h : l ≠ []) (key : String) :
    (l.map fun _ => key).eraseDups = [key] := by
  rw [eq_singleton_iff_of_nodup (nodup_eraseDups _)]
  obtain ⟨a, ha⟩ := List.exists_mem_of_ne_nil l h
  simp only [List.mem_eraseDups, List.mem_map]
  exact ⟨⟨a, ha, trivial⟩, fun b ⟨_, _, hb⟩ => hb.symm⟩

/-- If every group names its key, the keys are the names in order of first occurrence. -/
theorem eraseDups_flatMap_map_const {key : β → String} {l : List β} {group : β → List α}
    (hn : (l.map key).Nodup) (h : ∀ b ∈ l, group b ≠ []) :
    (l.flatMap fun b => (group b).map fun _ => key b).eraseDups = l.map key := by
  induction l with
  | nil => rfl
  | cons b l ih =>
    obtain ⟨hnot, hn⟩ := List.nodup_cons.mp hn
    have hlater : (l.flatMap fun b => (group b).map fun _ => key b).removeAll
        ((group b).map fun _ => key b) = l.flatMap fun b => (group b).map fun _ => key b := by
      refine List.filter_eq_self.mpr fun name hname => ?_
      obtain ⟨other, hother, hname⟩ := List.mem_flatMap.mp hname
      obtain ⟨_, _, rfl⟩ := List.mem_map.mp hname
      have hne : key other ≠ key b := fun he => hnot (he ▸ List.mem_map_of_mem hother)
      simp [hne]
    rw [List.flatMap_cons, List.eraseDups_append, hlater,
      eraseDups_map_const (h b (List.mem_cons_self ..)),
      ih hn fun other hother => h other (List.mem_cons_of_mem _ hother), List.map_cons,
      List.singleton_append]

theorem flatMap_filter_of_forall {l : List β} {p : β → Bool} {group : β → List α}
    (h : ∀ b ∈ l, ¬ p b → group b = []) : (l.filter p).flatMap group = l.flatMap group := by
  induction l with
  | nil => rfl
  | cons b l ih =>
    have hrest := ih fun a ha => h a (List.mem_cons_of_mem _ ha)
    by_cases hb : p b = true
    · rw [List.filter_cons_of_pos hb, List.flatMap_cons, List.flatMap_cons, hrest]
    · rw [List.filter_cons_of_neg hb, hrest, List.flatMap_cons, h b (List.mem_cons_self ..) hb,
        List.nil_append]

theorem flatMap_ite_of_mem (key : β → String) {l : List β} (hn : (l.map key).Nodup) {b : β}
    (h : b ∈ l) (group : β → List α) :
    (l.flatMap fun a => if key a = key b then group a else []) = group b := by
  obtain ⟨before, after, rfl⟩ := List.append_of_mem h
  rw [List.map_append, List.map_cons] at hn
  obtain ⟨hnot, -⟩ := List.nodup_cons.mp (List.nodup_middle.mp hn)
  rw [List.mem_append, not_or] at hnot
  have hnone : ∀ {rest : List β}, key b ∉ rest.map key →
      (rest.flatMap fun a => if key a = key b then group a else []) = [] := by
    intro rest hrest
    refine List.flatMap_eq_nil_iff.mpr fun a ha => if_neg fun he => hrest ?_
    exact he ▸ List.mem_map_of_mem ha
  rw [List.flatMap_append, List.flatMap_cons, hnone hnot.1, hnone hnot.2, if_pos rfl,
    List.nil_append, List.append_nil]

theorem flatMap_ite_eq {keys : List String} {group : String → List α} (hn : keys.Nodup)
    {key : String} (h : key ∉ keys → group key = []) :
    (keys.flatMap fun k => if k = key then group k else []) = group key := by
  by_cases hkey : key ∈ keys
  · exact flatMap_ite_of_mem id (by rwa [List.map_id]) hkey group
  · rw [h hkey]
    refine List.flatMap_eq_nil_iff.mpr fun k hk => if_neg ?_
    rintro rfl
    exact hkey hk

end Groups

namespace Table

variable {α : Type}

theorem mem_entries_of_get? {t : Table α} {key : String} {value : α} (h : t.get? key = some value) :
    (key, value) ∈ t.entries := by
  obtain ⟨l₁, l₂, he, _⟩ := List.lookup_eq_some_iff.mp h
  simp [he]

theorem get?_of_mem_entries {t : Table α} (hn : t.keys.Nodup) {key : String} {value : α}
    (h : (key, value) ∈ t.entries) : t.get? key = some value := by
  obtain ⟨l₁, l₂, he⟩ := List.append_of_mem h
  refine List.lookup_eq_some_iff.mpr ⟨l₁, l₂, he, ?_⟩
  intro e hm
  simp only [keys, he, List.map_append, List.map_cons] at hn
  have hne : e.1 ≠ key := fun heq =>
    (List.nodup_append.mp hn).2.2 e.1 (List.mem_map_of_mem hm) key (by simp) heq
  simpa using hne.symm

theorem get?_eq_some_iff {t : Table α} (hn : t.keys.Nodup) {key : String} {value : α} :
    t.get? key = some value ↔ (key, value) ∈ t.entries :=
  ⟨mem_entries_of_get?, get?_of_mem_entries hn⟩

theorem lookup_replace (entries : List (String × α)) (key : String) (value : α)
    (other : String) :
    (entries.map fun e => if e.1 = key then (key, value) else e).lookup other =
      if other = key ∧ key ∈ entries.map (·.1) then some value else entries.lookup other := by
  induction entries with
  | nil => simp
  | cons e entries ih =>
    by_cases he : e.1 = key <;> by_cases ho : other = key <;> grind

theorem get?_eq_none {t : Table α} {key : String} (h : key ∉ t.keys) : t.get? key = none := by
  refine List.lookup_eq_none_iff.mpr fun e he => bne_iff_ne.mpr fun heq => h ?_
  exact List.mem_map.mpr ⟨e, he, heq.symm⟩

theorem get?_insert (t : Table α) (key : String) (value : α) (other : String) :
    (t.insert key value).get? other = if other = key then some value else t.get? other := by
  unfold insert
  split
  · rename_i hkey
    rw [get?, lookup_replace]
    simp only [show key ∈ t.entries.map (·.1) from hkey, and_true]
    rfl
  · rename_i hkey
    rw [get?, List.lookup_append]
    by_cases ho : other = key
    · subst ho
      rw [show t.entries.lookup other = none from get?_eq_none hkey]
      simp
    · have hb : (other == key) = false := by simpa using ho
      simp [List.lookup_cons, hb, ho, get?]

theorem insert_ofKeys (keys : List String) (value : String → α) (key : String) (new : α) :
    (ofKeys keys value).insert key new =
      ofKeys (if key ∈ keys then keys else keys ++ [key])
        fun k => if k = key then new else value k := by
  rw [insert, keys_ofKeys]
  by_cases hkey : key ∈ keys
  · rw [if_pos hkey, if_pos hkey, ofKeys, ofKeys, List.map_map]
    congr 1
    apply List.map_congr_left
    intro k _
    by_cases hk : k = key
    · simp [hk]
    · simp [hk]
  · have hold : keys.map (fun k => (k, value k)) =
        keys.map fun k => (k, if k = key then new else value k) := by
      apply List.map_congr_left
      intro k hk
      have hne : k ≠ key := fun he => hkey (he ▸ hk)
      rw [if_neg hne]
    rw [if_neg hkey, if_neg hkey, ofKeys, ofKeys, List.map_append, hold]
    simp

theorem push_ofKeys {keys : List String} {value : String → List α} {key : String}
    (h : key ∉ keys → value key = []) (new : α) :
    (ofKeys keys value).push key new =
      ofKeys (if key ∈ keys then keys else keys ++ [key])
        fun k => if k = key then value key ++ [new] else value k := by
  have hold : ((ofKeys keys value).get? key).getD [] = value key := by
    rw [get?_ofKeys]
    by_cases hkey : key ∈ keys
    · rw [if_pos hkey, Option.getD_some]
    · rw [if_neg hkey, Option.getD_none, h hkey]
  rw [push, hold, insert_ofKeys]

theorem mem_entries_insert {t : Table α} {key : String} {value : α} {e : String × α}
    (h : e ∈ (t.insert key value).entries) : e = (key, value) ∨ e ∈ t.entries := by
  unfold insert at h
  split at h
  · obtain ⟨e', he', rfl⟩ := List.mem_map.mp h
    split
    · exact Or.inl rfl
    · exact Or.inr he'
  · rcases List.mem_append.mp h with h | h
    · exact Or.inr h
    · exact Or.inl (List.mem_singleton.mp h)

theorem keys_insert (t : Table α) (key : String) (value : α) :
    (t.insert key value).keys = if key ∈ t.keys then t.keys else t.keys ++ [key] := by
  unfold insert
  split
  · rename_i hkey
    have hsame : ∀ e ∈ t.entries, (if e.1 = key then (key, value) else e).1 = e.1 := by
      intro e _
      split
      · rename_i he
        exact he.symm
      · rfl
    rw [keys, List.map_map]
    exact List.map_congr_left hsame
  · rw [keys, List.map_append, List.map_singleton]
    rfl

theorem ofPairs_concat (pairs : List (String × α)) (key : String) (value : α) :
    ofPairs (pairs ++ [(key, value)]) = (ofPairs pairs).insert key value := by
  rw [ofPairs, List.foldl_append]
  rfl

theorem nodup_keys_ofPairs (pairs : List (String × α)) : (ofPairs pairs).keys.Nodup := by
  induction pairs using List.reverseRecOn with
  | nil => exact List.nodup_nil
  | append_singleton pairs p ih =>
    rw [ofPairs_concat, keys_insert]
    split
    · exact ih
    · rename_i hkey
      rw [← List.concat_eq_append]
      exact List.Nodup.concat hkey ih

theorem get?_ofPairs_append_const (pairs : List (String × α)) (names : List String) (value : α)
    (key : String) : (ofPairs (pairs ++ names.map (·, value))).get? key =
      if key ∈ names then some value else (ofPairs pairs).get? key := by
  induction names using List.reverseRecOn with
  | nil => simp
  | append_singleton names name ih =>
    rw [List.map_append, List.map_singleton, ← List.append_assoc, ofPairs_concat, get?_insert, ih]
    by_cases hkey : key = name
    · simp [hkey]
    · simp [hkey]

theorem foldl_insert_of_nodup (pairs : List (String × α)) (t : Table α)
    (h : (t.keys ++ pairs.map (·.1)).Nodup) :
    pairs.foldl (fun t p => t.insert p.1 p.2) t = ⟨t.entries ++ pairs⟩ := by
  induction pairs generalizing t with
  | nil => simp
  | cons p pairs ih =>
    have hp : p.1 ∉ t.keys := fun hm => (List.nodup_append.mp h).2.2 p.1 hm p.1 (by simp) rfl
    have hi : t.insert p.1 p.2 = ⟨t.entries ++ [p]⟩ := by simp [insert, hp]
    rw [List.foldl_cons, hi, ih]
    · simp
    · simpa [keys, List.append_assoc] using h

theorem ofPairs_of_nodup {pairs : List (String × α)} (h : (pairs.map (·.1)).Nodup) :
    ofPairs pairs = ⟨pairs⟩ := by
  simpa [ofPairs, empty] using foldl_insert_of_nodup pairs empty (by simpa [empty, keys] using h)

end Table

end BehaviorPlan
