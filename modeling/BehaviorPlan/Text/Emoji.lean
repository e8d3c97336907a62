import BehaviorPlan.Text.Casing
import BehaviorPlan.Text.Character
import BehaviorPlan.Text.EmojiTable

/-! # Emoji codes

An emoji code is an emoji name between two colons, in letters of any case. Codes are looked for
from left to right: a colon is paired with the next one if there is no blank between them, and
what stands between two paired colons is not looked at again. -/
namespace BehaviorPlan.Text

def emoji? (name : List Char) : Option (List Char) :=
  let name := String.ofList (lower name)
  (emojis.find? fun e => e.1 == name).map fun e => e.2.toList

/-- The ends of a code that ask for an emoji to be drawn as text or in colour, with the variation
selector that does so. -/
def variants : List (List Char × Char) :=
  [("-emoji".toList, Char.ofNat 0xFE0F), ("-text".toList, Char.ofNat 0xFE0E)]

def emojiFor? (code : List Char) : Option (List Char) :=
  match variants.find? fun v => v.1.isSuffixOf code with
  | some (ending, selector) =>
    (emoji? (code.take (code.length - ending.length))).map (· ++ [selector])
  | none => emoji? code

def inCode (c : Char) : Bool :=
  c ≠ ':' && !(isBlank c)

def code? (cs : List Char) : Option (List Char × List Char) :=
  match cs.dropWhile inCode with
  | ':' :: rest => some (cs.takeWhile inCode, rest)
  | _ => none

theorem eq_of_code? {cs code rest : List Char} (h : code? cs = some (code, rest)) :
    cs = code ++ ':' :: rest := by
  unfold code? at h
  split at h
  · next r hr =>
    simp only [Option.some.injEq, Prod.mk.injEq] at h
    obtain ⟨rfl, rfl⟩ := h
    rw [← hr, List.takeWhile_append_dropWhile]
  · simp at h

/-- Replaces emoji codes; other texts between colons stay. -/
def replaceEmoji (cs : List Char) : List Char :=
  match cs with
  | [] => []
  | c :: cs =>
    if c = ':' then
      match _h : code? cs with
      | some (code, rest) =>
        (emojiFor? code).getD (':' :: code ++ [':']) ++ replaceEmoji rest
      | none => c :: replaceEmoji cs
    else c :: replaceEmoji cs
termination_by cs.length
decreasing_by
  · have := congrArg List.length (eq_of_code? _h)
    simp only [List.length_append, List.length_cons] at this ⊢
    omega
  · simp
  · simp

theorem replaceEmoji_of_not_mem {cs : List Char} (h : ':' ∉ cs) : replaceEmoji cs = cs := by
  induction cs with
  | nil => simp [replaceEmoji]
  | cons c cs ih =>
    simp only [List.mem_cons, not_or] at h
    rw [replaceEmoji, if_neg (Ne.symm h.1), ih h.2]

end BehaviorPlan.Text
