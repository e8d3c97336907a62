import BehaviorPlan.Failure
import BehaviorPlan.Report.Line
import BehaviorPlan.Report.Theme
import BehaviorPlan.Text.Emoji

/-! # Markup of console text

Console text holds tags in square brackets. An opening tag names the style of the text up to the
closing tag, which has a slash before the name, or up to the end; a closing tag without a name
closes the tag opened last. A name that is no style has no effect. After an equals sign a tag has
parameters, which complete its name. A backslash before a tag makes it ordinary text, and two
backslashes there stand for one. Emoji codes in the text are replaced. -/
namespace BehaviorPlan.Report.Markup

open Text

def opensTag (c : Char) : Bool :=
  c.isLower || c = '#' || c = '/' || c = '@'

def inTag (c : Char) : Bool :=
  c ≠ '[' && c ≠ ']'

structure Found where
  escapes : Nat
  body : List Char
  rest : List Char
  deriving DecidableEq, Repr

def found? (cs : List Char) : Option Found :=
  match cs.dropWhile (· = '\\') with
  | '[' :: c :: inner =>
    if opensTag c then
      match inner.dropWhile inTag with
      | ']' :: rest =>
        some ⟨(cs.takeWhile (· = '\\')).length, c :: inner.takeWhile inTag, rest⟩
      | _ => none
    else none
  | _ => none

def Found.source (f : Found) : List Char :=
  List.replicate f.escapes '\\' ++ '[' :: f.body ++ [']']

theorem takeWhile_backslash (cs : List Char) :
    List.replicate (cs.takeWhile (· = '\\')).length '\\' = cs.takeWhile (· = '\\') := by
  induction cs with
  | nil => rfl
  | cons c cs ih =>
    by_cases h : c = '\\'
    · simp [h, List.replicate_succ, ih]
    · simp [h]

theorem eq_of_found? {cs : List Char} {f : Found} (h : found? cs = some f) :
    cs = f.source ++ f.rest := by
  unfold found? at h
  split at h
  · next c inner hd =>
    split at h
    · split at h
      · next rest hr =>
        simp only [Option.some.injEq] at h
        subst h
        have hcs := List.takeWhile_append_dropWhile (p := (· = '\\')) (l := cs)
        have hin := List.takeWhile_append_dropWhile (p := inTag) (l := inner)
        rw [hd] at hcs
        rw [hr] at hin
        calc cs = cs.takeWhile (· = '\\') ++ '[' :: c :: (inner.takeWhile inTag ++ ']' :: rest) := by
              rw [hin, hcs]
          _ = _ := by simp [Found.source, takeWhile_backslash]
      · simp at h
    · simp at h
  · simp at h

theorem length_rest_lt {cs : List Char} {f : Found} (h : found? cs = some f) :
    f.rest.length < cs.length := by
  have := congrArg List.length (eq_of_found? h)
  simp only [Found.source, List.length_append, List.length_cons] at this
  omega

/-- Puts a backslash before every tag and doubles the backslashes that stand before it. -/
def escapeTags (cs : List Char) : List Char :=
  match cs with
  | [] => []
  | c :: cs =>
    match _h : found? (c :: cs) with
    | some f => List.replicate (f.escapes + 1) '\\' ++ f.source ++ escapeTags f.rest
    | none => c :: escapeTags cs
termination_by cs.length
decreasing_by
  · exact length_rest_lt _h
  · simp

theorem found?_eq_none_of_not_mem {cs : List Char} (h : '[' ∉ cs) : found? cs = none := by
  cases hf : found? cs with
  | none => rfl
  | some f =>
    refine absurd ?_ h
    rw [eq_of_found? hf]
    simp [Found.source]

theorem escapeTags_of_not_mem {cs : List Char} (h : '[' ∉ cs) : escapeTags cs = cs := by
  induction cs with
  | nil => simp [escapeTags]
  | cons c cs ih =>
    have hcs : '[' ∉ cs := fun hm => h (List.mem_cons_of_mem _ hm)
    rw [escapeTags]
    split
    · next f hf => simp [found?_eq_none_of_not_mem h] at hf
    · rw [ih hcs]

/-- A single backslash at the end is doubled, because a tag may follow it. -/
def closed (cs : List Char) : List Char :=
  match cs.reverse with
  | ['\\'] => cs ++ ['\\']
  | '\\' :: c :: _ => if c = '\\' then cs else cs ++ ['\\']
  | _ => cs

def escape (s : String) : String :=
  String.ofList (closed (escapeTags s.toList))

inductive Token where
  | text (cs : List Char)
  | tag (body : List Char) (position : Nat)
  deriving DecidableEq, Repr

def textToken (cs : List Char) : List Token :=
  if cs = [] then [] else [.text cs]

/-- The tokens of a found tag at `position`: half of its backslashes, and the tag itself, which is
text after an odd number of them. -/
def Found.tokens (f : Found) (position : Nat) : List Token :=
  let half := f.escapes / 2
  textToken (List.replicate half '\\') ++
    [if f.escapes % 2 = 1 then .text ('[' :: f.body ++ [']']) else .tag f.body (position + 2 * half)]

/-- Splits a text into tokens. `pending` holds the text since the last tag, backwards. -/
def tokensFrom (position : Nat) (pending cs : List Char) : List Token :=
  match cs with
  | [] => textToken pending.reverse
  | c :: cs =>
    match _h : found? (c :: cs) with
    | some f => textToken pending.reverse ++ f.tokens position ++
      tokensFrom (position + f.source.length) [] f.rest
    | none => tokensFrom (position + 1) (c :: pending) cs
termination_by cs.length
decreasing_by
  · exact length_rest_lt _h
  · simp

def tokens (s : String) : List Token :=
  tokensFrom 0 [] s.toList

/-- A backslash before an opening bracket is dropped also where no tag follows. -/
def unescapeBrackets : List Char → List Char
  | '\\' :: '[' :: cs => '[' :: unescapeBrackets cs
  | c :: cs => c :: unescapeBrackets cs
  | [] => []

/-- What a console shows of the text between tags. -/
def shownText (cs : List Char) : List Char :=
  consoleText (replaceEmoji (unescapeBrackets cs))

/-- The name of a tag in the form by which its closing tag is found: the description of the style,
or the name itself in small letters if it is none. -/
def normalName (name : List Char) : Outcome String := do
  match ← Style.read name with
  | some style => return style.description
  | none => return String.ofList (lower (trim name))

structure Tag where
  name : String
  parameters : Option (List Char)
  deriving DecidableEq, Repr

namespace Tag

/-- What stands before the first equals sign is the name. -/
def ofBody (body : List Char) : Outcome Tag := do
  let name ← normalName (body.takeWhile (· ≠ '='))
  return ⟨name, (body.dropWhile (· ≠ '=')).tail?⟩

/-- A name that is not in the theme describes the style itself, together with the parameters. -/
def style (t : Tag) : Outcome Style := do
  let text := t.name.toList ++ t.parameters.elim [] (' ' :: ·)
  match themed? (String.ofList text) with
  | some style => return style
  | none => return (← Style.read text).getD .plain

end Tag

structure Opened where
  start : Nat
  tag : Tag
  deriving DecidableEq, Repr

structure Stretch where
  start : Nat
  stop : Nat
  tag : Tag
  deriving DecidableEq, Repr

/-- Text that has been read, with its closed stretches and its open tags, the last one first. -/
structure Progress where
  text : List Char := []
  done : List Stretch := []
  opened : List Opened := []
  deriving DecidableEq, Repr

namespace Progress

def close (p : Progress) (o : Opened) : Progress :=
  { p with done := ⟨o.start, p.text.length, o.tag⟩ :: p.done, opened := p.opened.erase o }

def read (p : Progress) : Token → Outcome Progress
  | .text cs => .ok { p with text := p.text ++ shownText cs }
  | .tag ('/' :: body) position => do
    let name := trim (body.takeWhile (· ≠ '='))
    if name = [] then
      match p.opened with
      | o :: _ => return p.close o
      | [] => throw (.unopened none position)
    else
      let name ← normalName name
      match p.opened.find? fun o => o.tag.name = name with
      | some o => return p.close o
      | none => throw (.unopened (some (String.ofList ('[' :: '/' :: body ++ [']']))) position)
  | .tag body _ => do
    return { p with opened := ⟨p.text.length, ← Tag.ofBody body⟩ :: p.opened }

/-- All stretches in the order of their starts. Of those with the same start, the one closed last
comes first. -/
def stretches (p : Progress) : List Stretch :=
  let all := (p.opened.map fun o => ⟨o.start, p.text.length, o.tag⟩).reverse ++ p.done
  all.mergeSort fun a b => decide (a.start ≤ b.start)

end Progress

/-- Styles of later stretches are laid over those of earlier ones. -/
def styleAt (stretches : List (Stretch × Style)) (position : Nat) : Style :=
  (stretches.filter fun (s, _) => decide (s.start ≤ position) && decide (position < s.stop)).foldl
    (fun lower (_, style) => style.layeredOn lower) .plain

def Progress.line (p : Progress) : Outcome Line := do
  let stretches ← p.stretches.mapM fun s => return (s, ← s.tag.style)
  let bounds := (p.stretches.flatMap fun s => [s.start, s.stop]).mergeSort fun a b => decide (a ≤ b)
  return (0 :: bounds).zipWith (fun a b => ⟨styleAt stretches a, (p.text.take b).drop a⟩)
    (bounds ++ [p.text.length])

def line (s : String) : Outcome Line := do
  (← (tokens s).foldlM Progress.read {}).line

end BehaviorPlan.Report.Markup
