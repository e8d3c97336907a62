import BehaviorPlan.Checked
import BehaviorPlan.Name.Identifier
import BehaviorPlan.Text.Character
import BehaviorPlan.Text.Lines

/-! # Scanning generated code

Generated code has a regular shape, so a light scan is enough to find string literals, line
comments, method declarations and the blocks that belong to them. -/
namespace BehaviorPlan

structure Method where
  name : String
  declaration : String
  body : String := ""
  deriving DecidableEq, Repr

instance : Checked Method where
  defect? m := (blank? "name" m.name).or (blank? "declaration" m.declaration)

structure ClassSource where
  name : String
  source : String
  /-- The methods, if they are known from generating the class. -/
  methods : List Method := []
  deriving DecidableEq, Repr

namespace ClassSource

instance : Checked ClassSource where
  defect? c := blank? "class_name" c.name

def method? (c : ClassSource) (name : String) : Option Method :=
  c.methods.find? (·.name = name)

end ClassSource

namespace Code

open Text

/-- What follows a string literal whose opening quote was read. A backslash takes the next
character with it, but not a line feed. -/
def afterLiteral? : List Char → Option (List Char)
  | [] => none
  | '"' :: cs => some cs
  | ['\\'] => none
  | '\\' :: c :: cs => if c = '\n' then none else afterLiteral? cs
  | _ :: cs => afterLiteral? cs

theorem length_afterLiteral? {cs rest : List Char} (h : afterLiteral? cs = some rest) :
    rest.length < cs.length := by
  fun_induction afterLiteral? cs with
  | case1 => simp at h
  | case2 cs => simp_all
  | case3 => simp at h
  | case4 => simp_all
  | case5 c cs hc ih =>
    have := ih h
    simp only [List.length_cons]
    omega
  | case6 c cs _ _ _ ih =>
    have := ih h
    simp only [List.length_cons]
    omega

/-- Empties every string literal. A quote that opens no literal stays. -/
def emptyLiterals (cs : List Char) : List Char :=
  match cs with
  | [] => []
  | c :: cs =>
    if c = '"' then
      match _h : afterLiteral? cs with
      | some rest => '"' :: '"' :: emptyLiterals rest
      | none => '"' :: emptyLiterals cs
    else c :: emptyLiterals cs
termination_by cs.length
decreasing_by
  · have := length_afterLiteral? _h
    simp only [List.length_cons]
    omega
  · simp
  · simp

theorem length_dropWhile_le (p : Char → Bool) (cs : List Char) :
    (cs.dropWhile p).length ≤ cs.length :=
  (List.dropWhile_sublist p).length_le

def dropComments (cs : List Char) : List Char :=
  match cs with
  | [] => []
  | '/' :: '/' :: cs => dropComments (cs.dropWhile (· ≠ '\n'))
  | c :: cs => c :: dropComments cs
termination_by cs.length
decreasing_by
  · have := length_dropWhile_le (fun c => decide (c ≠ '\n')) cs
    simp only [List.length_cons]
    omega
  · simp

def stripLiterals (cs : List Char) : List Char :=
  dropComments (emptyLiterals cs)

/-- The text up to the closing brace that matches an opening brace just before it, or all of it.
`depth` counts the braces opened since. -/
def block (depth : Nat) : List Char → List Char
  | [] => []
  | c :: cs =>
    if c = '\x7b' then c :: block (depth + 1) cs
    else if c = '\x7d' then
      match depth with
      | 0 => []
      | depth + 1 => c :: block depth cs
    else c :: block depth cs

def nextBlock (cs : List Char) : List Char :=
  match cs.dropWhile (· ≠ '\x7b') with
  | [] => []
  | _ :: cs => block 0 cs

def modifiers : List String :=
  ["public", "private", "protected", "internal", "static", "override", "virtual", "abstract",
    "sealed"]

def statementWords : List String :=
  ["if", "for", "foreach", "while", "switch", "return", "new", "else", "using", "catch", "lock"]

def afterBlanks? : List Char → Option (List Char)
  | [] => none
  | c :: cs => if isBlank c then some (cs.dropWhile isBlank) else none

def afterModifier? (cs : List Char) : Option (List Char) :=
  (modifiers.find? fun m => m.toList.isPrefixOf cs).bind fun m => afterBlanks? (cs.drop m.length)

theorem length_afterBlanks? {cs rest : List Char} (h : afterBlanks? cs = some rest) :
    rest.length < cs.length := by
  cases cs with
  | nil => simp [afterBlanks?] at h
  | cons c cs =>
    simp only [afterBlanks?] at h
    split at h
    · simp only [Option.some.injEq] at h
      subst h
      have := length_dropWhile_le isBlank cs
      simp only [List.length_cons]
      omega
    · simp at h

theorem length_afterModifier? {cs rest : List Char} (h : afterModifier? cs = some rest) :
    rest.length < cs.length := by
  obtain ⟨m, _, hm⟩ := Option.bind_eq_some_iff.mp h
  have := length_afterBlanks? hm
  simp only [List.length_drop] at this
  omega

/-- What follows all modifiers, what follows all but the last, and so on; the whole text is the
last one. -/
def afterModifiers (cs : List Char) : List (List Char) :=
  match _h : afterModifier? cs with
  | some rest => afterModifiers rest ++ [cs]
  | none => [cs]
termination_by cs.length
decreasing_by exact length_afterModifier? _h

def isTypeChar (c : Char) : Bool :=
  isWordChar c || ['<', '>', '[', ']', ',', '.'].contains c

/-- A declaration is over in the line in which its parameters start. -/
def isParameterChar (c : Char) : Bool :=
  c != '\n' && c != ';' && c != '\x7b' && c != '\x7d'

def isSpaceOrTab (c : Char) : Bool :=
  c == ' ' || c == '\t'

def atLineEnd : List Char → Bool
  | [] => true
  | c :: _ => c == '\n'

/-- A declared method: its name, the blanks after its declaration, and what follows them. -/
structure Signature where
  name : List Char
  trailing : List Char
  rest : List Char
  deriving DecidableEq, Repr

def parameters? (name cs : List Char) : Option Signature :=
  let inside := cs.takeWhile isParameterChar
  let rest := cs.dropWhile isParameterChar
  let trailing := inside.reverse.takeWhile isSpaceOrTab
  if atLineEnd rest ∧ (inside.reverse.dropWhile isSpaceOrTab).head? = some ')' then
    some ⟨name, trailing, rest⟩
  else none

def named? (cs : List Char) : Option Signature :=
  if cs.head?.any Name.isIdentStart then
    match (cs.dropWhile isWordChar).dropWhile isBlank with
    | [] => none
    | c :: rest => if c = '(' then parameters? (cs.takeWhile isWordChar) rest else none
  else none

def signature? (cs : List Char) : Option Signature :=
  if cs.head?.any Name.isIdentStart ∧
      String.ofList (cs.takeWhile isWordChar) ∉ statementWords then
    (afterBlanks? (cs.dropWhile isTypeChar)).bind named?
  else none

theorem length_parameters? {name cs : List Char} {s : Signature}
    (h : parameters? name cs = some s) : s.rest.length ≤ cs.length := by
  simp only [parameters?] at h
  split at h
  · simp only [Option.some.injEq] at h
    subst h
    exact length_dropWhile_le _ _
  · simp at h

theorem length_named? {cs : List Char} {s : Signature} (h : named? cs = some s) :
    s.rest.length < cs.length := by
  simp only [named?] at h
  split at h
  · split at h
    · simp at h
    · rename_i c rest hr
      split at h
      · have h₁ := length_parameters? h
        have h₂ := length_dropWhile_le isBlank (cs.dropWhile isWordChar)
        have h₃ := length_dropWhile_le isWordChar cs
        rw [hr] at h₂
        simp only [List.length_cons] at h₂
        omega
      · simp at h
  · simp at h

theorem length_signature? {cs : List Char} {s : Signature} (h : signature? cs = some s) :
    s.rest.length < cs.length := by
  simp only [signature?] at h
  split at h
  · obtain ⟨rest, hr, hs⟩ := Option.bind_eq_some_iff.mp h
    have h₁ := length_named? hs
    have h₂ := length_afterBlanks? hr
    have h₃ := length_dropWhile_le isTypeChar cs
    omega
  · simp at h

/-- A declaration at the start of a line. As many modifiers as possible are read as such. -/
def declarationAt? (line : List Char) : Option (List Char × Signature) :=
  let cs := line.dropWhile isSpaceOrTab
  ((afterModifiers cs).findSome? signature?).map fun s =>
    (cs.take (cs.length - s.rest.length - s.trailing.length), s)

theorem length_le_of_mem_afterModifiers {cs rest : List Char} (h : rest ∈ afterModifiers cs) :
    rest.length ≤ cs.length := by
  fun_induction afterModifiers cs with
  | case1 cs next hn ih =>
    have hlt := length_afterModifier? hn
    rcases List.mem_append.mp h with h | h
    · have := ih h
      omega
    · simp only [List.mem_singleton] at h
      simp [h]
  | case2 cs hn => simp_all

theorem length_declarationAt? {line text : List Char} {s : Signature}
    (h : declarationAt? line = some (text, s)) : s.rest.length < line.length := by
  simp only [declarationAt?] at h
  obtain ⟨s', hs, he⟩ := Option.map_eq_some_iff.mp h
  simp only [Prod.mk.injEq] at he
  obtain ⟨_, rfl⟩ := he
  obtain ⟨rest, hm, hr⟩ := List.exists_of_findSome?_eq_some hs
  have h₁ := length_signature? hr
  have h₂ := length_le_of_mem_afterModifiers hm
  have h₃ := length_dropWhile_le isSpaceOrTab line
  omega

def nextLine? (cs : List Char) : Option (List Char) :=
  match cs.dropWhile (· ≠ '\n') with
  | [] => none
  | _ :: cs => some cs

theorem length_nextLine? {cs rest : List Char} (h : nextLine? cs = some rest) :
    rest.length < cs.length := by
  have hd := length_dropWhile_le (fun c => decide (c ≠ '\n')) cs
  simp only [nextLine?] at h
  split at h
  · simp at h
  · rename_i he
    simp only [Option.some.injEq] at h
    subst h
    rw [he] at hd
    simp only [List.length_cons] at hd
    omega

/-- Methods declared in a text that begins at the start of a line. -/
def scanMethods (cs : List Char) : List Method :=
  match _h : declarationAt? cs with
  | some (text, s) =>
    { name := String.ofList s.name
      declaration := String.ofList (trim text)
      body := String.ofList (nextBlock s.rest) } ::
      match _h' : nextLine? s.rest with
      | some rest => scanMethods rest
      | none => []
  | none =>
    match _h' : nextLine? cs with
    | some rest => scanMethods rest
    | none => []
termination_by cs.length
decreasing_by
  · have h₁ := length_declarationAt? _h
    have h₂ := length_nextLine? _h'
    omega
  · exact length_nextLine? _h'

/-- Methods of a class: those recorded with it, or else those found in its text. -/
def declaredMethods (c : ClassSource) : List Method :=
  if c.methods = [] then scanMethods c.source.toList else c.methods

def declarationLine? (source declaration : String) : Option Nat :=
  (before? declaration.toList source.toList).map lineAfter

end Code

end BehaviorPlan
