import BehaviorPlan.Number.Quantity
import BehaviorPlan.Text.Quoted

/-! # JSON text

Values are written in ASCII. With an indentation every element is on a line of its own; without
one the text is a single line. -/
namespace BehaviorPlan.Report

inductive JsonValue where
  | null
  | bool (b : Bool)
  | number (q : Quantity)
  | text (s : String)
  | array (items : List JsonValue)
  | object (fields : List (String × JsonValue))

namespace JsonValue

/-- Two escapes of 16 bits for a code point beyond 16 bits. -/
def surrogates (n : Nat) : List Char :=
  let m := n - 0x10000
  '\\' :: 'u' :: Text.hex 4 (0xD800 + m / 0x400) ++
    '\\' :: 'u' :: Text.hex 4 (0xDC00 + m % 0x400)

def escaped (c : Char) : List Char :=
  let n := c.toNat
  if c = '"' ∨ c = '\\' then ['\\', c]
  else if 32 ≤ n ∧ n ≤ 126 then [c]
  else if c = '\n' then ['\\', 'n']
  else if c = '\r' then ['\\', 'r']
  else if c = '\t' then ['\\', 't']
  else if n = 8 then ['\\', 'b']
  else if n = 12 then ['\\', 'f']
  else if n < 0x10000 then '\\' :: 'u' :: Text.hex 4 n
  else surrogates n

def quotedText (s : String) : String :=
  String.ofList ('"' :: s.toList.flatMap escaped ++ ['"'])

def numeral : Quantity → String
  | .real .nan => "NaN"
  | .real (.infinite false) => "Infinity"
  | .real (.infinite true) => "-Infinity"
  | q => q.text

/-- How elements are laid out: on lines of their own with this many blanks per level, or on one
line. -/
abbrev Indent := Option Nat

def newline (indent : Indent) (level : Nat) : String :=
  match indent with
  | some width => String.ofList ('\n' :: List.replicate (width * level) ' ')
  | none => ""

def separator (indent : Indent) : String :=
  if indent.isSome then "," else ", "

def bracketed (indent : Indent) (level : Nat) (opening closing : String) (items : List String) :
    String :=
  if items = [] then opening ++ closing
  else
    opening ++ newline indent (level + 1) ++
      (separator indent ++ newline indent (level + 1)).intercalate items ++
      newline indent level ++ closing

mutual

def write (indent : Indent) (level : Nat) : JsonValue → String
  | null => "null"
  | bool b => if b then "true" else "false"
  | number q => numeral q
  | text s => quotedText s
  | array items => bracketed indent level "[" "]" (writeItems indent (level + 1) items)
  | object fields =>
    bracketed indent level "\x7b" "\x7d" (writeFields indent (level + 1) fields)

def writeItems (indent : Indent) (level : Nat) : List JsonValue → List String
  | [] => []
  | v :: vs => write indent level v :: writeItems indent level vs

def writeFields (indent : Indent) (level : Nat) : List (String × JsonValue) → List String
  | [] => []
  | (k, v) :: fs => (quotedText k ++ ": " ++ write indent level v) :: writeFields indent level fs

end

def texts (names : List String) : JsonValue :=
  array (names.map text)

def optionalText : Option String → JsonValue
  | some s => text s
  | none => null

def int (n : Int) : JsonValue :=
  number (.whole n)

def nat (n : Nat) : JsonValue :=
  int n

theorem length_writeItems (indent : Indent) (level : Nat) (items : List JsonValue) :
    (writeItems indent level items).length = items.length := by
  induction items with
  | nil => rfl
  | cons v vs ih => simp [writeItems, ih]

end JsonValue

end BehaviorPlan.Report
