import BehaviorPlan.Text.Casing

/-! # Identifiers

A name is an identifier if it starts with an ASCII letter or an underscore and goes on with
ASCII letters, digits and underscores. One line feed at the very end is tolerated. Names of
generated classes must not be C# keywords. -/
namespace BehaviorPlan.Name

open Text

def isIdentStart (c : Char) : Bool :=
  c.isAlpha || c == '_'

def isIdentRest (c : Char) : Bool :=
  c.isAlphanum || c == '_'

def dropFinalNewline (cs : List Char) : List Char :=
  if cs.getLast? = some '\n' then cs.dropLast else cs

def isIdentifierText : List Char → Bool
  | [] => false
  | c :: cs => isIdentStart c && (dropFinalNewline cs).all isIdentRest

def isIdentifier (name : String) : Bool :=
  isIdentifierText name.toList

def keywords : List String :=
  ["abstract", "as", "base", "bool", "break", "byte", "case", "catch", "char", "checked", "class",
    "const", "continue", "decimal", "default", "delegate", "do", "double", "else", "enum", "event",
    "explicit", "extern", "false", "finally", "fixed", "float", "for", "foreach", "goto", "if",
    "implicit", "in", "int", "interface", "internal", "is", "lock", "long", "namespace", "new",
    "null", "object", "operator", "out", "override", "params", "private", "protected", "public",
    "readonly", "ref", "return", "sbyte", "sealed", "short", "sizeof", "stackalloc", "static",
    "string", "struct", "switch", "this", "throw", "true", "try", "typeof", "uint", "ulong",
    "unchecked", "unsafe", "ushort", "using", "virtual", "void", "volatile", "while"]

def isKeyword (name : String) : Bool :=
  keywords.contains name

/-- The name can be given to a generated class. -/
def isClassName (name : String) : Bool :=
  isIdentifier name && !isKeyword name

def startsUpper (name : String) : Bool :=
  name.toList.head?.any isUpper

def isPascal (name : String) : Bool :=
  isIdentifier name && startsUpper name

def isNamespace (name : String) : Bool :=
  (name.toList.splitOn '.').all isIdentifierText

theorem isIdentifier_empty : isIdentifier "" = false := by
  simp [isIdentifier, isIdentifierText]

theorem isClassName_iff (name : String) :
    isClassName name = true ↔ isIdentifier name = true ∧ name ∉ keywords := by
  simp [isClassName, isKeyword]

theorem ne_empty_of_isIdentifier {name : String} (h : isIdentifier name = true) : name ≠ "" := by
  rintro rfl
  simp [isIdentifier_empty] at h

theorem isIdentifier_of_isClassName {name : String} (h : isClassName name = true) :
    isIdentifier name = true :=
  ((isClassName_iff name).mp h).1

/-- Without a final line feed an identifier has identifier characters only. -/
theorem isIdentifierText_cons {c : Char} {cs : List Char} (h : cs.getLast? ≠ some '\n') :
    isIdentifierText (c :: cs) = (isIdentStart c && cs.all isIdentRest) := by
  simp [isIdentifierText, dropFinalNewline, h]

end BehaviorPlan.Name
