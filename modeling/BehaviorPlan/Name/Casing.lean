import BehaviorPlan.Text.Casing

/-! # Pascal case and snake case

Pascal case joins words with a capital letter each; words are separated by underscores, hyphens
and spaces. Snake case puts an underscore before every capital letter but the first character
and lowers it. -/
namespace BehaviorPlan.Name

open Text

def isSeparator (c : Char) : Bool :=
  c == '_' || c == '-' || c == ' '

/-- The words of a text: its longest pieces without separators. -/
def words (cs : List Char) : List (List Char) :=
  (cs.splitOnP isSeparator).filter (· ≠ [])

def pascalWord : List Char → List Char
  | [] => []
  | c :: cs => upperChar c ++ lower cs

def pascalText (cs : List Char) : List Char :=
  (words cs).flatMap pascalWord

def toPascal (name : String) : String :=
  String.ofList (pascalText name.toList)

def capitalText : List Char → List Char
  | [] => []
  | c :: cs => upperChar c ++ cs

def capitalize (name : String) : String :=
  String.ofList (capitalText name.toList)

def snakeTail (cs : List Char) : List Char :=
  cs.flatMap fun c => if isUpper c then '_' :: lowerChar c else [c]

def snakeText : List Char → List Char
  | [] => []
  | c :: cs => (if isUpper c then lowerChar c else [c]) ++ snakeTail cs

def toSnake (name : String) : String :=
  String.ofList (snakeText name.toList)

theorem snakeTail_append (xs ys : List Char) :
    snakeTail (xs ++ ys) = snakeTail xs ++ snakeTail ys := by
  simp [snakeTail]

theorem toList_toPascal (name : String) : (toPascal name).toList = pascalText name.toList := by
  simp [toPascal]

theorem toList_toSnake (name : String) : (toSnake name).toList = snakeText name.toList := by
  simp [toSnake]

end BehaviorPlan.Name
