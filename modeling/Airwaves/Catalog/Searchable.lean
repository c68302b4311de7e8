import Airwaves.World
import Airwaves.Unicode.Alnum
/-!
# Searchable names

Names are searched in a folded form: spelled in ASCII by the `unidecode` library, lower-cased,
and only letters, digits and blanks kept. A value that is not text is folded through its text,
doubles in their shortest form. A search finds the names whose folded form holds the folded
search text.
-/
namespace Airwaves.Searchable

/-- The text a value is folded through. -/
def text : Value → String
  | .str s => s
  | .float x => FloatText.shortest x
  | v => v.display

/-- Whether a search keeps a character: a letter, a digit or a blank. -/
def isKept (c : Char) : Bool := Unicode.isAlnum c || c == ' '

/-- The searchable form of a name, for a `unidecode`. -/
def fold (unidecode : String → String) (v : Value) : String :=
  String.ofList ((Unicode.lower (unidecode (text v))).toList.filter isKept)

/-- The searchable form of a name, with the world's `unidecode`. -/
def foldIn (v : Value) : Act String := do return fold (← get).libraries.unidecode v

@[simp] theorem foldIn_run (v : Value) (w : World) :
    (foldIn v).run w = .ok (fold w.libraries.unidecode v) w := rfl

/-- The pattern of a search for a folded text: the text anywhere in a name. -/
def likePattern (folded : String) : String := "%" ++ folded ++ "%"

end Airwaves.Searchable
