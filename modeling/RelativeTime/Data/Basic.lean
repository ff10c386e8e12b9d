import RelativeTime.Data.Shortest
import RelativeTime.Text.Quoted

/-!
Structured data: what a document holds before anything is known about its shape. Numbers are
whole, or of double precision if they were written with a point or an exponent.
-/
namespace RelativeTime

inductive Data
  | null
  | bool (b : Bool)
  | integer (n : Int)
  | float (x : Float)
  | text (s : String)
  | list (items : List Data)
  | record (fields : List (String × Data))
  deriving Inhabited

namespace Data

/-- The value of a field; the last one counts where a name is repeated. -/
def field? (fields : List (String × Data)) (name : String) : Option Data :=
  (fields.reverse.find? fun f => f.1 == name).map (·.2)

mutual

/-- How a value is shown inside another one. -/
def display : Data → String
  | null => "None"
  | bool b => if b then "True" else "False"
  | integer n => toString n
  | float x => floatText x
  | text s => Text.quoted s
  | list items => "[" ++ String.intercalate ", " (displayItems items) ++ "]"
  | record fields => "\x7b" ++ String.intercalate ", " (displayFields fields) ++ "\x7d"

def displayItems : List Data → List String
  | [] => []
  | d :: ds => d.display :: displayItems ds

def displayFields : List (String × Data) → List String
  | [] => []
  | (name, d) :: fs => (Text.quoted name ++ ": " ++ d.display) :: displayFields fs

end

/-- How a value is shown by itself: a text without quotes. -/
def shown : Data → String
  | text s => s
  | d => d.display

end Data

end RelativeTime
