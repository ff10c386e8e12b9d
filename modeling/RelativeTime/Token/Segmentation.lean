import RelativeTime.Token.Scanner

/-!
What it means to cut a text into runs, said without cutting it: the runs put together are the
text, each is a run of one class, and no two neighbours could be one run.
-/
namespace RelativeTime.Token

/-- A single operator, or characters of one other class. -/
def IsRun (run : List Char) : Prop :=
  (∃ c, run = [c] ∧ classOf c = .operator) ∨
    (run ≠ [] ∧ ∃ k, k ≠ .operator ∧ ∀ c ∈ run, classOf c = k)

/-- Two runs that may stand side by side: not both of one class, unless they are operators. -/
def Separate (a b : List Char) : Prop :=
  ∀ c ∈ a, ∀ d ∈ b, classOf c = classOf d → classOf c = .operator

/-- Every run may stand before the one that follows it. -/
def AllSeparate : List (List Char) → Prop
  | a :: b :: rs => Separate a b ∧ AllSeparate (b :: rs)
  | _ => True

structure IsSegmentation (text : List Char) (rs : List (List Char)) : Prop where
  flatten_eq : rs.flatten = text
  isRun : ∀ r ∈ rs, IsRun r
  allSeparate : AllSeparate rs

end RelativeTime.Token
