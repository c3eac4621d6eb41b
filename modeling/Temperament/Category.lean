import Temperament.Fault
import Temperament.Text.Blank

/-!
# The four categories

A category is bound to one option position, the same in every question.  The order of the positions
is the canonical order, in which the first of several equal scores wins.
-/

namespace Temperament

inductive Category
  | explorer
  | thinker
  | social
  | disciplined
  deriving DecidableEq, Inhabited

namespace Category

/-- All categories in canonical order. -/
def all : List Category :=
  [explorer, thinker, social, disciplined]

def position : Category → Nat
  | explorer => 0
  | thinker => 1
  | social => 2
  | disciplined => 3

def ofPosition? (index : Nat) : Option Category :=
  all[index]?

theorem ofPosition?_position (c : Category) : ofPosition? c.position = some c := by
  cases c <;> rfl

theorem ofPosition?_eq_some_iff {index : Nat} {c : Category} :
    ofPosition? index = some c ↔ index = c.position := by
  constructor
  · intro h
    match index with
    | 0 | 1 | 2 | 3 => obtain rfl := Option.some.inj h; rfl
    | n + 4 => simp [ofPosition?, all] at h
  · rintro rfl
    exact ofPosition?_position c

def name : Category → String
  | explorer => "explorer"
  | thinker => "thinker"
  | social => "social"
  | disciplined => "disciplined"

instance : ToString Category := ⟨name⟩

def ofName? (s : String) : Option Category :=
  all.find? (·.name == s)

theorem ofName?_name (c : Category) : ofName? c.name = some c := by
  cases c <;> decide

/-- Reads a name with blanks around it. -/
def parse (s : String) : Except Fault Category :=
  match ofName? (Text.trimmed s) with
  | some c => .ok c
  | none => .error (.unknownCategory (Text.trimmed s))

end Category

end Temperament
