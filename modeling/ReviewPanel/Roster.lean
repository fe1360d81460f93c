/-!
# Rosters

Lists of named things in which a thing stands where one of its name was first
put, and a later one of the same name takes its place.
-/

namespace ReviewPanel.Roster

variable {α : Type}

/-- Puts `x` in place of the first thing of its name, or at the end. -/
def put (name : α → String) (x : α) : List α → List α
  | [] => [x]
  | y :: rest => if name y = name x then x :: rest else y :: put name x rest

/-- The first thing of a name. -/
def find? (name : α → String) (wanted : String) (xs : List α) : Option α :=
  xs.find? fun x => name x == wanted

end ReviewPanel.Roster
