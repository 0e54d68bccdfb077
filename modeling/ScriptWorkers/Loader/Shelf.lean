/-!
# Scripts kept in memory

The shelf is the loader of programs that bring their scripts with them: sources by their names, put
there and taken away at any time.
-/

namespace ScriptWorkers

/-- Sources by their names; a name occurs once. -/
structure Shelf (α : Type) where
  scripts : List (String × α) := []

namespace Shelf

variable {α : Type}

/-- The source of that name. -/
def get? (s : Shelf α) (id : String) : Option α := s.scripts.lookup id

/-- There is a source of that name. -/
def contains (s : Shelf α) (id : String) : Bool := (s.get? id).isSome

/-- Takes the source of a name away. -/
def erase (s : Shelf α) (id : String) : Shelf α := ⟨s.scripts.filter (·.1 != id)⟩

/-- Puts a source under a name, in place of the one there. -/
def insert (s : Shelf α) (id : String) (source : α) : Shelf α :=
  ⟨(id, source) :: (s.erase id).scripts⟩

/-- The wording when there is none of that name. -/
def missing (id : String) : String := "no script registered as " ++ id

end Shelf
end ScriptWorkers
