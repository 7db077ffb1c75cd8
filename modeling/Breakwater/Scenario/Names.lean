/-!
Values that the steps of a scenario know by name.
-/

namespace Breakwater.Scenario

/-- Values by name, the latest use of a name first. -/
abbrev Names (β : Type) := List (String × β)

namespace Names

variable {β : Type}

/-- The values without the one of a name. -/
def erase (names : Names β) (name : String) : Names β := names.filter (·.1 != name)

/-- The values with one of them set. -/
def put (names : Names β) (name : String) (value : β) : Names β := (name, value) :: names.erase name

end Names

end Breakwater.Scenario
