import BootSnapshot.Component.Category

set_option autoImplicit false

namespace BootSnapshot

/-- A component as a scan finds it. All but the first two fields belong to kexts. -/
structure Component where
  /-- The path below the directory of the category. -/
  relativePath : String
  category : Category
  /-- The executable inside the bundle; kexts without code have none. -/
  executablePath : Option String := none
  /-- The descriptor inside the bundle. -/
  infoPath : Option String := none
  bundleIdentifier : Option String := none
  /-- The identifiers of the bundles it links against. -/
  libraries : List String := []
deriving DecidableEq

/-- A path that a scan could not use, and why. -/
structure Skip where
  path : String
  reason : String
deriving DecidableEq

namespace Skip

def display (skip : Skip) : String := skip.path ++ ": " ++ skip.reason

/-- A skip told relative to a category directory, told relative to the root. -/
def within (skip : Skip) (directory : String) : Skip :=
  if skip.path = "" ∨ skip.path.toList.head? = some '/' then { skip with path := directory }
  else { skip with path := directory ++ "/" ++ skip.path }

/-- Skips are ordered by path, then by reason. -/
def le (a b : Skip) : Bool := a.path < b.path || a.path = b.path && a.reason ≤ b.reason

end Skip
end BootSnapshot
