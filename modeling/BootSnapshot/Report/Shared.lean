import BootSnapshot.Decimal.Natural
import BootSnapshot.Text.Pieces

set_option autoImplicit false

namespace BootSnapshot.Report

/-- A title in bold and underlined letters. -/
def heading (title : String) : String := "\x1b[4m\x1b[1m" ++ title ++ "\x1b[0m\x1b[0m"

/-- A titled list with a line for every item, set off by an empty line; nothing without items. -/
def titledList (title : String) (items : List String) : String :=
  if items.isEmpty then ""
  else
    "\n\n" ++ title ++ " (" ++ Decimal.natText items.length ++ "):" ++
      String.join (items.map ("\n  - " ++ ·))

end BootSnapshot.Report
