import Std.Data.ExtTreeMap
import Std.Data.ExtTreeSet

/-! # Tables by name

Sets and tables whose keys are names.  They list their keys in the order of the characters, and two
of them that hold the same are equal.
-/

namespace Grimoire

abbrev NameSet := Std.ExtTreeSet String compare

abbrev NameMap (β : Type) := Std.ExtTreeMap String β compare

namespace NameMap

/-- A table with entries given in order; of two with one name the later one counts. -/
def ofPairs {β : Type} (pairs : List (String × β)) : NameMap β := Std.ExtTreeMap.ofList pairs compare

end NameMap

end Grimoire
