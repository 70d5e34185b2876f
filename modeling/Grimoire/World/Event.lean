import Grimoire.Expression.Value
import Grimoire.Names

/-! # Events

What effects tell the outside.  Events change nothing in a world but the log they are kept in.
-/

namespace Grimoire

structure Event (α : Type) where
  name : String
  source : Option EntityId
  target : Option EntityId
  tick : Nat
  payload : NameMap (Value α) := ∅

end Grimoire
