/-! # Powers

The powers that digits, bits and words are counted with.
-/

namespace Grimoire

abbrev twoTo (n : Nat) : Nat := Nat.pow 2 n

abbrev tenTo (n : Nat) : Nat := Nat.pow 10 n

end Grimoire
