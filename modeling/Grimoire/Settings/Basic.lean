import Grimoire.Settings.Limits
import Grimoire.Settings.Vocabulary

/-! # Settings

What is fixed for an interpreter besides the effects it knows.
-/

namespace Grimoire

structure Settings (α : Type) where
  limits : Limits α
  vocabulary : Vocabulary
  /-- The width of lines that give none. -/
  lineWidth : α
  /-- The seed of calls that give none. -/
  seed : UInt64

namespace Settings

variable {α : Type} [Scalar α]

def standard : Settings α where
  limits := .unlimited
  vocabulary := .standard
  lineWidth := Scalar.ofNat 1
  seed := 0x5EEDCAFE

def production : Settings α := { standard with limits := .production }

end Settings

end Grimoire
