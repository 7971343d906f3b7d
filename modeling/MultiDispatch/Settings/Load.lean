import MultiDispatch.Settings
import MultiDispatch.Toml.Decoder

/-! Settings from TOML text. What a setting is called, what may stand under it and what it is without
a value is said here; reading the text and decoding its values is left to a library. -/
namespace MultiDispatch

variable {ε : Type}

namespace Settings

/-- The keys that name a setting, and what stands under them. -/
def fields (lib : Toml.Library ε) : List (Toml.Field ε Settings) := [
  ⟨"auto-register", fun v => do
    let b ← lib.boolean v
    return fun s => { s with autoRegister := b }⟩,
  ⟨"conversion-reach", fun v => do
    let reach ← lib.enumeration Reach.variants v
    return fun s => { s with reach }⟩]

/-- The settings of a root table. -/
def decode (lib : Toml.Library ε) (root : Toml.Entries) : Except ε Settings :=
  lib.record (fields lib) {} root

def loadWith (lib : Toml.Library ε) (text : String) : Except ε Settings := do
  decode lib (← lib.parse text)

def load : String → Except LoadError Settings := loadWith Toml.library

end Settings

end MultiDispatch
