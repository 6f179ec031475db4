import Shaderbox.Files.Path

/-!
# Settings of the shader pipeline
-/

namespace Shaderbox

/-- The largest size that can be counted: all ones in 64 bits. -/
def sizeMax : Nat := 18446744073709551615

/-- The largest capacity that a buffer can have: all ones in 63 bits. -/
def capacityMax : Nat := 9223372036854775807

/-- Settings of the shader pipeline. -/
structure ShaderConfig where
  /-- Directory that include names are resolved against, whatever file includes them. -/
  root : Path := ⟨"shaders"⟩
  /-- Most bytes of an expanded stage, and most bytes read of one file. -/
  maxSourceSize : Nat := 64 * 1024
  /-- Files that one expansion may read, the top-level file included. -/
  includeBudget : Int := 8
deriving DecidableEq

namespace ShaderConfig

/-- Longest accepted include name, in bytes. -/
def maxIncludeNameSize : Nat := 63

/-- Full path of a file named relative to the shader root. -/
def path (config : ShaderConfig) (name : Path) : Path :=
  config.root.join name

end ShaderConfig

end Shaderbox
