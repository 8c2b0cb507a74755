import CephMount.Program
import CephMount.Text.Quoted

/-! The version of the storage library, which belongs to no mount. -/

set_option autoImplicit false

namespace CephMount

structure LibraryVersion where
  major : Int32
  minor : Int32
  patch : Int32
  /-- The library's own words, which may be empty. -/
  text : String
  deriving DecidableEq, Repr

namespace LibraryVersion

def numbers (version : LibraryVersion) : String :=
  toString version.major ++ "." ++ toString version.minor ++ "." ++ toString version.patch

def description (version : LibraryVersion) : String :=
  "LibraryVersion \x7b major: " ++ toString version.major ++ ", minor: " ++
    toString version.minor ++ ", patch: " ++ toString version.patch ++ ", text: " ++
    Quoted.text version.text ++ " \x7d"

/-- Ask the library. A null text is an empty one. -/
def query : Program LibraryVersion := do
  let answer ← Program.perform .version
  return ⟨answer.major, answer.minor, answer.patch, (answer.text.map Terminated.text).getD ""⟩

end LibraryVersion

end CephMount
