import CephMount.Bytes

/-! Names of files, as byte strings, and the lists of names that one argument may hold.

Two names are the same when they lead the same way: repeated and final slashes do not count, nor does
a single dot, unless the name begins with it.
-/

set_option autoImplicit false

namespace CephMount.FileName

def slash : UInt8 := 0x2F
def dot : UInt8 := 0x2E
def comma : UInt8 := 0x2C

/-- Where a name starts, and the parts that it leads through. -/
structure Components where
  fromRoot : Bool
  parts : List Bytes
  deriving DecidableEq, Repr

/-- A part behind a slash that leads somewhere. -/
def counts (part : Bytes) : Bool := part != [] && part != [dot]

def components (name : Bytes) : Components :=
  match name.splitOn slash with
  | [] => ⟨false, []⟩
  | [] :: rest => ⟨!rest.isEmpty, rest.filter counts⟩
  | first :: rest => ⟨false, first :: rest.filter counts⟩

/-- The blanks of a list: space, tab, line feed, form feed and carriage return. -/
def isBlank (byte : UInt8) : Bool := [0x20, 0x09, 0x0A, 0x0C, 0x0D].contains byte

def trim (name : Bytes) : Bytes :=
  ((name.dropWhile isBlank).reverse.dropWhile isBlank).reverse

/-- The names of a list with commas, without the blanks around them. -/
def ofList (list : Bytes) : List Bytes := (list.splitOn comma).map trim

end CephMount.FileName
