import CephMount.Errno

/-! Result codes of the storage library, and the one place where "zero means success" is decided.

A code is kept exactly as the library returned it. Its magnitude is the platform error number that
selects the text, the kind and the predicates.
-/

set_option autoImplicit false

namespace CephMount

/-- A result code taken for a failure. -/
structure ErrorCode where
  code : Int32
  deriving DecidableEq, Repr

/-- Zero is success and names no error. -/
def ErrorCode.ofCode? (code : Int32) : Option ErrorCode :=
  if code = 0 then none else some ⟨code⟩

/-- The magnitude of a word, held at the greatest word where it has no place. -/
def saturatingMagnitude (value : Int32) : Int32 :=
  if value = Int32.minValue then Int32.maxValue else if value < 0 then -value else value

/-- The code by which the library reports a platform error number. -/
def ErrorCode.ofErrno (errno : Int32) : ErrorCode := ⟨-(saturatingMagnitude errno)⟩

/-- The code by which the library reports one of the known error numbers. -/
def Errno.code (errno : Errno) : Int32 := -(Int32.ofNat errno)

/-- The magnitude of the code, exact over all words. -/
def ErrorCode.errno (error : ErrorCode) : Errno := error.code.toInt.natAbs

def ErrorCode.description? (error : ErrorCode) : Option String := error.errno.description?

def ErrorCode.isNotFound (error : ErrorCode) : Bool := error.errno == Errno.noEntry

def ErrorCode.isAlreadyExists (error : ErrorCode) : Bool := error.errno == Errno.alreadyThere

def ErrorCode.isNotConnected (error : ErrorCode) : Bool := error.errno == Errno.notConnected

def ErrorCode.isPermissionDenied (error : ErrorCode) : Bool :=
  error.errno == Errno.accessDenied || error.errno == Errno.notPermitted

def ErrorCode.message (error : ErrorCode) : String :=
  match error.description? with
  | some text => "cephfs: ret=" ++ toString error.errno ++ ", " ++ text
  | none => "cephfs: ret=" ++ toString error.errno

/-- The kind of input/output failure that the error stands for. -/
def ErrorCode.kind (error : ErrorCode) : FailureKind := error.errno.kind

/-- The error number as a word; the magnitude of the least code wraps. -/
def ErrorCode.systemCode (error : ErrorCode) : Int32 := Int32.ofNat error.errno

/-- Turn the result code of a call into a result. -/
def check (code : Int32) : Except ErrorCode Unit :=
  match ErrorCode.ofCode? code with
  | none => .ok ()
  | some error => .error error

theorem check_eq_error_iff (code : Int32) (error : ErrorCode) :
    check code = .error error ↔ code ≠ 0 ∧ error.code = code := by
  cases error
  by_cases zero : code = 0 <;> simp [check, ErrorCode.ofCode?, zero, eq_comm]

end CephMount
