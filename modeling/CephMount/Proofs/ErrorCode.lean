import CephMount.ErrorCode

/-! The arithmetic of error codes, over all words.

An error is genuine when its code is not that of success, so that checking the code gives the error
back. A code keeps its magnitude exactly. An error built from a number has the magnitude of the number,
held at the greatest word, and is genuine unless the number is zero.
-/

set_option autoImplicit false

namespace CephMount

/-! Magnitudes. -/

/-- Only the least word has a magnitude that is no word. -/
theorem natAbs_toInt_lt {value : Int32} (other : value ≠ Int32.minValue) :
    value.toInt.natAbs < 2147483648 := by
  have differs : value.toInt ≠ -2 ^ 31 := fun least =>
    other (Int32.toInt_inj.mp (least.trans Int32.toInt_minValue.symm))
  have least := value.le_toInt
  have greatest := value.toInt_lt
  omega

theorem toInt_neg_of_ne_minValue {value : Int32} (other : value ≠ Int32.minValue) :
    (-value).toInt = -value.toInt := by
  have small := natAbs_toInt_lt other
  rw [Int32.toInt_neg]
  exact Int.bmod_eq_of_le (by omega) (by omega)

theorem toInt_saturatingMagnitude (value : Int32) :
    (saturatingMagnitude value).toInt = (min value.toInt.natAbs 2147483647 : Nat) := by
  unfold saturatingMagnitude
  split
  next same =>
    subst same
    decide
  next other =>
    have small := natAbs_toInt_lt other
    split
    next negative =>
      have below : value.toInt < 0 := Int32.lt_iff_toInt_lt.mp negative
      rw [toInt_neg_of_ne_minValue other]
      omega
    next positive =>
      have above : ¬value.toInt < 0 := fun below => positive (Int32.lt_iff_toInt_lt.mpr below)
      omega

namespace ErrorCode

theorem errno_ofErrno (value : Int32) :
    (ofErrno value).errno = min value.toInt.natAbs 2147483647 := by
  have magnitude := toInt_saturatingMagnitude value
  have other : saturatingMagnitude value ≠ Int32.minValue := by
    intro same
    rw [same, Int32.toInt_minValue] at magnitude
    omega
  rw [ofErrno, errno, toInt_neg_of_ne_minValue other, magnitude, Int.natAbs_neg, Int.natAbs_natCast]

theorem errno_eq_zero_iff {error : ErrorCode} : error.errno = 0 ↔ error.code = 0 := by
  rw [errno, Int.natAbs_eq_zero, ← Int32.toInt_zero, Int32.toInt_inj]

/-- A known error number is reported by the code of the error that is built from it. -/
theorem ofErrno_ofNat {errno : Errno} (word : errno < 2147483648) :
    ofErrno (.ofNat errno) = ⟨errno.code⟩ := by
  have magnitude : saturatingMagnitude (.ofNat errno) = .ofNat errno := by
    apply Int32.toInt_inj.mp
    rw [toInt_saturatingMagnitude, Int32.toInt_ofNat_of_lt word, Int.natAbs_natCast,
      Nat.min_eq_left (Nat.le_of_lt_succ word)]
  rw [ofErrno, magnitude, Errno.code]

/-! Errors that stand for a failure. -/

/-- The error stands for a failure: its code is not that of success, and checking the code gives the
error back. -/
structure Genuine (error : ErrorCode) : Prop where
  nonzero : error.code ≠ 0
  checked : check error.code = .error error

theorem genuine_iff {error : ErrorCode} : error.Genuine ↔ error.code ≠ 0 :=
  ⟨Genuine.nonzero, fun nonzero => ⟨nonzero, (check_eq_error_iff ..).mpr ⟨nonzero, rfl⟩⟩⟩

theorem ofCode?_eq_some_iff {code : Int32} {error : ErrorCode} :
    ofCode? code = some error ↔ code ≠ 0 ∧ error = ⟨code⟩ := by
  by_cases zero : code = 0 <;> simp [ofCode?, zero, eq_comm]

theorem genuine_of_ofCode? {code : Int32} {error : ErrorCode} (made : ofCode? code = some error) :
    error.Genuine := by
  obtain ⟨nonzero, rfl⟩ := ofCode?_eq_some_iff.mp made
  exact genuine_iff.mpr nonzero

theorem ofErrno_genuine_iff (errno : Int32) : (ofErrno errno).Genuine ↔ errno ≠ 0 := by
  have zero : (ofErrno errno).code = 0 ↔ errno = 0 := by
    rw [← errno_eq_zero_iff, errno_ofErrno, Nat.min_eq_zero_iff]
    exact (or_iff_left (by decide)).trans (@errno_eq_zero_iff ⟨errno⟩)
  exact genuine_iff.trans (not_congr zero)

/-- The error built from zero is taken for success. -/
theorem ofErrno_zero_not_genuine :
    ¬(ofErrno 0).Genuine ∧ (ofErrno 0).code = 0 ∧ check (ofErrno 0).code = .ok () :=
  ⟨fun genuine => genuine.nonzero rfl, rfl, rfl⟩

/-- The error of a code, or another one in its place where the code is that of success. -/
theorem getD_ofCode? (code other : Int32) :
    (ofCode? code).getD ⟨other⟩ = ⟨if code = 0 then other else code⟩ := by
  by_cases zero : code = 0 <;> simp [ofCode?, zero]

/-- An input/output error in place of success is genuine, and so is every other error of a code. -/
theorem getD_inputOutput_genuine (code : Int32) :
    ((ofCode? code).getD ⟨Errno.inputOutput.code⟩).Genuine := by
  cases made : ofCode? code with
  | some error => exact genuine_of_ofCode? made
  | none =>
    rw [Option.getD_none, ← ofErrno_ofNat (by decide), ofErrno_genuine_iff]
    decide

/-! Errors by their numbers. -/

/-- The errors are described in the same way, and questions about them are answered alike. -/
structure Alike (first second : ErrorCode) : Prop where
  description : first.description? = second.description?
  notFound : first.isNotFound = second.isNotFound
  alreadyExists : first.isAlreadyExists = second.isAlreadyExists
  notConnected : first.isNotConnected = second.isNotConnected
  permissionDenied : first.isPermissionDenied = second.isPermissionDenied

theorem alike_of_errno {first second : ErrorCode} (same : first.errno = second.errno) :
    first.Alike second where
  description := congrArg Errno.description? same
  notFound := congrArg (· == Errno.noEntry) same
  alreadyExists := congrArg (· == Errno.alreadyThere) same
  notConnected := congrArg (· == Errno.notConnected) same
  permissionDenied := congrArg (fun errno => errno == Errno.accessDenied || errno == Errno.notPermitted) same

theorem message_of_errno {first second : ErrorCode} (same : first.errno = second.errno) :
    first.message = second.message := by
  rw [message, message, (alike_of_errno same).description, same]

/-- The word that the system is given for the error is its number, and positive. -/
structure FitsSystem (error : ErrorCode) : Prop where
  positive : 0 < error.systemCode
  exact : error.systemCode.toInt = error.errno

theorem fitsSystem_of_errno {error : ErrorCode} (positive : 0 < error.errno)
    (word : error.errno < 2147483648) : error.FitsSystem := by
  have exact : error.systemCode.toInt = error.errno := Int32.toInt_ofNat_of_lt word
  refine ⟨Int32.lt_iff_toInt_lt.mpr ?_, exact⟩
  rw [exact, Int32.toInt_zero]
  exact Int.natCast_pos.mpr positive

/-- The two errors that a word makes, the one that keeps it as a code and the one that is built from it as
a number, are exact and cannot be told apart by what is shown of them. -/
structure Exact (value : Int32) (kept built : ErrorCode) : Prop where
  keptErrno : kept.errno = value.toInt.natAbs
  builtErrno : built.errno = value.toInt.natAbs
  alike : kept.Alike built
  message : kept.message = built.message
  keptFits : kept.FitsSystem
  builtFits : built.FitsSystem

/-- What is left of that over all words: the error built from the least word is held at the greatest
one, where there is still no description. -/
structure Saturates (value : Int32) (kept built : ErrorCode) : Prop where
  keptErrno : kept.errno = value.toInt.natAbs
  builtErrno : built.errno = min value.toInt.natAbs 2147483647
  alike : kept.Alike built
  builtFits : built.FitsSystem
  exact : value ≠ Int32.minValue → Exact value kept built

theorem exact_of_ne_minValue {value : Int32} (nonzero : value ≠ 0) (other : value ≠ Int32.minValue) :
    Exact value ⟨value⟩ (ofErrno value) := by
  have small := natAbs_toInt_lt other
  have positive : 0 < value.toInt.natAbs :=
    Nat.pos_of_ne_zero fun zero => nonzero ((@errno_eq_zero_iff ⟨value⟩).mp zero)
  have built : (ofErrno value).errno = value.toInt.natAbs :=
    (errno_ofErrno value).trans (Nat.min_eq_left (Nat.le_of_lt_succ small))
  exact {
    keptErrno := rfl
    builtErrno := built
    alike := alike_of_errno built.symm
    message := message_of_errno built.symm
    keptFits := fitsSystem_of_errno positive small
    builtFits := fitsSystem_of_errno (built ▸ positive) (built ▸ small) }

theorem least_saturates : Saturates Int32.minValue ⟨Int32.minValue⟩ (ofErrno Int32.minValue) where
  keptErrno := rfl
  builtErrno := rfl
  alike := by constructor <;> decide
  builtFits := ⟨by decide, by decide⟩
  exact other := absurd rfl other

/-- A word other than zero makes two errors of its magnitude, which are described alike and fit the
system. At the least word, the error that is built is held at the greatest magnitude of a word. -/
theorem magnitudes_exact (value : Int32) (nonzero : value ≠ 0) :
    ∃ kept, ofCode? value = some kept ∧ Saturates value kept (ofErrno value) := by
  refine ⟨⟨value⟩, ofCode?_eq_some_iff.mpr ⟨nonzero, rfl⟩, ?_⟩
  by_cases least : value = Int32.minValue
  · subst least
    exact least_saturates
  · have exact := exact_of_ne_minValue nonzero least
    exact {
      keptErrno := exact.keptErrno
      builtErrno := errno_ofErrno value
      alike := exact.alike
      builtFits := exact.builtFits
      exact := fun _ => exact }

/-- At the least word the magnitude is held, and at the one above it both errors are exact. -/
theorem least_magnitudes_exact :
    (Int32.minValue ≠ 0 ∧ ∃ kept, ofCode? Int32.minValue = some kept ∧
      kept.message = "cephfs: ret=2147483648" ∧
      (ofErrno Int32.minValue).message = "cephfs: ret=2147483647" ∧
      Saturates Int32.minValue kept (ofErrno Int32.minValue)) ∧
    ((-2147483647 : Int32) ≠ 0 ∧ ∃ kept, ofCode? (-2147483647) = some kept ∧
      kept.message = "cephfs: ret=2147483647" ∧
      Exact (-2147483647) kept (ofErrno (-2147483647))) := by
  constructor
  · have nonzero : Int32.minValue ≠ 0 := by decide
    obtain ⟨kept, made, saturates⟩ := magnitudes_exact Int32.minValue nonzero
    obtain ⟨-, rfl⟩ := ofCode?_eq_some_iff.mp made
    exact ⟨nonzero, _, made, by decide, by decide, saturates⟩
  · have nonzero : (-2147483647 : Int32) ≠ 0 := by decide
    obtain ⟨kept, made, saturates⟩ := magnitudes_exact (-2147483647) nonzero
    obtain ⟨-, rfl⟩ := ofCode?_eq_some_iff.mp made
    exact ⟨nonzero, _, made, by decide, saturates.exact (by decide)⟩

/-- At the least word neither error is exact: the one that is built falls short of the magnitude, and the
one that keeps the word has a number that the system's word cannot hold. -/
theorem least_not_exact :
    Int32.minValue ≠ 0 ∧ ofCode? Int32.minValue = some ⟨Int32.minValue⟩ ∧
      (ofErrno Int32.minValue).errno ≠ Int32.minValue.toInt.natAbs ∧
      ¬(ErrorCode.mk Int32.minValue).FitsSystem ∧
      ¬Exact Int32.minValue ⟨Int32.minValue⟩ (ofErrno Int32.minValue) := by
  have short : (ofErrno Int32.minValue).errno ≠ Int32.minValue.toInt.natAbs := by decide
  have wrapped : ¬0 < (ErrorCode.mk Int32.minValue).systemCode := by decide
  exact ⟨by decide, rfl, short, fun fits => wrapped fits.positive, fun exact => short exact.builtErrno⟩

end ErrorCode

end CephMount
