import Mathlib.Data.UInt

/-!
# Error codes

An `error_code` is an `int` with a category and is an error exactly when the
`int` is not zero. `::mysql_errno` is an `unsigned int` that `error_wrapper`
stores under the client category as it stands, so a null result with errno `0`
leaves a code of the client category that is no error.
-/

namespace Amy

/-- `error_category`, by its singletons. -/
inductive Category where
  | system
  | client
  | misc
  deriving DecidableEq, Repr

structure ErrorCode where
  value : Int32
  category : Category
  deriving DecidableEq, Repr

namespace ErrorCode

/-- `error_code()`. -/
def clear : ErrorCode := ⟨0, .system⟩

/-- `operator bool` of `error_code`. -/
def failed (ec : ErrorCode) : Bool := ec.value != 0

/-- `error_code(::mysql_errno(m), get_client_category())`. -/
def client (errno : UInt32) : ErrorCode := ⟨errno.toInt32, .client⟩

@[simp] theorem failed_clear : clear.failed = false := rfl

theorem toInt32_eq_zero {errno : UInt32} : errno.toInt32 = 0 ↔ errno = 0 := by
  constructor
  · intro h
    rw [← UInt32.toUInt32_toInt32 errno, h]; rfl
  · rintro rfl; rfl

@[simp] theorem failed_client (errno : UInt32) : (client errno).failed = (errno != 0) := by
  rw [Bool.eq_iff_iff]
  simp only [failed, client, bne_iff_ne, ne_eq, toInt32_eq_zero]

end ErrorCode

/-! ## The codes of `misc_errors` and asio's cancellation code -/

namespace ErrorCode

def initializationError : ErrorCode := ⟨1, .misc⟩
def notInitialized : ErrorCode := ⟨2, .misc⟩
def noMoreResults : ErrorCode := ⟨3, .misc⟩
def nullFieldValue : ErrorCode := ⟨4, .misc⟩
def autocommitSettingError : ErrorCode := ⟨5, .misc⟩
def commitError : ErrorCode := ⟨6, .misc⟩
def rollbackError : ErrorCode := ⟨7, .misc⟩
def unknown : ErrorCode := ⟨8, .misc⟩

/-- `asio::error::operation_aborted`: `ECANCELED` of the system category. -/
def operationAborted : ErrorCode := ⟨125, .system⟩

@[simp] theorem failed_initializationError : initializationError.failed = true := rfl
@[simp] theorem failed_notInitialized : notInitialized.failed = true := rfl
@[simp] theorem failed_noMoreResults : noMoreResults.failed = true := rfl
@[simp] theorem failed_autocommitSettingError : autocommitSettingError.failed = true := rfl
@[simp] theorem failed_commitError : commitError.failed = true := rfl
@[simp] theorem failed_rollbackError : rollbackError.failed = true := rfl
@[simp] theorem failed_unknown : unknown.failed = true := rfl
@[simp] theorem failed_operationAborted : operationAborted.failed = true := rfl

end ErrorCode

end Amy
