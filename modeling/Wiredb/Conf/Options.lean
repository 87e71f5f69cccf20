import Mathlib.Data.String.Basic
import Mathlib.Data.List.Basic

/-! # Server options and their validation

`conf.ServerOptions` is the configuration the server starts from: the built-in
`DefaultConfigJSON`, or a file that `Load` reads. `Vaildated` runs the port, path, password
and encryptor validators in that order and returns the first error.

`Vaildated` returns the error of the first check that fails (`Wiredb.vaildated_eq`), so it
accepts exactly the options `Wiredb.ServerOptions.Valid` describes
(`Wiredb.vaildated_eq_none_iff`). The built-in defaults pass, and still pass with the
encryptor switched on, as their secret has 24 bytes.
-/

namespace Wiredb

/-- `conf.Region`: the compaction schedule. -/
structure Region where
  enable : Bool
  schedule : String
  threshold : UInt8
  deriving DecidableEq, Repr

/-- `conf.Encryptor`: whether stored values are encrypted, and the AES key. -/
structure Encryptor where
  enable : Bool
  secret : String
  deriving DecidableEq, Repr

/-- `conf.Checkpoint`: whether checkpoints are taken, and how often in seconds. -/
structure Checkpoint where
  enable : Bool
  interval : UInt32
  deriving DecidableEq, Repr

/-- `conf.ServerOptions`; `Compressor` is its one flag `compressor`. -/
structure ServerOptions where
  port : Int
  path : String
  debug : Bool
  logPath : String
  password : String
  region : Region
  encryptor : Encryptor
  compressor : Bool
  checkpoint : Checkpoint
  allowIP : List String
  deriving DecidableEq, Repr

/-- `DefaultConfigJSON` as `json.Unmarshal` reads it into `Default` and `Settings`. Its
`"allow_ip"` key matches no field (the tag is `allowip`), so `AllowIP` stays nil. -/
def defaultOptions : ServerOptions where
  port := 2668
  path := "/tmp/urnadb"
  debug := false
  logPath := "/tmp/urnadb/out.log"
  password := "Are we wide open to the world?"
  region := ⟨true, "0 0 3 * * *", 2⟩
  encryptor := ⟨false, "your-static-data-secret!"⟩
  compressor := false
  checkpoint := ⟨false, 1800⟩
  allowIP := []

namespace ServerOptions

/-- `IsWhitelistIPEnabled`. -/
def isWhitelistIPEnabled (opt : ServerOptions) : Bool := 0 < opt.allowIP.length

/-- `IsCompressionEnabled`. -/
def isCompressionEnabled (opt : ServerOptions) : Bool := opt.compressor

/-- `IsEncryptionEnabled`. -/
def isEncryptionEnabled (opt : ServerOptions) : Bool := opt.encryptor.enable

/-- `IsCompactRegionEnabled`. -/
def isCompactRegionEnabled (opt : ServerOptions) : Bool := opt.region.enable

/-- `CompactRegionInterval`: the cron expression. -/
def compactRegionInterval (opt : ServerOptions) : String := opt.region.schedule

/-- `Secret`: the AES key as bytes. -/
def secret (opt : ServerOptions) : List UInt8 := opt.encryptor.secret.toUTF8.toList

/-- `IsCheckpointEnabled`. -/
def isCheckpointEnabled (opt : ServerOptions) : Bool := opt.checkpoint.enable

/-- `CheckpointInterval`. -/
def checkpointInterval (opt : ServerOptions) : UInt32 := opt.checkpoint.interval

end ServerOptions

/-- `HasCustom`: a configuration file was given. -/
def hasCustom (path : String) : Bool := path != ""

/-! ### Validators -/

/-- The shape of `validatePath` and `validatePassword`: the string must not be empty. -/
def requireNonEmpty (message value : String) : Option String :=
  if value = "" then some message else none

/-- `validatePort`. -/
def validatePort (port : Int) : Option String :=
  if port ≤ 1024 ∨ 65535 ≤ port then some "port range must be between 1025 and 65534" else none

/-- `validatePath`. -/
def validatePath (path : String) : Option String :=
  requireNonEmpty "data directory path cannot be empty" path

/-- `validatePassword`. -/
def validatePassword (password : String) : Option String :=
  requireNonEmpty "auth password cannot be empty" password

/-- The `valid` map: the AES key lengths in bytes. -/
def validKeyLengths : List Nat := [16, 24, 32]

/-- `validateEncryptor`: a key of an AES length when encryption is on; `len` counts bytes. -/
def validateEncryptor (encryptor : Encryptor) : Option String :=
  if !encryptor.enable then none
  else if encryptor.secret.utf8ByteSize ∈ validKeyLengths then none
  else some "invalid secret key length it must be 16, 24, or 32 bytes"

/-- The `validators` of `Vaildated`, in order: `PortValidator`, `PathValidator`,
`AuthValidator`, `EncryptorValidator`. -/
def validators : List (ServerOptions → Option String) :=
  [fun opt => validatePort opt.port, fun opt => validatePath opt.path,
    fun opt => validatePassword opt.password, fun opt => validateEncryptor opt.encryptor]

/-- **`Vaildated`** (so spelled in the source): the first validator's error, or `none` for
`nil`. -/
def vaildated (opt : ServerOptions) : Option String :=
  validators.findSome? fun validator => validator opt

/-- What a usable configuration is: an unprivileged port below 65535, a data directory, a
password, and an AES key of 16, 24 or 32 bytes whenever encryption is on. -/
structure ServerOptions.Valid (opt : ServerOptions) : Prop where
  port_range : 1025 ≤ opt.port ∧ opt.port ≤ 65534
  path_nonempty : opt.path ≠ ""
  password_nonempty : opt.password ≠ ""
  key_length : opt.encryptor.enable = true → opt.encryptor.secret.utf8ByteSize ∈ validKeyLengths

theorem validatePort_eq_none_iff (port : Int) :
    validatePort port = none ↔ 1025 ≤ port ∧ port ≤ 65534 := by
  unfold validatePort
  split <;> simp only [reduceCtorEq, true_iff, false_iff] <;> omega

theorem requireNonEmpty_eq_none_iff (message value : String) :
    requireNonEmpty message value = none ↔ value ≠ "" := by
  unfold requireNonEmpty
  split <;> simp_all

theorem validateEncryptor_eq_none_iff (encryptor : Encryptor) :
    validateEncryptor encryptor = none ↔
      (encryptor.enable = true → encryptor.secret.utf8ByteSize ∈ validKeyLengths) := by
  unfold validateEncryptor
  cases encryptor.enable <;> split <;> simp_all

/-- `Vaildated` is the checks in order, the first error winning. -/
theorem vaildated_eq (opt : ServerOptions) :
    vaildated opt = (validatePort opt.port <|> validatePath opt.path <|>
      validatePassword opt.password <|> validateEncryptor opt.encryptor) := by
  simp only [vaildated, validators, List.findSome?]
  cases validatePort opt.port <;> cases validatePath opt.path <;>
    cases validatePassword opt.password <;> cases validateEncryptor opt.encryptor <;> rfl

/-- **`Vaildated` accepts exactly the valid options.** -/
theorem vaildated_eq_none_iff (opt : ServerOptions) : vaildated opt = none ↔ opt.Valid := by
  rw [vaildated_eq]
  simp only [Option.orElse_eq_none, validatePath, validatePassword, validatePort_eq_none_iff,
    requireNonEmpty_eq_none_iff, validateEncryptor_eq_none_iff]
  exact ⟨fun ⟨port, path, password, key⟩ => ⟨port, path, password, key⟩,
    fun ⟨port, path, password, key⟩ => ⟨port, path, password, key⟩⟩

/- The built-in defaults pass validation, and still do with the encryptor switched on. -/
example : vaildated defaultOptions = none ∧
    vaildated { defaultOptions with encryptor := ⟨true, defaultOptions.encryptor.secret⟩ } = none := by
  constructor <;> decide

end Wiredb
