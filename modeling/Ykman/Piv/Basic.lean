import Mathlib.Data.List.Basic

/-!
Data model of the PIV command group of the YubiKey manager CLI (`ykman/cli/piv.py`).

The CLI talks to three collaborators: the PIV session with the `ykman.piv` helpers, the
person at the keyboard, and a few pure library functions (key derivation, file parsing).
Each is arbitrary here. A `Device` answers every session call from the history of the run,
a `User` answers every prompt and confirmation, and a `Library` holds the pure functions
and the random draws. Every event of a run is recorded, so the laws of the later modules
are statements about event lists.

This module fixes the vocabulary only. The CLI code is translated in `Ykman.Piv.Access`
and `Ykman.Piv.Commands`.
-/

namespace Ykman.Piv

abbrev Bytes := List UInt8

/-! ### Values the session reads from the token -/

/-- The PIVMAN data object: whether the management key is derived from the PIN (with the
salt stored next to the flag) or stored on the token under PIN protection. -/
structure PivmanData where
  hasDerivedKey : Bool
  hasStoredKey : Bool
  salt : Option Bytes
  deriving DecidableEq, Repr

/-- `has_protected_key`: the management key can be unlocked with the PIN. -/
def PivmanData.hasProtectedKey (pivman : PivmanData) : Bool :=
  pivman.hasDerivedKey || pivman.hasStoredKey

structure Version where
  major : Nat
  minor : Nat
  patch : Nat
  deriving DecidableEq, Repr

/-- Python's tuple comparison `version < other`, lexicographic. -/
def Version.lt (version other : Version) : Bool :=
  version.major < other.major ||
    (version.major == other.major &&
      (version.minor < other.minor ||
        (version.minor == other.minor && version.patch < other.patch)))

/-! ### Constants of the PIV standard that the CLI compares against -/

namespace SW

def fileNotFound : Nat := 0x6A82

def securityConditionNotSatisfied : Nat := 0x6982

def incorrectParameters : Nat := 0x6A80

end SW

namespace ObjectId

def chuid : Nat := 0x5FC102

def capability : Nat := 0x5FC107

end ObjectId

def defaultManagementKey : Bytes :=
  [1, 2, 3, 4, 5, 6, 7, 8, 1, 2, 3, 4, 5, 6, 7, 8, 1, 2, 3, 4, 5, 6, 7, 8]

/-! ### Session calls and their replies -/

/-- The exceptions a session call can raise, as the CLI's handlers tell them apart. -/
inductive DeviceError where
  | invalidPin (attemptsRemaining : Nat)
  | apdu (sw : Nat)
  | notSupported (message : String)
  | other
  deriving DecidableEq, Repr

/-- The Python value held by `new_management_key` when `pivman_set_mgm_key` receives it:
nothing, bytes (from the option or from `generate_random_management_key`), or the text
typed at the prompt. -/
inductive NewKey where
  | none
  | bytes (key : Bytes)
  | text (answer : String)
  deriving DecidableEq, Repr

/-- The calls the CLI makes on `PivSession` and on the `ykman.piv` helpers. Slots, key
types and policies are the enum values the CLI passes through unchanged. -/
inductive Command where
  | select
  | getPivmanData
  | getPivInfo
  | reset
  | setPinAttempts (pinAttempts pukAttempts : Nat)
  | changePin (pin newPin : String)
  | changePuk (puk newPuk : String)
  | unblockPin (puk newPin : String)
  | verifyPin (pin : String)
  | authenticate (managementKey : Bytes)
  | getPivmanProtectedData
  | setMgmKey (newKey : NewKey) (touch storeOnDevice : Bool)
  | generateKey (slot algorithm : Nat) (pinPolicy touchPolicy : Option Nat)
  | putKey (slot : Nat) (privateKey : Bytes) (pinPolicy touchPolicy : Option Nat)
  | attestKey (slot : Nat)
  | checkKey (slot : Nat) (certificate : Bytes)
  | putCertificate (slot : Nat) (certificate : Bytes)
  | getCertificate (slot : Nat)
  | generateSelfSignedCertificate (slot : Nat) (publicKey : Bytes) (subject : String)
      (validDays : Int)
  | generateCsr (slot : Nat) (publicKey : Bytes) (subject : String)
  | deleteCertificate (slot : Nat)
  | getObject (objectId : Nat)
  | putObject (objectId : Nat) (data : Bytes)
  deriving DecidableEq, Repr

/-- The calls that submit a PIN or a PUK, the only ones the session answers with
`InvalidPinError`. -/
def Command.submitsCode : Command → Bool
  | .verifyPin _ | .changePin _ _ | .changePuk _ _ | .unblockPin _ _ => true
  | _ => false

/-- A call returns the bytes it read (a key, an object, a certificate) and the boolean
`check_key` reports; calls with nothing to return ignore both. Or it raises. -/
inductive Reply where
  | returned (data : Bytes) (holds : Bool)
  | raised (error : DeviceError)
  deriving DecidableEq, Repr

/-! ### Runs -/

/-- One observable step of a run: a session call with its reply, a prompt with the text
typed, a confirmation with the answer, a line echoed, or data written to an output file. -/
inductive Event where
  | call (command : Command) (reply : Reply)
  | prompt (text answer : String)
  | confirm (text : String) (accepted : Bool)
  | echo (message : String)
  | write (data : Bytes)
  deriving DecidableEq, Repr

/-- The token with its session. Its answers may depend on everything that happened so far;
`InvalidPinError` only ever answers a PIN or PUK submission. -/
structure Device where
  reply : List Event → Command → Reply
  version : Version
  pivmanData : PivmanData
  onlyCodesRejected : ∀ history command attempts,
    reply history command = .raised (.invalidPin attempts) → command.submitsCode = true

/-- The person at the keyboard: an answer to every prompt and every confirmation. -/
structure User where
  answer : List Event → String → String
  confirm : List Event → String → Bool

/-- The pure functions the CLI imports, the names of the `SLOT` enum, and the random draws
(`os.urandom`) and the clock (`datetime.utcnow()`, as the ordinal of its day) as functions of
the run so far. A parser returning `none` raises `ValueError`. -/
structure Library where
  deriveManagementKey : String → Option Bytes → Bytes
  slotName : Nat → String
  parsePrivateKey : Bytes → Option Bytes → Option Bytes
  parseCertificates : Bytes → Option Bytes → Option (List Bytes)
  getLeafCertificates : List Bytes → List Bytes
  loadPemPublicKey : Bytes → Option Bytes
  randomManagementKey : List Event → Fin 24 → UInt8
  today : List Event → Nat
  generateChuid : List Event → Bytes
  generateCcc : List Event → Bytes

structure Env where
  device : Device
  user : User
  library : Library

/-- A token that answers by `rule`, which rejects nothing but PIN and PUK submissions. -/
def Device.ofRule (rule : List Event → Command → Reply) (pivman : PivmanData)
    (version : Version)
    (onlyCodes : ∀ history command attempts,
      rule history command = .raised (.invalidPin attempts) → command.submitsCode = true) :
    Device :=
  ⟨rule, version, pivman, onlyCodes⟩

/-- A token that accepts every call, returning no data and `true`. -/
def Device.accepting (pivman : PivmanData) (version : Version) : Device :=
  .ofRule (fun _ _ => .returned [] true) pivman version fun _ _ _ rejected => nomatch rejected

/-- A user who types `text` at every prompt and confirms everything. -/
def User.typing (text : String) : User :=
  ⟨fun _ _ => text, fun _ _ => true⟩

/-- A library whose functions ignore their input: the derived key is the default key,
every file fails to parse, every random draw is zero, and the clock reads a day of 2024. -/
def Library.constant : Library where
  deriveManagementKey _ _ := defaultManagementKey
  slotName _ := "AUTHENTICATION"
  parsePrivateKey _ _ := none
  parseCertificates _ _ := none
  getLeafCertificates certificates := certificates
  loadPemPublicKey _ := none
  randomManagementKey _ _ := 0
  today _ := 739000
  generateChuid _ := []
  generateCcc _ := []

/-- A run where the token accepts every call and the user types `text` and confirms. -/
def Env.accepting (pivman : PivmanData) (text : String) : Env :=
  ⟨.accepting pivman ⟨5, 4, 3⟩, User.typing text, Library.constant⟩

/-- How a run can end abnormally: `ctx.fail` and the option callbacks raise click usage
errors, a declined confirmation aborts, a session exception can escape, Python itself can
raise, and a loop can run out of the fuel the model gives it. -/
inductive Failure where
  | usage (message : String)
  | badParameter (name value : String)
  | abort
  | device (error : DeviceError)
  | python (exception : String)
  | outOfFuel
  deriving DecidableEq, Repr

/-! ### Event classes -/

def Event.isCall : Event → Bool
  | .call _ _ => true
  | _ => false

/-- A call the device answered without raising. -/
def Event.isAccepted : Event → Bool
  | .call _ (.returned _ _) => true
  | _ => false

/-- The tries left that a call raising `InvalidPinError` reported. By
`Device.onlyCodesRejected` such a call submitted a PIN or a PUK. -/
def Event.rejectedAttempts : Event → Option Nat
  | .call _ (.raised (.invalidPin attempts)) => some attempts
  | _ => none

/-- A PIN or PUK submission the device rejected with `InvalidPinError`. -/
def Event.isRejection (event : Event) : Bool :=
  event.rejectedAttempts.isSome

def Event.isUserInput : Event → Bool
  | .prompt _ _ | .confirm _ _ => true
  | _ => false

/-- The commands sent in a list of events, in order. -/
def commandsOf : List Event → List Command
  | [] => []
  | .call command _ :: rest => command :: commandsOf rest
  | _ :: rest => commandsOf rest

@[simp] theorem commandsOf_nil : commandsOf [] = [] := rfl

@[simp] theorem commandsOf_append (first rest : List Event) :
    commandsOf (first ++ rest) = commandsOf first ++ commandsOf rest := by
  induction first with
  | nil => rfl
  | cons event first ih => cases event <;> simp [commandsOf, ih]

@[simp] theorem commandsOf_call (command : Command) (reply : Reply) :
    commandsOf [.call command reply] = [command] := rfl

end Ykman.Piv
