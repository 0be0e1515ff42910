import Ykman.Piv.Access

/-!
The commands of `ykman piv`, each translated from its click function in
`ykman/cli/piv.py`, and `runPiv`, which parses an invocation's options and runs the
command.

The group callback `piv` is postponed until a command first reads `ctx.obj`, so the session
is opened inside each command, after option parsing. File arguments are their contents,
output files are `write` events, and the serialisation of keys and certificates is left to
the collaborators. The two `while True` password loops and the unbounded recursion of
`do_read_object` take a `fuel` argument and fail with `outOfFuel` when it runs out.
-/

namespace Ykman.Piv

open Cli

/-! ### Helpers the commands share -/

def utf8Encode (text : String) : Bytes :=
  text.toUTF8.data.toList

/-- A Python `str`: code points up to U+10FFFF, lone surrogates included. Unlike a Lean
`String` it can hold the surrogates that `surrogateescape` puts in `sys.argv` for bytes that
are not UTF-8, so a `--password` is one. -/
structure PyText where
  codePoints : List Nat
  inRange : ∀ codePoint ∈ codePoints, codePoint < 0x110000

def PyText.ofString (text : String) : PyText where
  codePoints := text.toList.map Char.toNat
  inRange := by
    simp only [List.mem_map]
    rintro _ ⟨c, -, rfl⟩
    have valid := c.valid
    simp only [UInt32.isValidChar, Nat.isValidChar] at valid
    show c.val.toNat < 0x110000
    omega

/-- The character of a code point below U+110000; `none` for a surrogate. -/
def codePointChar (codePoint : Nat) : Option Char :=
  if valid : codePoint.isValidChar then some (Char.ofNatAux codePoint valid) else none

/-- `str.encode()`: UTF-8, which refuses a lone surrogate with `UnicodeEncodeError`. -/
def PyText.encode (text : PyText) : Option Bytes :=
  (text.codePoints.mapM codePointChar).map fun chars => utf8Encode (String.mk chars)

private theorem mapM_codePointChar_eq_none (codePoints : List Nat) :
    codePoints.mapM codePointChar = none ↔
      ∃ codePoint ∈ codePoints, codePointChar codePoint = none := by
  induction codePoints with
  | nil =>
      simp only [List.mapM_nil, Option.pure_def, List.not_mem_nil, false_and, exists_false,
        reduceCtorEq]
  | cons codePoint rest ih =>
      simp only [List.mapM_cons, List.mem_cons, or_and_right, exists_or, exists_eq_left, ← ih]
      cases codePointChar codePoint <;> cases rest.mapM codePointChar <;> simp

/-- The code points that `str.encode()` refuses are exactly the surrogates. -/
theorem PyText.encode_eq_none_iff (text : PyText) :
    text.encode = none ↔ ∃ codePoint ∈ text.codePoints, 0xD800 ≤ codePoint ∧ codePoint ≤ 0xDFFF := by
  rw [PyText.encode, Option.map_eq_none', mapM_codePointChar_eq_none]
  refine exists_congr fun codePoint => and_congr_right fun member => ?_
  have inRange := text.inRange codePoint member
  unfold codePointChar Nat.isValidChar
  split <;> simp only [reduceCtorEq, true_iff, false_iff] <;> omega

/-- The byte 0x80 of a command line that is not UTF-8, as `surrogateescape` decodes it. -/
example : PyText.encode ⟨[0xDC80], by decide⟩ = none := by decide

def hexDigit (value : Nat) : Char :=
  if value < 10 then Char.ofNat (48 + value) else Char.ofNat (87 + value)

def hexString (data : Bytes) : String :=
  String.mk (data.flatMap fun byte => [hexDigit (byte.toNat / 16), hexDigit (byte.toNat % 16)])

/-- Modelled from the spec: `generate_random_management_key` of `ykman/piv.py`, which is not
under `src/`, draws a key of the 24 bytes the spec gives a management key; the draw is the
library's. -/
def generateRandomManagementKey : Cli Bytes := do
  let library ← library
  let history ← history
  pure (List.ofFn (library.randomManagementKey history))

def generateChuid : Cli Bytes := do
  let library ← library
  let history ← history
  pure (library.generateChuid history)

def generateCcc : Cli Bytes := do
  let library ← library
  let history ← history
  pure (library.generateCcc history)

/-- The group callback `piv`: open the session and read the PIVMAN data, which every
command then uses as `ctx.obj["pivman_data"]`. -/
def piv : Cli PivmanData :=
  tryCatch
    (do
      send .select
      send .getPivmanData
      pivmanData)
    fun
      | .device (.apdu sw) =>
          if sw == SW.fileNotFound then
            ctxFail "The PIV application can't be found on this YubiKey."
          else throw (.device (.apdu sw))
      | failure => throw failure

/-- The `while True` loop of `keys import` and `certificates import`. A password is
encoded before each attempt; a failed attempt without one prompts for one, a failed
attempt with one drops it and says so. -/
def passwordLoop (parse : Option Bytes → Option β) (prompt : String) :
    Nat → Option PyText → Cli β
  | 0, _ => throw .outOfFuel
  | fuel + 1, password => do
      let encoded ← match password with
        | none => pure none
        | some text =>
            match text.encode with
            | some bytes => pure (some bytes)
            | none => throw (.python "UnicodeEncodeError")
      match parse encoded with
      | some value => pure value
      | none =>
          match password with
          | none => do
              let answer ← clickPrompt prompt
              passwordLoop parse prompt fuel (some (.ofString answer))
          | some _ => do
              echo "Wrong password."
              passwordLoop parse prompt fuel none

/-! ### `piv info` and `piv reset` -/

def info : Cli Unit := do
  let _ ← piv
  let text ← fetch .getPivInfo
  write text

/-- `reset`, after its confirmation option. -/
def reset : Cli Unit := do
  echo "Resetting PIV data..."
  let _ ← piv
  send .reset
  echo "Success! All PIV data have been cleared from the YubiKey."
  echo "Your YubiKey now has the default PIN, PUK and Management Key:"
  echo "\tPIN:\t123456"
  echo "\tPUK:\t12345678"
  echo "\tManagement Key:\t010203040506070801020304050607080102030405060708"

/-! ### `piv access` -/

def setPinRetries (managementKey : Option Bytes) (pin : Option String)
    (pinRetries pukRetries : Nat) (force : Bool) : Cli Unit := do
  let pivman ← piv
  let _ ← ensureAuthenticated pivman pin managementKey true none force
  echo "WARNING: This will reset the PIN and PUK to the factory defaults!"
  (if !force then
    clickConfirm
      s!"Set the number of PIN and PUK retry attempts to: {pinRetries} {pukRetries}?"
  else pure ())
  tryCatch
    (do
      send (.setPinAttempts pinRetries pukRetries)
      echo "Default PINs are set:"
      echo "\tPIN:\t123456"
      echo "\tPUK:\t12345678")
    fun _ => ctxFail "Setting pin retries failed."

/-- The texts and the session call that tell `change-pin` and `change-puk` apart. -/
structure CodeChange where
  currentPrompt : String
  newPrompt : String
  currentLengthError : String
  newLengthError : String
  operation : String → String → Command
  success : String
  triesLeft : Nat → String
  blocked : String

/-- The body shared by `change-pin` and `change-puk`. -/
def changeCode (change : CodeChange) (current new : Option String) : Cli Unit := do
  let _ ← piv
  let current ← givenOr current (promptPin change.currentPrompt)
  let new ← givenOr new (clickPrompt change.newPrompt)
  failIf (!validPinLength current) change.currentLengthError
  failIf (!validPinLength new) change.newLengthError
  tryCatch
    (do
      send (change.operation current new)
      echo change.success)
    fun
      | .device (.invalidPin attempts) =>
          if attempts != 0 then ctxFail (change.triesLeft attempts) else ctxFail change.blocked
      | failure => throw failure

def changePin (pin newPin : Option String) : Cli Unit :=
  changeCode
    { currentPrompt := "Enter the current PIN"
      newPrompt := "Enter the new PIN"
      currentLengthError := "Current PIN must be between 6 and 8 characters long."
      newLengthError := "New PIN must be between 6 and 8 characters long."
      operation := .changePin
      success := "New PIN set."
      triesLeft := fun attempts => s!"PIN change failed - {attempts} tries left."
      blocked := "PIN is blocked." }
    pin newPin

def changePuk (puk newPuk : Option String) : Cli Unit :=
  changeCode
    { currentPrompt := "Enter the current PUK"
      newPrompt := "Enter the new PUK"
      currentLengthError := "Current PUK must be between 6 and 8 characters long."
      newLengthError := "New PUK must be between 6 and 8 characters long."
      operation := .changePuk
      success := "New PUK set."
      triesLeft := fun attempts => s!"PUK change failed - {attempts} tries left."
      blocked := "PUK is blocked." }
    puk newPuk

/-- Python's truthiness of the value held by `new_management_key`. -/
def NewKey.isTrue : NewKey → Bool
  | .none => false
  | .bytes key => key != []
  | .text answer => answer != ""

/-- The value `new_management_key` holds as its option gave it. -/
def NewKey.ofOption : Option Bytes → NewKey
  | Option.none => .none
  | Option.some key => .bytes key

/-- The option checks of `change-management-key`, made once access is resolved. -/
def checkKeyOptions (newManagementKey : Option Bytes) (touch generate : Bool) : Cli Unit := do
  failIf ((presentKey newManagementKey).isSome && generate)
    "Invalid options: --new-management-key conflicts with --generate"
  let version ← version
  failIf (touch && version.lt ⟨4, 0, 0⟩) "Require touch not supported on this YubiKey."

/-- "If an old stored key needs to be cleared, the PIN is needed." -/
def verifyPinForStoredKey (pivman : PivmanData) (pin : Option String) (pinVerified force : Bool) :
    Cli Unit :=
  if !pinVerified && pivman.hasStoredKey then
    match presentText pin with
    | some _ => do
        let _ ← verifyPin pivman pin force
    | none =>
        if !force then
          clickConfirm ("The current management key is stored on the YubiKey" ++
            " and will not be cleared if no PIN is provided. Continue?")
        else pure ()
  else pure ()

/-- The value `pivman_set_mgm_key` receives as the new key: the option's, a generated one, or
the one typed at the prompt, which is read as hex. -/
def newManagementKeyValue (newManagementKey : Option Bytes) (protect generate force : Bool) :
    Cli NewKey := do
  let newKey ← (if !(NewKey.ofOption newManagementKey).isTrue && !protect then
      if generate then do
        let key ← generateRandomManagementKey
        (if !protect then echo ("Generated management key: " ++ hexString key) else pure ())
        pure (NewKey.bytes key)
      else if force then
        ctxFail ("New management key not given. Please remove the --force " ++
          "flag, or set the --generate flag or the --new-management-key option.")
      else
        NewKey.text <$> clickPrompt "Enter the new management key"
    else pure (NewKey.ofOption newManagementKey))
  match newKey with
  | .text answer =>
      if answer != "" then
        match bytesFromhex answer with
        | some key => pure (NewKey.bytes key)
        | none => ctxFail "New management key has the wrong format."
      else pure newKey
  | _ => pure newKey

def changeManagementKey (managementKey : Option Bytes) (pin : Option String)
    (newManagementKey : Option Bytes) (touch protect generate force : Bool) : Cli Unit := do
  let pivman ← piv
  let pinVerified ← ensureAuthenticated pivman pin managementKey protect
    (some "Enter the current management key [blank to use default key]") force
  checkKeyOptions newManagementKey touch generate
  verifyPinForStoredKey pivman pin pinVerified force
  let newKey ← newManagementKeyValue newManagementKey protect generate force
  tryCatch (send (.setMgmKey newKey touch protect))
    fun
      | .device (.apdu _) => ctxFail "Changing the management key failed."
      | failure => throw failure

/-- `access unblock-pin`: neither checked nor classified. -/
def unblockPin (puk newPin : Option String) : Cli Unit := do
  let _ ← piv
  let puk ← givenOr puk (clickPrompt "Enter PUK")
  let newPin ← givenOr newPin (clickPrompt "Enter a new PIN")
  send (.unblockPin puk newPin)

/-! ### `piv keys` -/

/-- `ctx.fail(e.message)` for a `NotSupportedError`; anything else is raised again. -/
def failIfNotSupported (body : Cli α) : Cli α :=
  tryCatch body fun
    | .device (.notSupported message) => ctxFail message
    | failure => throw failure

def generateKey (slot : Nat) (managementKey : Option Bytes) (pin : Option String)
    (algorithm : Nat) (pinPolicy touchPolicy : Option Nat) : Cli Unit := do
  let pivman ← piv
  let _ ← ensureAuthenticated pivman pin managementKey
  let publicKey ← failIfNotSupported (fetch (.generateKey slot algorithm pinPolicy touchPolicy))
  write publicKey

def importKey (managementKey : Option Bytes) (pin : Option String) (slot : Nat)
    (privateKey : Bytes) (pinPolicy touchPolicy : Option Nat) (password : Option PyText)
    (fuel : Nat) : Cli Unit := do
  let pivman ← piv
  let _ ← ensureAuthenticated pivman pin managementKey
  let data := privateKey
  let library ← library
  let privateKey ← passwordLoop (library.parsePrivateKey data) "Enter password to decrypt key"
    fuel password
  failIfNotSupported (send (.putKey slot privateKey pinPolicy touchPolicy))

def attest (slot : Nat) : Cli Unit := do
  let _ ← piv
  let cert ← tryCatch (fetch (.attestKey slot))
    fun
      | .device (.apdu _) => ctxFail "Attestation failed."
      | failure => throw failure
  write cert

/-! ### `piv certificates` -/

/-- `items[0]`, which raises `IndexError` on an empty list. -/
def firstItem : List Bytes → Cli Bytes
  | item :: _ => pure item
  | [] => throw (.python "IndexError")

/-- `do_import(retry)` of `certificates import`. With `--verify`, a key check refused for
want of a verified PIN verifies the PIN and calls `do_import(retry=False)`; the writes
after the `try` run in the nested call and again in the outer one. -/
def doImport (pivman : PivmanData) (pin : Option String) (slot : Nat) (certToImport : Bytes)
    (verify retry : Bool) : Cli Unit := do
  (if verify then
    tryCatch
      (do
        let holds ← check (.checkKey slot certToImport)
        if !holds then
          let library ← library
          ctxFail ("This certificate is not tied to the private key in the " ++
            library.slotName slot ++ " slot."))
      fun
        | .device (.apdu sw) =>
            if sw == SW.securityConditionNotSatisfied && retry then do
              let _ ← verifyPin pivman pin
              doImport pivman pin slot certToImport verify false
            else throw (.device (.apdu sw))
        | failure => throw failure
  else pure ())
  send (.putCertificate slot certToImport)
  let chuid ← generateChuid
  send (.putObject ObjectId.chuid chuid)
termination_by retry.toNat
decreasing_by simp_all

/-- `certificates import`. Of several certificates only the leaf is imported. -/
def importCertificate (managementKey : Option Bytes) (pin : Option String) (slot : Nat)
    (cert : Bytes) (password : Option PyText) (verify : Bool) (fuel : Nat) : Cli Unit := do
  let pivman ← piv
  let _ ← ensureAuthenticated pivman pin managementKey
  let data := cert
  let library ← library
  let certs ← passwordLoop (library.parseCertificates data)
    "Enter password to decrypt certificate" fuel password
  let certToImport ← (if certs.length > 1 then firstItem (library.getLeafCertificates certs)
    else firstItem certs)
  doImport pivman pin slot certToImport verify true

/-- `certificates export`. An `ApduError` other than "file not found" is only logged, and
the unbound `cert` then raises `UnboundLocalError`. -/
def exportCertificate (slot : Nat) : Cli Unit := do
  let _ ← piv
  let cert ← tryCatch (some <$> fetch (.getCertificate slot))
    fun
      | .device (.apdu sw) =>
          if sw == SW.fileNotFound then ctxFail "No certificate found." else pure none
      | failure => throw failure
  match cert with
  | some cert => write cert
  | none => throw (.python "UnboundLocalError")

/-- `serialization.load_pem_public_key`, which raises `ValueError` on bad data. -/
def loadPemPublicKey (data : Bytes) : Cli Bytes := do
  let library ← library
  match library.loadPemPublicKey data with
  | some publicKey => pure publicKey
  | none => throw (.python "ValueError")

/-- Whether `datetime.utcnow() + datetime.timedelta(days=valid_days)` is a date, for `today`
the ordinal of the current day: `timedelta` takes at most 999999999 days either way, and the
sum must fall in the years 1 to 9999 (ordinals 1 to 3652059). Python raises `OverflowError`
otherwise. -/
def validToInRange (today : Nat) (validDays : Int) : Bool :=
  validDays.natAbs ≤ 999999999 && 0 < today + validDays && today + validDays ≤ 3652059

/-- `certificates generate`: a self-signed certificate, signed with the slot's key. -/
def generateCertificate (managementKey : Option Bytes) (pin : Option String) (slot : Nat)
    (publicKey : Bytes) (subject : String) (validDays : Int) : Cli Unit := do
  let pivman ← piv
  let _ ← ensureAuthenticated pivman pin managementKey true
  let data := publicKey
  let publicKey ← loadPemPublicKey data
  let library ← library
  let history ← history
  (if validToInRange (library.today history) validDays then pure ()
    else throw (.python "OverflowError"))
  tryCatch
    (do
      let cert ← fetch (.generateSelfSignedCertificate slot publicKey subject validDays)
      send (.putCertificate slot cert)
      let chuid ← generateChuid
      send (.putObject ObjectId.chuid chuid))
    fun
      | .device (.apdu _) => ctxFail "Certificate generation failed."
      | failure => throw failure

/-- `certificates request`: only the PIN is needed. -/
def generateCertificateSigningRequest (pin : Option String) (slot : Nat) (publicKey : Bytes)
    (subject : String) : Cli Unit := do
  let pivman ← piv
  let _ ← verifyPin pivman pin
  let data := publicKey
  let publicKey ← loadPemPublicKey data
  let csr ← tryCatch (fetch (.generateCsr slot publicKey subject))
    fun
      | .device (.apdu _) => ctxFail "Certificate Signing Request generation failed."
      | failure => throw failure
  write csr

def deleteCertificate (managementKey : Option Bytes) (pin : Option String) (slot : Nat) :
    Cli Unit := do
  let pivman ← piv
  let _ ← ensureAuthenticated pivman pin managementKey
  send (.deleteCertificate slot)
  let chuid ← generateChuid
  send (.putObject ObjectId.chuid chuid)

/-! ### `piv objects` -/

/-- `do_read_object(retry)` of `objects export`. The flag is never read, so a refusal after
an accepted PIN leads to another verification and another read; `fuel` bounds that
recursion, which Python leaves to its recursion limit. -/
def doReadObject (pivman : PivmanData) (pin : Option String) (objectId : Nat) :
    Nat → Bool → Cli Unit
  | 0, _ => throw .outOfFuel
  | fuel + 1, _retry =>
      tryCatch
        (do
          let data ← fetch (.getObject objectId)
          write data)
        fun
          | .device (.apdu sw) =>
              if sw == SW.fileNotFound then ctxFail "No data found."
              else if sw == SW.securityConditionNotSatisfied then do
                let _ ← verifyPin pivman pin
                doReadObject pivman pin objectId fuel false
              else throw (.device (.apdu sw))
          | failure => throw failure

def readObject (pin : Option String) (objectId : Nat) (fuel : Nat) : Cli Unit := do
  let pivman ← piv
  doReadObject pivman pin objectId fuel true

def writeObject (pin : Option String) (managementKey : Option Bytes) (objectId : Nat)
    (data : Bytes) : Cli Unit := do
  let pivman ← piv
  let _ ← ensureAuthenticated pivman pin managementKey
  tryCatch (send (.putObject objectId data))
    fun
      | .device (.apdu sw) =>
          if sw == SW.incorrectParameters then
            ctxFail "Something went wrong, is the object id valid?"
          else throw (.device (.apdu sw))
      | failure => throw failure

def generateObject (pin : Option String) (managementKey : Option Bytes) (objectId : Nat) :
    Cli Unit := do
  let pivman ← piv
  let _ ← ensureAuthenticated pivman pin managementKey
  if ObjectId.chuid == objectId then
    let chuid ← generateChuid
    send (.putObject ObjectId.chuid chuid)
  else if ObjectId.capability == objectId then
    let ccc ← generateCcc
    send (.putObject ObjectId.capability ccc)
  else
    ctxFail "Unsupported object ID for generate."

/-! ### Invocations -/

/-- A command line of `ykman piv`, with its options as typed (a management key is hex
text) and its file arguments as their contents. -/
inductive Invocation where
  | info
  | reset (force : Bool)
  | setRetries (pinRetries pukRetries : Int) (managementKey pin : Option String) (force : Bool)
  | changePin (pin newPin : Option String)
  | changePuk (puk newPuk : Option String)
  | changeManagementKey (pin : Option String) (touch : Bool)
      (newManagementKey managementKey : Option String) (protect generate force : Bool)
  | unblockPin (puk newPin : Option String)
  | generateKey (managementKey pin : Option String) (algorithm : Nat)
      (pinPolicy touchPolicy : Option Nat) (slot : Nat)
  | importKey (pin managementKey : Option String) (pinPolicy touchPolicy : Option Nat)
      (slot : Nat) (privateKey : Bytes) (password : Option PyText)
  | attest (slot : Nat)
  | importCertificate (managementKey pin : Option String) (password : Option PyText)
      (verify : Bool) (slot : Nat) (cert : Bytes)
  | exportCertificate (slot : Nat)
  | generateCertificate (managementKey pin : Option String) (slot : Nat) (publicKey : Bytes)
      (subject : String) (validDays : Int)
  | requestCertificate (pin : Option String) (slot : Nat) (publicKey : Bytes) (subject : String)
  | deleteCertificate (managementKey pin : Option String) (slot : Nat)
  | exportObject (pin : Option String) (objectId : Nat)
  | importObject (pin managementKey : Option String) (objectId : Nat) (data : Bytes)
  | generateObject (pin managementKey : Option String) (objectId : Nat)

def parseManagementKeyOption (name : String) (value : Option String) : Cli (Option Bytes) :=
  clickCallback name clickParseManagementKey value

def clickIntRange (name : String) (value : Int) : Cli Nat :=
  if 1 ≤ value ∧ value ≤ 255 then pure value.toNat
  else throw (.badParameter name (toString value))

/-- `ykman piv ...`: click parses the options, then the command runs. -/
def runPiv (fuel : Nat) : Invocation → Cli Unit
  | .info => info
  | .reset force => do
      (if !force then
        clickConfirm ("WARNING! This will delete all stored PIV data and restore factory " ++
          "settings. Proceed?")
      else pure ())
      reset
  | .setRetries pinRetries pukRetries managementKey pin force => do
      let pinRetries ← clickIntRange "pin_retries" pinRetries
      let pukRetries ← clickIntRange "puk_retries" pukRetries
      let managementKey ← parseManagementKeyOption "management_key" managementKey
      setPinRetries managementKey pin pinRetries pukRetries force
  | .changePin pin newPin => changePin pin newPin
  | .changePuk puk newPuk => changePuk puk newPuk
  | .changeManagementKey pin touch newManagementKey managementKey protect generate force => do
      let newManagementKey ← parseManagementKeyOption "new_management_key" newManagementKey
      let managementKey ← parseManagementKeyOption "management_key" managementKey
      changeManagementKey managementKey pin newManagementKey touch protect generate force
  | .unblockPin puk newPin => unblockPin puk newPin
  | .generateKey managementKey pin algorithm pinPolicy touchPolicy slot => do
      let managementKey ← parseManagementKeyOption "management_key" managementKey
      generateKey slot managementKey pin algorithm pinPolicy touchPolicy
  | .importKey pin managementKey pinPolicy touchPolicy slot privateKey password => do
      let managementKey ← parseManagementKeyOption "management_key" managementKey
      importKey managementKey pin slot privateKey pinPolicy touchPolicy password fuel
  | .attest slot => attest slot
  | .importCertificate managementKey pin password verify slot cert => do
      let managementKey ← parseManagementKeyOption "management_key" managementKey
      importCertificate managementKey pin slot cert password verify fuel
  | .exportCertificate slot => exportCertificate slot
  | .generateCertificate managementKey pin slot publicKey subject validDays => do
      let managementKey ← parseManagementKeyOption "management_key" managementKey
      generateCertificate managementKey pin slot publicKey subject validDays
  | .requestCertificate pin slot publicKey subject =>
      generateCertificateSigningRequest pin slot publicKey subject
  | .deleteCertificate managementKey pin slot => do
      let managementKey ← parseManagementKeyOption "management_key" managementKey
      deleteCertificate managementKey pin slot
  | .exportObject pin objectId => readObject pin objectId fuel
  | .importObject pin managementKey objectId data => do
      let managementKey ← parseManagementKeyOption "management_key" managementKey
      writeObject pin managementKey objectId data
  | .generateObject pin managementKey objectId => do
      let managementKey ← parseManagementKeyOption "management_key" managementKey
      generateObject pin managementKey objectId

end Ykman.Piv
