import Ykman.Piv.Cli

/-!
The access-resolution code of `ykman/cli/piv.py`: the helpers `_prompt_management_key`,
`_prompt_pin`, `_valid_pin_length`, `_ensure_authenticated`, `_verify_pin` and
`_authenticate`, and the option callback `click_parse_management_key` with the
`bytes.fromhex` it relies on. Each definition follows its Python function line by line.
Python's truthiness of an optional string or key (`if not pin`) is `presentText` and
`presentKey`.
-/

namespace Ykman.Piv

open Cli

/-! ### Python values -/

/-- The value of an optional string when Python reads it as true: given and not empty. -/
def presentText (value : Option String) : Option String :=
  value.filter fun text => text != ""

/-- The value of an optional key when Python reads it as true: given and not empty. -/
def presentKey (value : Option Bytes) : Option Bytes :=
  value.filter fun key => key != []

@[simp] theorem presentText_none : presentText none = none := rfl

@[simp] theorem presentKey_none : presentKey none = none := rfl

/-- `if not value: value = prompt()`: the value of an option when Python reads it as true,
otherwise what the prompt returns. -/
def givenOr (value : Option String) (prompt : Cli String) : Cli String :=
  match presentText value with
  | some given => pure given
  | none => prompt

def failIf (condition : Bool) (message : String) : Cli Unit :=
  if condition then ctxFail message else pure ()

@[simp] theorem failIf_true (message : String) : failIf true message = ctxFail message := rfl

@[simp] theorem failIf_false (message : String) : failIf false message = pure () := rfl

/-! ### `bytes.fromhex` -/

/-- The whitespace `bytes.fromhex` skips between two-digit pairs (all ASCII whitespace). -/
def isAsciiSpace (c : Char) : Bool :=
  c == ' ' || c == '\t' || c == '\n' || c == '\r' || c == '\x0b' || c == '\x0c'

def hexDigitValue (c : Char) : Option Nat :=
  if '0' ≤ c ∧ c ≤ '9' then some (c.toNat - '0'.toNat)
  else if 'a' ≤ c ∧ c ≤ 'f' then some (c.toNat - 'a'.toNat + 10)
  else if 'A' ≤ c ∧ c ≤ 'F' then some (c.toNat - 'A'.toNat + 10)
  else none

/-- The decoding loop of `bytes.fromhex`: whitespace is skipped before a pair, never
inside one. -/
def fromhexChars : List Char → Option Bytes
  | [] => some []
  | c :: rest =>
      if isAsciiSpace c then fromhexChars rest
      else
        match rest with
        | [] => none
        | d :: rest => do
            let high ← hexDigitValue c
            let low ← hexDigitValue d
            let tail ← fromhexChars rest
            pure ((high * 16 + low).toUInt8 :: tail)

/-- `bytes.fromhex(text)`; `none` is the `ValueError` it raises. -/
def bytesFromhex (text : String) : Option Bytes :=
  fromhexChars text.toList

/-! ### Option callbacks -/

/-- `click_parse_management_key`: the empty key or exactly 24 bytes. Every error, the
length error included, is re-raised as `ValueError(val)`. -/
def clickParseManagementKey (val : String) : Except String Bytes :=
  match bytesFromhex val with
  | some key => if !key.isEmpty && key.length != 24 then .error val else .ok key
  | none => .error val

/-- `click_callback`: an absent option stays absent, and a `ValueError` of the parser
becomes a usage error for the option. -/
def clickCallback (name : String) (parse : String → Except String β) :
    Option String → Cli (Option β)
  | none => pure none
  | some val =>
      match parse val with
      | .ok value => pure (some value)
      | .error message => throw (.badParameter name message)

/-! ### Prompts -/

/-- `_prompt_management_key`: a blank answer stands for the default key. -/
def promptManagementKey
    (prompt : String := "Enter a management key [blank to use default key]") : Cli Bytes := do
  let managementKey ← clickPrompt prompt
  if managementKey == "" then
    return defaultManagementKey
  match bytesFromhex managementKey with
  | some key => pure key
  | none => ctxFail "Management key has the wrong format."

def promptPin (prompt : String := "Enter PIN") : Cli String :=
  clickPrompt prompt

/-- `_valid_pin_length`: Python's `len` counts characters. -/
def validPinLength (pin : String) : Bool :=
  6 ≤ pin.length && pin.length ≤ 8

/-! ### Authentication -/

/-- The `try` block of `_verify_pin`. After a derived or stored management key is used
the PIN is verified again, "Ensure verify was the last thing we did". -/
def verifyPinAttempt (pivman : PivmanData) (pin : String) : Cli Bool := do
  send (.verifyPin pin)
  if pivman.hasDerivedKey then
    let library ← library
    send (.authenticate (library.deriveManagementKey pin pivman.salt))
    send (.verifyPin pin)
  else if pivman.hasStoredKey then
    let key ← fetch .getPivmanProtectedData
    send (.authenticate key)
    send (.verifyPin pin)
  pure true

/-- The `except` clauses of `_verify_pin`: `InvalidPinError`, then any `Exception`. -/
def verifyPinFailed : Failure → Cli Bool
  | .device (.invalidPin attempts) =>
      if attempts > 0 then ctxFail s!"PIN verification failed, {attempts} tries left."
      else ctxFail "PIN is blocked."
  | _ => ctxFail "PIN verification failed."

def verifyPin (pivman : PivmanData) (pin : Option String) (noPrompt : Bool := false) :
    Cli Bool := do
  let pin ← match presentText pin with
    | some pin => pure pin
    | none => if noPrompt then ctxFail "PIN required." else promptPin
  tryCatch (verifyPinAttempt pivman pin) verifyPinFailed

def authenticate (managementKey : Option Bytes) (mgmKeyPrompt : Option String)
    (noPrompt : Bool := false) : Cli Unit := do
  let managementKey ← match presentKey managementKey with
    | some key => pure key
    | none =>
        if noPrompt then ctxFail "Management key required."
        else
          match mgmKeyPrompt with
          | none => promptManagementKey
          | some prompt => promptManagementKey prompt
  tryCatch (send (.authenticate managementKey))
    fun _ => ctxFail "Authentication with management key failed."

/-- `_ensure_authenticated`: returns whether the PIN was verified. -/
def ensureAuthenticated (pivman : PivmanData) (pin : Option String := none)
    (managementKey : Option Bytes := none) (requirePinAndKey : Bool := false)
    (mgmKeyPrompt : Option String := none) (noPrompt : Bool := false) : Cli Bool := do
  if pivman.hasProtectedKey then
    if (presentKey managementKey).isNone then
      verifyPin pivman pin noPrompt
    else
      authenticate managementKey mgmKeyPrompt noPrompt
      pure false
  else
    let pinVerified ← if requirePinAndKey then verifyPin pivman pin noPrompt else pure false
    authenticate managementKey mgmKeyPrompt noPrompt
    pure pinVerified

end Ykman.Piv
