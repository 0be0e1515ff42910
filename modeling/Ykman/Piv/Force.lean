import Ykman.Piv.Rejection

/-!
`--force` and the option checks. `set-retries` and `change-management-key` pass their
`--force` flag to the access resolver as `no_prompt`, and skip their confirmations with it.
A forced run then records no prompt and no confirmation (`Unattended`), and each input it
lacks ends the command where the interactive run would prompt for it: "PIN required.",
"Management key required." and "New management key not given. ...".

The option checks of `change-management-key` (`--new-management-key` with `--generate`,
`--touch` on a token older than 4.0.0, `--force` without a new key) are made only after
`_ensure_authenticated` has run, so a PIN or a management key can have reached the token
before the command fails on them.
-/

namespace Ykman.Piv

open Cli

/-! ### Runs without a prompt -/

/-- No run of `action` records a prompt or a confirmation. -/
def Unattended {α : Type} (action : Cli α) : Prop :=
  ∀ env history, ∀ event ∈ (action env history).events, event.isUserInput = false

section Closure

variable {α β : Type}

/-- An action whose runs record nothing is unattended. -/
private theorem unattended_of_events_nil {action : Cli α}
    (silent : ∀ env history, (action env history).events = []) : Unattended action :=
  fun env history event member => by rw [silent env history] at member; cases member

private theorem unattended_pure (value : α) : Unattended (pure value : Cli α) :=
  unattended_of_events_nil fun _ _ => rfl

private theorem unattended_throw (failure : Failure) : Unattended (throw failure : Cli α) :=
  unattended_of_events_nil fun _ _ => rfl

private theorem unattended_ctxFail (message : String) : Unattended (ctxFail message : Cli α) :=
  unattended_of_events_nil fun _ _ => rfl

private theorem unattended_echo (message : String) : Unattended (echo message) := by
  intro env history event member
  rw [List.mem_singleton.mp member]
  rfl

private theorem unattended_invoke (command : Command) : Unattended (invoke command) := by
  intro env history event member
  rw [run_invoke] at member
  split at member <;> rw [List.mem_singleton.mp member] <;> rfl

theorem Unattended.bind {action : Cli α} {next : α → Cli β} (first : Unattended action)
    (rest : ∀ value, Unattended (next value)) : Unattended (action >>= next) := by
  intro env history event member
  rw [run_bind] at member
  have firstQuiet := first env history
  generalize action env history = outcome at firstQuiet member
  rcases outcome with ⟨_ | value, events⟩
  · exact firstQuiet event member
  · rcases List.mem_append.mp member with inFirst | inRest
    · exact firstQuiet event inFirst
    · exact rest value env _ event inRest

theorem Unattended.tryCatch {body : Cli α} {handler : Failure → Cli α} (bodyQuiet : Unattended body)
    (handlerQuiet : ∀ failure, Unattended (handler failure)) :
    Unattended (MonadExcept.tryCatch body handler) := by
  intro env history event member
  rw [run_tryCatch] at member
  have quiet := bodyQuiet env history
  generalize body env history = outcome at quiet member
  rcases outcome with ⟨failure | value, events⟩
  · rcases List.mem_append.mp member with inBody | inHandler
    · exact quiet event inBody
    · exact handlerQuiet failure env _ event inHandler
  · exact quiet event member

theorem Unattended.ite {condition : Prop} [Decidable condition] {yes no : Cli α}
    (yesQuiet : Unattended yes) (noQuiet : Unattended no) :
    Unattended (if condition then yes else no) := by
  split
  · exact yesQuiet
  · exact noQuiet

private theorem unattended_send (command : Command) : Unattended (send command) :=
  (unattended_invoke command).bind fun _ => unattended_pure _

private theorem unattended_version : Unattended version := unattended_of_events_nil fun _ _ => rfl

private theorem unattended_pivmanData : Unattended pivmanData := unattended_of_events_nil fun _ _ => rfl

end Closure

/-! ### The access resolver under `no_prompt` -/

private theorem verification_unattended (pivman : PivmanData) (code : String) :
    Unattended (tryCatch (verifyPinAttempt pivman code) verifyPinFailed : Cli Bool) := by
  intro env history event member
  have isCall := verification_isCall pivman code env history event member
  cases event <;> first | rfl | cases isCall

private theorem verifyPin_unattended (pivman : PivmanData) (pin : Option String) :
    Unattended (verifyPin pivman pin true) := by
  unfold verifyPin
  dsimp only
  split
  · exact (unattended_pure _).bind (verification_unattended pivman)
  · exact (unattended_ctxFail _).bind (verification_unattended pivman)

/-- Under `no_prompt`, `_verify_pin` without a PIN fails before anything else. -/
private theorem verifyPin_noPrompt_missing (pivman : PivmanData) {pin : Option String}
    (missing : presentText pin = none) : verifyPin pivman pin true = ctxFail "PIN required." := by
  unfold verifyPin
  simp only [missing, ↓reduceIte, ctxFail_bind]

private theorem authenticate_unattended (managementKey : Option Bytes) (mgmKeyPrompt : Option String) :
    Unattended (authenticate managementKey mgmKeyPrompt true) := by
  have keySent : ∀ key, Unattended (tryCatch (send (.authenticate key))
      fun _ => ctxFail "Authentication with management key failed." : Cli Unit) :=
    fun key => (unattended_send _).tryCatch fun _ => unattended_ctxFail _
  unfold authenticate
  dsimp only
  split
  · exact (unattended_pure _).bind keySent
  · exact (unattended_ctxFail _).bind keySent

/-- Under `no_prompt`, `_authenticate` without a management key fails before anything else. -/
private theorem authenticate_noPrompt_missing (mgmKeyPrompt : Option String) {managementKey : Option Bytes}
    (missing : presentKey managementKey = none) :
    authenticate managementKey mgmKeyPrompt true = ctxFail "Management key required." := by
  unfold authenticate
  simp only [missing, ↓reduceIte, ctxFail_bind]

private theorem ensureAuthenticated_unattended (pivman : PivmanData) (pin : Option String)
    (managementKey : Option Bytes) (requirePinAndKey : Bool) (mgmKeyPrompt : Option String) :
    Unattended (ensureAuthenticated pivman pin managementKey requirePinAndKey mgmKeyPrompt true) := by
  have keyed := authenticate_unattended managementKey mgmKeyPrompt
  unfold ensureAuthenticated
  dsimp only
  split
  · split
    · exact verifyPin_unattended pivman pin
    · exact keyed.bind fun _ => unattended_pure _
  · split
    · exact (verifyPin_unattended pivman pin).bind fun _ => keyed.bind fun _ => unattended_pure _
    · exact (unattended_pure _).bind fun _ => keyed.bind fun _ => unattended_pure _

/-- The branch `_ensure_authenticated` picks for the record verifies a PIN, and none is given. -/
def LacksPin (pivman : PivmanData) (pin : Option String) (managementKey : Option Bytes)
    (requirePinAndKey : Bool) : Prop :=
  presentText pin = none ∧
    (pivman.hasProtectedKey = true ∧ presentKey managementKey = none ∨
      pivman.hasProtectedKey = false ∧ requirePinAndKey = true)

/-- The branch `_ensure_authenticated` picks for the record authenticates with a management
key, and none is given. -/
def LacksManagementKey (pivman : PivmanData) (managementKey : Option Bytes) : Prop :=
  pivman.hasProtectedKey = false ∧ presentKey managementKey = none

/-- Under `no_prompt`, `_ensure_authenticated` without the PIN its branch verifies fails before
any call. -/
private theorem ensureAuthenticated_lacksPin (pivman : PivmanData) (pin : Option String)
    (managementKey : Option Bytes) (requirePinAndKey : Bool) (mgmKeyPrompt : Option String)
    (lacks : LacksPin pivman pin managementKey requirePinAndKey) :
    ensureAuthenticated pivman pin managementKey requirePinAndKey mgmKeyPrompt true =
      ctxFail "PIN required." := by
  obtain ⟨missingPin, ⟨isProtected, missingKey⟩ | ⟨unprotected, required⟩⟩ := lacks <;>
    unfold ensureAuthenticated
  · simp only [isProtected, missingKey, Option.isNone_none, ↓reduceIte,
      verifyPin_noPrompt_missing pivman missingPin]
  · simp only [unprotected, required, Bool.false_eq_true, ↓reduceIte,
      verifyPin_noPrompt_missing pivman missingPin, ctxFail_bind]

/-- Under `no_prompt`, `_ensure_authenticated` without the management key its branch needs
fails once the PIN, if required, has been verified. -/
private theorem ensureAuthenticated_lacksManagementKey (pivman : PivmanData) (pin : Option String)
    (managementKey : Option Bytes) (requirePinAndKey : Bool) (mgmKeyPrompt : Option String)
    (lacks : LacksManagementKey pivman managementKey) :
    ensureAuthenticated pivman pin managementKey requirePinAndKey mgmKeyPrompt true =
      ((if requirePinAndKey then verifyPin pivman pin true else pure false) >>= fun _ =>
        ctxFail "Management key required.") := by
  obtain ⟨unprotected, missingKey⟩ := lacks
  unfold ensureAuthenticated
  simp only [unprotected, Bool.false_eq_true, ↓reduceIte,
    authenticate_noPrompt_missing mgmKeyPrompt missingKey, ctxFail_bind]
  split <;> rfl

/-! ### Commands that resolve access right after opening the session -/

/-- The PIVMAN record a session returns is the token's. -/
private theorem piv_returns (env : Env) (history : List Event) {pivman : PivmanData}
    (returned : (piv env history).result = .ok pivman) : pivman = env.device.pivmanData := by
  unfold piv at returned
  have opened := returned
  rw [tryCatch_eq_body_of_ok env history (fun _ _ _ => by
    split
    · split <;> exact ⟨_, rfl⟩
    · exact ⟨_, rfl⟩) returned] at opened
  obtain ⟨_, -, selected, -⟩ := bind_result_ok env history opened
  obtain ⟨_, -, read, -⟩ := bind_result_ok env _ selected
  exact (Except.ok.inj read).symm

section Resolved

variable (pin : Option String) (managementKey : Option Bytes) (requirePinAndKey : Bool)
  (mgmKeyPrompt : Option String) (env : Env) (history : List Event)

/-- A command that resolves access under `no_prompt` right after opening the session ends
there when the token's record calls for a PIN that was not given. -/
private theorem resolved_lacksPin {rest : PivmanData → Bool → Cli Unit}
    (lacks : LacksPin env.device.pivmanData pin managementKey requirePinAndKey) :
    (piv >>= fun pivman => ensureAuthenticated pivman pin managementKey requirePinAndKey
        mgmKeyPrompt true >>= rest pivman) env history =
      (piv >>= fun _ => ctxFail "PIN required." : Cli Unit) env history :=
  run_bind_congr env history fun _ returned => by
    rw [piv_returns env history returned,
      ensureAuthenticated_lacksPin _ _ _ _ _ lacks, ctxFail_bind]

/-- A command that resolves access under `no_prompt` right after opening the session ends
there when the token's record calls for a management key that was not given. -/
private theorem resolved_lacksManagementKey {rest : PivmanData → Bool → Cli Unit}
    (lacks : LacksManagementKey env.device.pivmanData managementKey) :
    (piv >>= fun pivman => ensureAuthenticated pivman pin managementKey requirePinAndKey
        mgmKeyPrompt true >>= rest pivman) env history =
      (piv >>= fun pivman => (if requirePinAndKey then verifyPin pivman pin true else pure false) >>=
        fun _ => ctxFail "Management key required." : Cli Unit) env history :=
  run_bind_congr env history fun _ returned => by
    rw [piv_returns env history returned,
      ensureAuthenticated_lacksManagementKey _ _ _ _ _ lacks, bind_assoc]
    simp only [ctxFail_bind]

end Resolved

/-! ### Forced commands record no prompt -/

private theorem piv_unattended : Unattended piv :=
  Unattended.tryCatch ((unattended_send _).bind fun _ => (unattended_send _).bind fun _ =>
    unattended_pivmanData) fun failure => by
      split
      · exact Unattended.ite (unattended_ctxFail _) (unattended_throw _)
      · exact unattended_throw _

private theorem setPinRetries_unattended (managementKey : Option Bytes) (pin : Option String)
    (pinRetries pukRetries : Nat) :
    Unattended (setPinRetries managementKey pin pinRetries pukRetries true) :=
  piv_unattended.bind fun pivman =>
    (ensureAuthenticated_unattended pivman pin managementKey true none).bind fun _ =>
      (unattended_echo _).bind fun _ => (unattended_pure ()).bind fun _ =>
        Unattended.tryCatch ((unattended_send _).bind fun _ => (unattended_echo _).bind fun _ =>
          (unattended_echo _).bind fun _ => unattended_echo _) fun _ => unattended_ctxFail _

private theorem checkKeyOptions_unattended (newManagementKey : Option Bytes) (touch generate : Bool) :
    Unattended (checkKeyOptions newManagementKey touch generate) :=
  (Unattended.ite (unattended_ctxFail _) (unattended_pure _)).bind fun _ =>
    unattended_version.bind fun _ => Unattended.ite (unattended_ctxFail _) (unattended_pure _)

private theorem verifyPinForStoredKey_unattended (pivman : PivmanData) (pin : Option String)
    (pinVerified : Bool) : Unattended (verifyPinForStoredKey pivman pin pinVerified true) := by
  refine Unattended.ite ?_ (unattended_pure _)
  split
  · exact (verifyPin_unattended pivman pin).bind fun _ => unattended_pure _
  · exact unattended_pure _

private theorem newManagementKeyValue_unattended (newManagementKey : Option Bytes) (protect generate : Bool) :
    Unattended (newManagementKeyValue newManagementKey protect generate true) := by
  refine Unattended.bind ?_ fun newKey => ?_
  · refine Unattended.ite (Unattended.ite ?_ (unattended_ctxFail _)) (unattended_pure _)
    exact (unattended_of_events_nil fun _ _ => rfl).bind fun _ =>
      (Unattended.ite (unattended_echo _) (unattended_pure _)).bind fun _ => unattended_pure _
  · split
    · refine Unattended.ite ?_ (unattended_pure _)
      split
      · exact unattended_pure _
      · exact unattended_ctxFail _
    · exact unattended_pure _

private theorem changeManagementKey_unattended (managementKey : Option Bytes) (pin : Option String)
    (newManagementKey : Option Bytes) (touch protect generate : Bool) :
    Unattended (changeManagementKey managementKey pin newManagementKey touch protect generate true) :=
  piv_unattended.bind fun pivman =>
    (ensureAuthenticated_unattended pivman pin managementKey protect _).bind fun verified =>
      (checkKeyOptions_unattended _ _ _).bind fun _ =>
        (verifyPinForStoredKey_unattended pivman pin verified).bind fun _ =>
          (newManagementKeyValue_unattended _ _ _).bind fun _ =>
            Unattended.tryCatch (unattended_send _) fun failure => by
              split
              · exact unattended_ctxFail _
              · exact unattended_throw _

private theorem parseManagementKeyOption_unattended (name : String) (value : Option String) :
    Unattended (parseManagementKeyOption name value) := by
  unfold parseManagementKeyOption clickCallback
  split
  · exact unattended_pure _
  · split
    · exact unattended_pure _
    · exact unattended_throw _

private theorem clickIntRange_unattended (name : String) (value : Int) :
    Unattended (clickIntRange name value) :=
  Unattended.ite (unattended_pure _) (unattended_throw _)

private theorem runPiv_forced_unattended (fuel : Nat) :
    (∀ pinRetries pukRetries managementKey pin,
      Unattended (runPiv fuel (.setRetries pinRetries pukRetries managementKey pin true))) ∧
    ∀ pin touch newManagementKey managementKey protect generate,
      Unattended (runPiv fuel
        (.changeManagementKey pin touch newManagementKey managementKey protect generate true)) :=
  ⟨fun _ _ _ _ => (clickIntRange_unattended _ _).bind fun _ =>
      (clickIntRange_unattended _ _).bind fun _ =>
        (parseManagementKeyOption_unattended _ _).bind fun _ => setPinRetries_unattended _ _ _ _,
    fun _ _ _ _ _ _ => (parseManagementKeyOption_unattended _ _).bind fun _ =>
      (parseManagementKeyOption_unattended _ _).bind fun _ =>
        changeManagementKey_unattended _ _ _ _ _ _⟩

/-! ### The checks of `change-management-key` -/

private theorem NewKey.isTrue_ofOption (key : Option Bytes) :
    (NewKey.ofOption key).isTrue = (presentKey key).isSome := by
  cases key <;> simp [NewKey.ofOption, NewKey.isTrue, presentKey, Option.filter]
  split <;> simp_all

/-- `--force` without a new key, `--generate` or `--protect`: the command fails once access is
resolved, the options checked and the stored-key PIN step done. -/
private theorem changeManagementKey_force_without_key (managementKey : Option Bytes)
    (pin : Option String) {newManagementKey : Option Bytes} (touch : Bool)
    (missing : presentKey newManagementKey = none) :
    changeManagementKey managementKey pin newManagementKey touch false false true =
      (do
        let pivman ← piv
        let pinVerified ← ensureAuthenticated pivman pin managementKey false
          (some "Enter the current management key [blank to use default key]") true
        checkKeyOptions newManagementKey touch false
        verifyPinForStoredKey pivman pin pinVerified true
        ctxFail ("New management key not given. Please remove the --force " ++
          "flag, or set the --generate flag or the --new-management-key option.")) := by
  have value : newManagementKeyValue newManagementKey false false true =
      ctxFail ("New management key not given. Please remove the --force " ++
        "flag, or set the --generate flag or the --new-management-key option.") := by
    simp only [newManagementKeyValue, NewKey.isTrue_ofOption, missing, Option.isSome_none,
      Bool.not_false, Bool.and_self, ↓reduceIte, Bool.false_eq_true, ctxFail_bind]
  simp only [changeManagementKey, value, ctxFail_bind]

/-- `--new-management-key` with `--generate`: the command fails once access is resolved. -/
private theorem changeManagementKey_conflict (managementKey : Option Bytes) (pin : Option String)
    {newManagementKey : Option Bytes} (touch protect force : Bool)
    (given : presentKey newManagementKey ≠ none) :
    changeManagementKey managementKey pin newManagementKey touch protect true force =
      (do
        let pivman ← piv
        let _ ← ensureAuthenticated pivman pin managementKey protect
          (some "Enter the current management key [blank to use default key]") force
        ctxFail "Invalid options: --new-management-key conflicts with --generate") := by
  have conflict : (presentKey newManagementKey).isSome = true := Option.isSome_iff_ne_none.mpr given
  simp only [changeManagementKey, checkKeyOptions, conflict, Bool.and_self, failIf_true,
    ctxFail_bind]

/-- `--touch` on a token older than 4.0.0, without the conflict: the command fails once access
is resolved. -/
private theorem changeManagementKey_touch_unsupported (managementKey : Option Bytes) (pin : Option String)
    (newManagementKey : Option Bytes) (protect generate force : Bool) (env : Env)
    (history : List Event) (noConflict : ((presentKey newManagementKey).isSome && generate) = false)
    (old : env.device.version.lt ⟨4, 0, 0⟩ = true) :
    changeManagementKey managementKey pin newManagementKey true protect generate force env history =
      (do
        let pivman ← piv
        let _ ← ensureAuthenticated pivman pin managementKey protect
          (some "Enter the current management key [blank to use default key]") force
        ctxFail "Require touch not supported on this YubiKey." : Cli Unit) env history := by
  refine run_bind_congr env history fun pivman _ => run_bind_congr env _ fun _ _ => ?_
  simp only [checkKeyOptions, noConflict, failIf_false, pure_bind, bind_assoc, run_bind,
    run_version, Bool.true_and, old, failIf_true, run_ctxFail]
  rfl

/-! ### Results -/

/-- The failures that the inputs and the record settle come only after access resolution has
started. Under `no_prompt` the resolver fails where its branch lacks the PIN or the management
key, a missing key only after a required PIN was verified; and `change-management-key` fails on
its option checks only after `_ensure_authenticated`, and without a new key under `--force`
only after the stored-key PIN step as well. -/
theorem settled_failures_follow_authentication :
    (∀ pivman pin managementKey requirePinAndKey mgmKeyPrompt,
      LacksPin pivman pin managementKey requirePinAndKey →
        ensureAuthenticated pivman pin managementKey requirePinAndKey mgmKeyPrompt true =
          ctxFail "PIN required.") ∧
    (∀ pivman pin managementKey requirePinAndKey mgmKeyPrompt,
      LacksManagementKey pivman managementKey →
        ensureAuthenticated pivman pin managementKey requirePinAndKey mgmKeyPrompt true =
          ((if requirePinAndKey then verifyPin pivman pin true else pure false) >>= fun _ =>
            ctxFail "Management key required.")) ∧
    (∀ managementKey pin newManagementKey touch protect force,
      presentKey newManagementKey ≠ none →
        changeManagementKey managementKey pin newManagementKey touch protect true force =
          (do
            let pivman ← piv
            let _ ← ensureAuthenticated pivman pin managementKey protect
              (some "Enter the current management key [blank to use default key]") force
            ctxFail "Invalid options: --new-management-key conflicts with --generate")) ∧
    (∀ managementKey pin newManagementKey protect generate force env history,
      ((presentKey newManagementKey).isSome && generate) = false →
      env.device.version.lt ⟨4, 0, 0⟩ = true →
        changeManagementKey managementKey pin newManagementKey true protect generate force env
            history =
          (do
            let pivman ← piv
            let _ ← ensureAuthenticated pivman pin managementKey protect
              (some "Enter the current management key [blank to use default key]") force
            ctxFail "Require touch not supported on this YubiKey." : Cli Unit) env history) ∧
    (∀ managementKey pin newManagementKey touch,
      presentKey newManagementKey = none →
        changeManagementKey managementKey pin newManagementKey touch false false true =
          (do
            let pivman ← piv
            let pinVerified ← ensureAuthenticated pivman pin managementKey false
              (some "Enter the current management key [blank to use default key]") true
            checkKeyOptions newManagementKey touch false
            verifyPinForStoredKey pivman pin pinVerified true
            ctxFail ("New management key not given. Please remove the --force " ++
              "flag, or set the --generate flag or the --new-management-key option."))) :=
  ⟨ensureAuthenticated_lacksPin, ensureAuthenticated_lacksManagementKey,
    fun managementKey pin _ touch protect force given =>
      changeManagementKey_conflict managementKey pin touch protect force given,
    changeManagementKey_touch_unsupported,
    fun managementKey pin _ touch missing =>
      changeManagementKey_force_without_key managementKey pin touch missing⟩

/-- `--new-management-key` with `--generate` and an explicit management key: the key reaches the
token before the command fails on the conflict. -/
theorem changeManagementKey_authenticates_before_conflict :
    let key := "010203040506070801020304050607080102030405060708"
    let run := runPiv 0 (.changeManagementKey none false (some key) (some key) false true false)
      (.accepting ⟨false, false, none⟩ "") []
    commandsOf run.events = [.select, .getPivmanData, .authenticate defaultManagementKey] ∧
      run.result = .error (.usage "Invalid options: --new-management-key conflicts with --generate") :=
  ⟨rfl, rfl⟩

/-- With `--force`, `set-retries` and `change-management-key` record no prompt and no
confirmation, and an input they lack ends the command where the interactive run would prompt
for it: the PIN or the management key that the record's branch of `_ensure_authenticated`
needs, and the new management key. -/
theorem forced_commands_never_prompt :
    (∀ fuel pinRetries pukRetries managementKey pin env history,
      ∀ event ∈ (runPiv fuel (.setRetries pinRetries pukRetries managementKey pin true) env
        history).events, event.isUserInput = false) ∧
    (∀ fuel pin touch newManagementKey managementKey protect generate env history,
      ∀ event ∈ (runPiv fuel (.changeManagementKey pin touch newManagementKey managementKey
        protect generate true) env history).events, event.isUserInput = false) ∧
    (∀ managementKey pin pinRetries pukRetries env history,
      LacksPin env.device.pivmanData pin managementKey true →
        setPinRetries managementKey pin pinRetries pukRetries true env history =
          (piv >>= fun _ => ctxFail "PIN required." : Cli Unit) env history) ∧
    (∀ managementKey pin pinRetries pukRetries env history,
      LacksManagementKey env.device.pivmanData managementKey →
        setPinRetries managementKey pin pinRetries pukRetries true env history =
          (piv >>= fun pivman => verifyPin pivman pin true >>= fun _ =>
            ctxFail "Management key required." : Cli Unit) env history) ∧
    (∀ managementKey pin newManagementKey touch protect generate env history,
      LacksPin env.device.pivmanData pin managementKey protect →
        changeManagementKey managementKey pin newManagementKey touch protect generate true env
            history =
          (piv >>= fun _ => ctxFail "PIN required." : Cli Unit) env history) ∧
    (∀ managementKey pin newManagementKey touch protect generate env history,
      LacksManagementKey env.device.pivmanData managementKey →
        changeManagementKey managementKey pin newManagementKey touch protect generate true env
            history =
          (piv >>= fun pivman => (if protect then verifyPin pivman pin true else pure false) >>=
            fun _ => ctxFail "Management key required." : Cli Unit) env history) ∧
    (∀ managementKey pin newManagementKey touch,
      presentKey newManagementKey = none →
        changeManagementKey managementKey pin newManagementKey touch false false true =
          (do
            let pivman ← piv
            let pinVerified ← ensureAuthenticated pivman pin managementKey false
              (some "Enter the current management key [blank to use default key]") true
            checkKeyOptions newManagementKey touch false
            verifyPinForStoredKey pivman pin pinVerified true
            ctxFail ("New management key not given. Please remove the --force " ++
              "flag, or set the --generate flag or the --new-management-key option."))) :=
  ⟨fun fuel _ _ _ _ => (runPiv_forced_unattended fuel).1 _ _ _ _,
    fun fuel _ _ _ _ _ _ => (runPiv_forced_unattended fuel).2 _ _ _ _ _ _,
    fun managementKey pin _ _ env history lacks =>
      resolved_lacksPin pin managementKey true none env history lacks,
    fun managementKey pin _ _ env history lacks =>
      resolved_lacksManagementKey pin managementKey true none env history lacks,
    fun managementKey pin _ _ protect _ env history lacks =>
      resolved_lacksPin pin managementKey protect _ env history lacks,
    fun managementKey pin _ _ protect _ env history lacks =>
      resolved_lacksManagementKey pin managementKey protect _ env history lacks,
    fun managementKey pin _ touch missing =>
      changeManagementKey_force_without_key managementKey pin touch missing⟩

end Ykman.Piv
