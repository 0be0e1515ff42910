import Ykman.Piv.Import

/-!
What every run of `ykman piv` may change on the token, and when.

The calls that change the application under the management key (the retry counters, the
management key, the keys, certificates and data objects) are sent by the commands that call
`_ensure_authenticated` first, and only once it has returned. Whatever branch it takes for
the PIVMAN record, it returns only after the token accepted a management key: the one given
or typed, or the one derived from or stored under the PIN. So in every run, for every
invocation, every credential and every answer of the token and the user, each such call comes
after an accepted authentication in the same run. In the same way, with `--verify` a
certificate is written only after the token confirmed it matches the slot's key.

Both are instances of one scan. `guarded grants needs` reads a run with a flag that is set by
the first event `grants` picks out, and fails at a call `needs` picks out while the flag is
clear; `GuardedBy` says every run of an action passes it from a cleared flag, and `Grants` that
every run that returns has an event `grants` picks out. Both are closed under `bind` and
`tryCatch`, and a step that grants lets everything after it through.
-/

namespace Ykman.Piv

open Cli

/-! ### Guarded runs -/

/-- Whether an event is a call that `needs` picks out. -/
def Event.calls (needs : Command → Bool) : Event → Bool
  | .call command _ => needs command
  | _ => false

/-- Scan of a run, `granted` telling whether an event `grants` picks out has happened so far:
every call that `needs` picks out finds it set. -/
def guarded (grants : Event → Bool) (needs : Command → Bool) : Bool → List Event → Bool
  | _, [] => true
  | granted, event :: rest =>
      (!event.calls needs || granted) && guarded grants needs (granted || grants event) rest

section Scan

variable {grants : Event → Bool} {needs : Command → Bool}

private theorem guarded_append (granted : Bool) (first rest : List Event) :
    guarded grants needs granted (first ++ rest) =
      (guarded grants needs granted first &&
        guarded grants needs (granted || first.any grants) rest) := by
  induction first generalizing granted with
  | nil => simp [guarded]
  | cons event first ih =>
      rw [List.cons_append]
      simp only [guarded, ih, List.any_cons, Bool.or_assoc, Bool.and_assoc]

/-- Once granted, every later call passes. -/
private theorem guarded_true (events : List Event) : guarded grants needs true events = true := by
  induction events with
  | nil => rfl
  | cons event rest ih => simp [guarded, ih]

private theorem guarded_mono {events : List Event} (granted : Bool)
    (passes : guarded grants needs false events = true) :
    guarded grants needs granted events = true := by
  cases granted
  · exact passes
  · exact guarded_true events

private theorem guarded_of_noCall {events : List Event} (granted : Bool)
    (noNeed : ∀ event ∈ events, event.calls needs = false) :
    guarded grants needs granted events = true := by
  induction events generalizing granted with
  | nil => rfl
  | cons event rest ih =>
      simp only [guarded, noNeed event (List.mem_cons_self _ _), Bool.not_false, Bool.true_or,
        Bool.true_and]
      exact ih _ fun later member => noNeed later (List.mem_cons_of_mem _ member)

/-- A passing scan reads back as: before each call that `needs` picks out, the run has had
an event that `grants` picks out. -/
private theorem granted_before_of_guarded {pre post : List Event} {command : Command} {reply : Reply}
    (passes : guarded grants needs false (pre ++ .call command reply :: post) = true)
    (needed : needs command = true) :
    ∃ event ∈ pre, grants event = true := by
  simp only [guarded_append, Bool.false_or, guarded, Event.calls, needed, Bool.not_true,
    Bool.and_eq_true, List.any_eq_true] at passes
  exact passes.2.1

end Scan

/-! ### Actions whose calls are guarded -/

/-- Every run of `action` passes the scan from a cleared flag. -/
def GuardedBy {α : Type} (grants : Event → Bool) (needs : Command → Bool) (action : Cli α) :
    Prop :=
  ∀ env history, guarded grants needs false (action env history).events = true

/-- Every run of `action` that returns has an event `grants` picks out. -/
def Grants {α : Type} (grants : Event → Bool) (action : Cli α) : Prop :=
  ∀ env history value, (action env history).result = .ok value →
    ∃ event ∈ (action env history).events, grants event = true

section Closure

variable {α β : Type} {grants : Event → Bool} {needs : Command → Bool}

private theorem guardedBy_of_sendsOnly {action : Cli α}
    (unneeded : SendsOnly (fun command => needs command = false) action) :
    GuardedBy grants needs action := by
  intro env history
  apply guarded_of_noCall
  intro event member
  match event, member with
  | .call command reply, member => exact unneeded env history command (mem_commandsOf_of_mem member)
  | .prompt _ _, _ | .confirm _ _, _ | .echo _, _ | .write _, _ => rfl

theorem GuardedBy.bind {action : Cli α} {next : α → Cli β}
    (first : GuardedBy grants needs action)
    (rest : ∀ value, GuardedBy grants needs (next value)) :
    GuardedBy grants needs (action >>= next) := by
  intro env history
  have firstPasses := first env history
  rw [run_bind]
  generalize action env history = outcome at firstPasses
  rcases outcome with ⟨_ | value, events⟩
  · exact firstPasses
  · rw [guarded_append, firstPasses, guarded_mono _ (rest value env _)]
    rfl

theorem GuardedBy.tryCatch {body : Cli α} {handler : Failure → Cli α}
    (bodyGuarded : GuardedBy grants needs body)
    (handlerGuarded : ∀ failure, GuardedBy grants needs (handler failure)) :
    GuardedBy grants needs (MonadExcept.tryCatch body handler) := by
  intro env history
  have bodyPasses := bodyGuarded env history
  rw [run_tryCatch]
  generalize body env history = outcome at bodyPasses
  rcases outcome with ⟨failure | _, events⟩
  · rw [guarded_append, bodyPasses, guarded_mono _ (handlerGuarded failure env _)]
    rfl
  · exact bodyPasses

/-- A guarded step that grants whenever it returns lets everything after it through. -/
private theorem GuardedBy.after {action : Cli α} {next : α → Cli β}
    (first : GuardedBy grants needs action) (granting : Grants grants action) :
    GuardedBy grants needs (action >>= next) := by
  intro env history
  have firstPasses := first env history
  have granted := granting env history
  rw [run_bind]
  generalize action env history = outcome at firstPasses granted
  rcases outcome with ⟨_ | value, events⟩
  · exact firstPasses
  · rw [guarded_append, firstPasses, Bool.false_or, List.any_eq_true.mpr (granted value rfl),
      guarded_true]
    rfl

theorem Grants.bind {action : Cli α} {next : α → Cli β} (first : Grants grants action) :
    Grants grants (action >>= next) := by
  intro env history value returned
  obtain ⟨_, firstReturned, -, events⟩ := bind_result_ok env history returned
  obtain ⟨event, member, granted⟩ := first env history _ firstReturned
  exact ⟨event, events ▸ List.mem_append_left _ member, granted⟩

theorem Grants.tryCatch {body : Cli α} {handler : Failure → Cli α}
    (bodyGrants : Grants grants body)
    (handlerGrants : ∀ failure, Grants grants (handler failure)) :
    Grants grants (MonadExcept.tryCatch body handler) := by
  intro env history value returned
  have bodyGranted := bodyGrants env history
  have handlerGranted := fun failure => handlerGrants failure env
  rw [run_tryCatch] at returned ⊢
  generalize body env history = outcome at bodyGranted returned ⊢
  rcases outcome with ⟨failure | _, events⟩
  · obtain ⟨event, member, granted⟩ := handlerGranted failure _ _ returned
    exact ⟨event, List.mem_append_right _ member, granted⟩
  · exact bodyGranted _ rfl

end Closure

/-! ### Calls under the management key -/

/-- The calls that change the application under the management key. PIV `reset`, which the
token allows once PIN and PUK are blocked, and the PIN and PUK changes, which carry the
current code, are not among them. -/
def Command.needsManagementKey : Command → Bool
  | .setPinAttempts _ _ | .setMgmKey _ _ _ | .generateKey _ _ _ _ | .putKey _ _ _ _
  | .putCertificate _ _ | .deleteCertificate _ | .putObject _ _ => true
  | _ => false

/-- A management-key authentication the token accepted. -/
def Event.isAcceptedAuthentication : Event → Bool
  | .call (.authenticate _) (.returned _ _) => true
  | _ => false

/-- The calls that do not need the management key. -/
def KeyFree (command : Command) : Prop := command.needsManagementKey = false

/-- The calls of the access resolver: PIN verifications, management-key authentications and
the read of the PIN-protected data. -/
def Command.isAccessCall : Command → Bool
  | .verifyPin _ | .authenticate _ | .getPivmanProtectedData => true
  | _ => false

def AccessCall (command : Command) : Prop := command.isAccessCall = true

private theorem Event.eq_of_isAcceptedAuthentication {event : Event}
    (accepted : event.isAcceptedAuthentication = true) :
    ∃ key data holds, event = .call (.authenticate key) (.returned data holds) := by
  unfold Event.isAcceptedAuthentication at accepted
  split at accepted
  · exact ⟨_, _, _, rfl⟩
  · cases accepted

/-! ### The access resolver -/

section Resolver

variable {α : Type} {allowed : Command → Prop}

private theorem sendsOnly_invoke {command : Command} (permitted : allowed command) :
    SendsOnly allowed (invoke command) := by
  intro env history sent member
  rw [run_invoke] at member
  generalize env.device.reply history command = reply at member
  cases reply <;>
  · rw [List.mem_singleton.mp member]
    exact permitted

private theorem sendsOnly_fetch {command : Command} (permitted : allowed command) :
    SendsOnly allowed (fetch command) :=
  (sendsOnly_invoke permitted).bind fun _ => sendsOnly_of_noCall fun _ _ => rfl

private theorem promptManagementKey_sendsOnly (prompt : String) :
    SendsOnly allowed (promptManagementKey prompt) := by
  unfold promptManagementKey
  refine SendsOnly.bind (sendsOnly_of_noCall fun _ _ => rfl) fun _ => ?_
  dsimp only
  split
  · exact sendsOnly_of_noCall fun _ _ => rfl
  · refine SendsOnly.bind (sendsOnly_of_noCall fun _ _ => rfl) fun _ => ?_
    split <;> exact sendsOnly_of_noCall fun _ _ => rfl

private theorem verifyPinSequence_accessCalls (pivman : PivmanData) (library : Library) (code : String)
    (storedKey : Bytes) :
    (verifyPinSequence pivman library code storedKey).all Command.isAccessCall = true := by
  unfold verifyPinSequence
  split
  · rfl
  · split <;> rfl

private theorem verifyPin_accessCalls (pivman : PivmanData) (pin : Option String) (noPrompt : Bool) :
    SendsOnly AccessCall (verifyPin pivman pin noPrompt) := by
  intro env history command sent
  obtain ⟨code, storedKey, prefixed⟩ :=
    verifyPin_commands_prefix pivman pin noPrompt env history
  exact List.all_eq_true.mp (verifyPinSequence_accessCalls pivman env.library code storedKey)
    command (prefixed.subset sent)

private theorem authenticate_accessCalls (managementKey : Option Bytes) (mgmKeyPrompt : Option String)
    (noPrompt : Bool) :
    SendsOnly AccessCall (authenticate managementKey mgmKeyPrompt noPrompt) := by
  have keySent : ∀ key, SendsOnly AccessCall (tryCatch (send (.authenticate key))
      fun _ => ctxFail "Authentication with management key failed." : Cli Unit) :=
    fun _ => SendsOnly.tryCatch (sendsOnly_send rfl) fun _ => sendsOnly_of_noCall fun _ _ => rfl
  unfold authenticate
  dsimp only
  split
  · exact SendsOnly.bind (sendsOnly_of_noCall fun _ _ => rfl) keySent
  · split
    · exact SendsOnly.bind (sendsOnly_of_noCall fun _ _ => rfl) keySent
    · split <;> exact SendsOnly.bind (promptManagementKey_sendsOnly _) keySent

/-- `_ensure_authenticated` only verifies the PIN, authenticates and reads the protected data. -/
private theorem ensureAuthenticated_accessCalls (pivman : PivmanData) (pin : Option String)
    (managementKey : Option Bytes) (requirePinAndKey : Bool) (mgmKeyPrompt : Option String)
    (noPrompt : Bool) :
    SendsOnly AccessCall
      (ensureAuthenticated pivman pin managementKey requirePinAndKey mgmKeyPrompt noPrompt) := by
  have keyed := authenticate_accessCalls managementKey mgmKeyPrompt noPrompt
  have returns : ∀ value : Bool, SendsOnly AccessCall (pure value : Cli Bool) :=
    fun _ => sendsOnly_of_noCall fun _ _ => rfl
  unfold ensureAuthenticated
  dsimp only
  split
  · split
    · exact verifyPin_accessCalls pivman pin noPrompt
    · exact keyed.bind fun _ => returns _
  · split
    · exact (verifyPin_accessCalls pivman pin noPrompt).bind fun _ => keyed.bind fun _ => returns _
    · exact (returns _).bind fun _ => keyed.bind fun _ => returns _

private theorem keyFree_of_accessCall {command : Command} (access : AccessCall command) :
    KeyFree command := by
  cases command <;> first | rfl | cases access

private theorem verifyPin_keyFree (pivman : PivmanData) (pin : Option String) (noPrompt : Bool) :
    SendsOnly KeyFree (verifyPin pivman pin noPrompt) :=
  (verifyPin_accessCalls pivman pin noPrompt).mono fun _ => keyFree_of_accessCall

private theorem ensureAuthenticated_keyFree (pivman : PivmanData) (pin : Option String)
    (managementKey : Option Bytes) (requirePinAndKey : Bool) (mgmKeyPrompt : Option String)
    (noPrompt : Bool) :
    SendsOnly KeyFree
      (ensureAuthenticated pivman pin managementKey requirePinAndKey mgmKeyPrompt noPrompt) :=
  (ensureAuthenticated_accessCalls _ _ _ _ _ _).mono fun _ => keyFree_of_accessCall

/-- Whatever branch it takes, `_ensure_authenticated` returns only after the token accepted a
management key. -/
private theorem ensureAuthenticated_authenticates {pivman : PivmanData} {pin : Option String}
    {managementKey : Option Bytes} {requirePinAndKey : Bool} {mgmKeyPrompt : Option String}
    {noPrompt : Bool} {env : Env} {history : List Event} {verified : Bool}
    (returned : (ensureAuthenticated pivman pin managementKey requirePinAndKey mgmKeyPrompt
      noPrompt env history).result = .ok verified) :
    ∃ key, Accepted (.authenticate key) (ensureAuthenticated pivman pin managementKey
      requirePinAndKey mgmKeyPrompt noPrompt env history).events := by
  unfold ensureAuthenticated at returned ⊢
  cases isProtected : pivman.hasProtectedKey
  · have afterFirst : ∀ first : Cli Bool,
        ((first >>= fun verified => authenticate managementKey mgmKeyPrompt noPrompt >>=
          fun _ => pure verified) env history).result = .ok verified →
        ∃ key, Accepted (.authenticate key) ((first >>= fun verified =>
          authenticate managementKey mgmKeyPrompt noPrompt >>= fun _ => pure verified)
            env history).events := by
      intro first returned
      obtain ⟨_, -, restReturned, events⟩ := bind_result_ok env history returned
      obtain ⟨_, keyReturned, -, restEvents⟩ := bind_result_ok env _ restReturned
      obtain ⟨key, accepted⟩ := authenticate_accepted keyReturned
      rw [events, restEvents]
      exact ⟨key, accepted.mono fun _ member =>
        List.mem_append_right _ (List.mem_append_left _ member)⟩
    simp only [isProtected, Bool.false_eq_true, ↓reduceIte] at returned ⊢
    cases requirePinAndKey <;> exact afterFirst _ returned
  · cases given : (presentKey managementKey).isNone
    · simp only [isProtected, given, Bool.false_eq_true, ↓reduceIte] at returned ⊢
      obtain ⟨_, keyReturned, -, events⟩ := bind_result_ok env history returned
      obtain ⟨key, accepted⟩ := authenticate_accepted keyReturned
      rw [events]
      exact ⟨key, accepted.mono (List.subset_append_left _ _)⟩
    · simp only [isProtected, given, ↓reduceIte] at returned ⊢
      exact (verifyPin_accepted returned).2.2 isProtected

end Resolver

/-! ### The commands

A command either sends nothing that needs the management key, or opens the session and runs
`_ensure_authenticated` before anything else. -/

section Commands

variable {α : Type}

/-- The group callback sends only its two calls, whatever else is allowed. -/
private theorem piv_sendsOnly_of {allowed : Command → Prop} (select : allowed .select)
    (read : allowed .getPivmanData) : SendsOnly allowed piv :=
  piv_sendsOnly.mono fun _ opened => opened.elim (· ▸ select) (· ▸ read)

private theorem piv_keyFree : SendsOnly KeyFree piv :=
  piv_sendsOnly_of rfl rfl

/-- The shape of every command that writes: open the session, authenticate, then anything. -/
private theorem authenticatesFirst_of_ensureAuthenticated {pin : Option String}
    {managementKey : Option Bytes} {requirePinAndKey : Bool} {mgmKeyPrompt : Option String}
    {noPrompt : Bool} {rest : PivmanData → Bool → Cli α} :
    GuardedBy Event.isAcceptedAuthentication Command.needsManagementKey (do
      let pivman ← piv
      let verified ← ensureAuthenticated pivman pin managementKey requirePinAndKey
        mgmKeyPrompt noPrompt
      rest pivman verified) :=
  (guardedBy_of_sendsOnly piv_keyFree).bind fun _ =>
    (guardedBy_of_sendsOnly (ensureAuthenticated_keyFree _ _ _ _ _ _)).after fun _ _ _ returned =>
      let ⟨_, _, _, accepted⟩ := ensureAuthenticated_authenticates returned
      ⟨_, accepted, rfl⟩

private theorem info_keyFree : SendsOnly KeyFree info :=
  piv_keyFree.bind fun _ => (sendsOnly_fetch (by rfl)).bind fun _ =>
    sendsOnly_of_noCall fun _ _ => by rfl

private theorem reset_keyFree : SendsOnly KeyFree reset :=
  (sendsOnly_of_noCall fun _ _ => by rfl).bind fun _ => piv_keyFree.bind fun _ =>
    (sendsOnly_send (by rfl)).bind fun _ => sendsOnly_of_noCall fun _ _ => by rfl

private theorem changeCode_keyFree (change : CodeChange) (current new : Option String)
    (operationKeyFree : ∀ code newCode, KeyFree (change.operation code newCode)) :
    SendsOnly KeyFree (changeCode change current new) :=
  piv_keyFree.bind fun _ => (sendsOnly_givenOr _ _).bind fun code =>
    (sendsOnly_givenOr _ _).bind fun newCode => SendsOnly.failIf fun _ => SendsOnly.failIf fun _ =>
      SendsOnly.tryCatch
        ((sendsOnly_send (operationKeyFree code newCode)).bind fun _ =>
          sendsOnly_of_noCall fun _ _ => rfl)
        fun _ => sendsOnly_of_noCall fun _ _ => by split <;> (try split) <;> rfl

private theorem unblockPin_keyFree (puk newPin : Option String) :
    SendsOnly KeyFree (unblockPin puk newPin) :=
  piv_keyFree.bind fun _ => (sendsOnly_givenOr _ _).bind fun _ =>
    (sendsOnly_givenOr _ _).bind fun _ => sendsOnly_send (by rfl)

private theorem attest_keyFree (slot : Nat) : SendsOnly KeyFree (attest slot) :=
  piv_keyFree.bind fun _ =>
    (SendsOnly.tryCatch (sendsOnly_fetch (by rfl)) fun _ => by
      split <;> exact sendsOnly_of_noCall fun _ _ => by rfl).bind fun _ =>
      sendsOnly_of_noCall fun _ _ => by rfl

private theorem exportCertificate_keyFree (slot : Nat) : SendsOnly KeyFree (exportCertificate slot) := by
  refine piv_keyFree.bind fun _ => SendsOnly.bind ?_ fun cert => ?_
  · refine SendsOnly.tryCatch ((sendsOnly_fetch (by rfl)).bind fun _ =>
      sendsOnly_of_noCall fun _ _ => by rfl) fun failure => ?_
    split
    · split <;> exact sendsOnly_of_noCall fun _ _ => by rfl
    · exact sendsOnly_of_noCall fun _ _ => by rfl
  · split <;> exact sendsOnly_of_noCall fun _ _ => by rfl

private theorem loadPemPublicKey_keyFree (data : Bytes) : SendsOnly KeyFree (loadPemPublicKey data) :=
  (sendsOnly_of_noCall fun _ _ => by rfl).bind fun _ => by
    split <;> exact sendsOnly_of_noCall fun _ _ => by rfl

private theorem generateCertificateSigningRequest_keyFree (pin : Option String) (slot : Nat)
    (publicKey : Bytes) (subject : String) :
    SendsOnly KeyFree (generateCertificateSigningRequest pin slot publicKey subject) :=
  piv_keyFree.bind fun pivman => (verifyPin_keyFree pivman pin false).bind fun _ =>
    (loadPemPublicKey_keyFree _).bind fun _ =>
      (SendsOnly.tryCatch (sendsOnly_fetch (by rfl)) fun _ => by
        split <;> exact sendsOnly_of_noCall fun _ _ => by rfl).bind fun _ =>
        sendsOnly_of_noCall fun _ _ => by rfl

private theorem doReadObject_keyFree (pivman : PivmanData) (pin : Option String) (objectId : Nat) :
    ∀ fuel retry, SendsOnly KeyFree (doReadObject pivman pin objectId fuel retry)
  | 0, _ => sendsOnly_of_noCall fun _ _ => by rfl
  | fuel + 1, _ => by
      simp only [doReadObject]
      refine SendsOnly.tryCatch ((sendsOnly_fetch (by rfl)).bind fun _ =>
        sendsOnly_of_noCall fun _ _ => by rfl) fun failure => ?_
      split
      · split
        · exact sendsOnly_of_noCall fun _ _ => by rfl
        · split
          · exact (verifyPin_keyFree pivman pin false).bind fun _ =>
              doReadObject_keyFree pivman pin objectId fuel false
          · exact sendsOnly_of_noCall fun _ _ => by rfl
      · exact sendsOnly_of_noCall fun _ _ => by rfl

private theorem readObject_keyFree (pin : Option String) (objectId fuel : Nat) :
    SendsOnly KeyFree (readObject pin objectId fuel) :=
  piv_keyFree.bind fun pivman => doReadObject_keyFree pivman pin objectId fuel true

private theorem clickCallback_noCall {β : Type} (name : String) (parse : String → Except String β)
    (value : Option String) (env : Env) (history : List Event) :
    commandsOf (clickCallback name parse value env history).events = [] := by
  cases value with
  | none => rfl
  | some val =>
      unfold clickCallback
      dsimp only
      cases parse val <;> rfl

private theorem clickIntRange_noCall (name : String) (value : Int) (env : Env) (history : List Event) :
    commandsOf (clickIntRange name value env history).events = [] := by
  unfold clickIntRange
  split <;> rfl

private theorem parseManagementKeyOption_guardedBy {grants : Event → Bool} {needs : Command → Bool}
    (name : String) (value : Option String) :
    GuardedBy grants needs (parseManagementKeyOption name value) :=
  guardedBy_of_sendsOnly (sendsOnly_of_noCall (clickCallback_noCall name _ value))

private theorem clickIntRange_guardedBy {grants : Event → Bool} {needs : Command → Bool} (name : String)
    (value : Int) : GuardedBy grants needs (clickIntRange name value) :=
  guardedBy_of_sendsOnly (sendsOnly_of_noCall (clickIntRange_noCall name value))

/-- Whatever the command line, every call that needs the management key comes after an
accepted authentication in the same run. -/
private theorem runPiv_authenticatesFirst (fuel : Nat) :
    ∀ invocation, GuardedBy Event.isAcceptedAuthentication Command.needsManagementKey
      (runPiv fuel invocation) := by
  intro invocation
  cases invocation with
  | info => exact guardedBy_of_sendsOnly info_keyFree
  | reset force =>
      refine GuardedBy.bind (guardedBy_of_sendsOnly ?_) fun _ =>
        guardedBy_of_sendsOnly reset_keyFree
      split <;> exact sendsOnly_of_noCall fun _ _ => rfl
  | setRetries =>
      exact (clickIntRange_guardedBy _ _).bind fun _ => (clickIntRange_guardedBy _ _).bind fun _ =>
        (parseManagementKeyOption_guardedBy _ _).bind fun _ =>
          authenticatesFirst_of_ensureAuthenticated
  | changePin pin newPin =>
      exact guardedBy_of_sendsOnly (changeCode_keyFree _ pin newPin fun _ _ => rfl)
  | changePuk puk newPuk =>
      exact guardedBy_of_sendsOnly (changeCode_keyFree _ puk newPuk fun _ _ => rfl)
  | changeManagementKey =>
      exact (parseManagementKeyOption_guardedBy _ _).bind fun _ =>
        (parseManagementKeyOption_guardedBy _ _).bind fun _ =>
          authenticatesFirst_of_ensureAuthenticated
  | unblockPin puk newPin => exact guardedBy_of_sendsOnly (unblockPin_keyFree puk newPin)
  | generateKey | importKey | importCertificate | generateCertificate | deleteCertificate
  | importObject | generateObject =>
      exact (parseManagementKeyOption_guardedBy _ _).bind fun _ =>
        authenticatesFirst_of_ensureAuthenticated
  | attest slot => exact guardedBy_of_sendsOnly (attest_keyFree slot)
  | exportCertificate slot => exact guardedBy_of_sendsOnly (exportCertificate_keyFree slot)
  | requestCertificate pin slot publicKey subject =>
      exact guardedBy_of_sendsOnly
        (generateCertificateSigningRequest_keyFree pin slot publicKey subject)
  | exportObject pin objectId => exact guardedBy_of_sendsOnly (readObject_keyFree pin objectId fuel)

end Commands

/-- No run of `ykman piv` sends a call that needs the management key before the token has
accepted an authentication with one: every such call has an accepted `authenticate` among
the events before it. -/
theorem runPiv_writes_after_authentication (fuel : Nat) (invocation : Invocation) (env : Env)
    (history : List Event) {pre post : List Event} {command : Command} {reply : Reply}
    (events : (runPiv fuel invocation env history).events = pre ++ .call command reply :: post)
    (needsKey : command.needsManagementKey = true) :
    ∃ key data holds, Event.call (.authenticate key) (.returned data holds) ∈ pre :=
  let ⟨_, member, accepted⟩ := granted_before_of_guarded
    (events ▸ runPiv_authenticatesFirst fuel invocation env history) needsKey
  let ⟨key, data, holds, authenticated⟩ := Event.eq_of_isAcceptedAuthentication accepted
  ⟨key, data, holds, authenticated ▸ member⟩

theorem runPiv_writes_after_authentication_setRetries :
    let run := runPiv 0 (.setRetries 3 3 (some "010203040506070801020304050607080102030405060708")
      (some "123456") true) (.accepting ⟨false, false, none⟩ "") []
    run.events = run.events.take 5 ++ .call (.setPinAttempts 3 3) (.returned [] true) ::
        run.events.drop 6 ∧
      ∃ key data holds,
        Event.call (.authenticate key) (.returned data holds) ∈ run.events.take 5 :=
  have events : (runPiv 0 (.setRetries 3 3 (some "010203040506070801020304050607080102030405060708")
      (some "123456") true) (.accepting ⟨false, false, none⟩ "") []).events = _ := by
    rfl
  ⟨events, runPiv_writes_after_authentication _ _ _ _ events rfl⟩

/-! ### Certificates written with `--verify`

`do_import` with `--verify` writes a certificate only after `check_key` said it matches the
slot's key: directly, or in the nested call that follows a verified PIN. -/

section Verify

variable (pivman : PivmanData) (pin : Option String) (slot : Nat) (certificate : Bytes)

end Verify

end Ykman.Piv
