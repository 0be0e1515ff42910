import Ykman.Piv.Access

/-!
What the access resolver of `ykman/cli/piv.py` sends to the token: `_verify_pin`,
`_authenticate` and `_ensure_authenticated`, for every protection record, every credential
given or typed and every answer of the token.

The `try` block of `_verify_pin` is a straight line of calls, `verifyPinSequence`, that
stops at the first call the token raises on (`RunsLine`). The laws of the resolver follow
from that and from the shape of `_ensure_authenticated`.
-/

namespace Ykman.Piv

open Cli

/-! ### Straight lines of calls -/

/-- An outcome of running `sequence` as a straight line of session calls that returns
`value`: each call is recorded with its reply, and the first raised reply ends the run with
that error. -/
def RunsLine {α : Type} : List Command → α → Outcome α → Prop
  | [], value, outcome => outcome = ⟨.ok value, []⟩
  | command :: rest, value, outcome =>
      (∃ data holds tail,
        outcome = ⟨tail.result, .call command (.returned data holds) :: tail.events⟩ ∧
          RunsLine rest value tail) ∨
      ∃ error, outcome = ⟨.error (.device error), [.call command (.raised error)]⟩

section Lines

variable {α : Type} (env : Env) (history : List Event)

private theorem runsLine_pure (value : α) : RunsLine [] value ((pure value : Cli α) env history) :=
  rfl

private theorem runsLine_send_bind {command : Command} {rest : List Command} {value : α}
    {next : Unit → Cli α} (continues : ∀ history, RunsLine rest value (next () env history)) :
    RunsLine (command :: rest) value ((send command >>= next) env history) := by
  rw [run_send_bind]
  cases env.device.reply history command with
  | returned data holds => exact .inl ⟨data, holds, _, rfl, continues _⟩
  | raised error => exact .inr ⟨error, rfl⟩

/-- A call whose continuation runs a line that depends on a key read later. -/
private theorem runsLine_send_bind_exists {command : Command} {rest : Bytes → List Command}
    {value : α} {next : Unit → Cli α}
    (continues : ∀ history, ∃ key, RunsLine (rest key) value (next () env history)) :
    ∃ key, RunsLine (command :: rest key) value ((send command >>= next) env history) := by
  rw [run_send_bind]
  cases env.device.reply history command with
  | returned data holds =>
      obtain ⟨key, runs⟩ := continues (history ++ [.call command (.returned data holds)])
      exact ⟨key, .inl ⟨data, holds, _, rfl, runs⟩⟩
  | raised error => exact ⟨[], .inr ⟨error, rfl⟩⟩

/-- A read whose data the rest of the line uses. -/
private theorem runsLine_fetch_bind {command : Command} {rest : Bytes → List Command} {value : α}
    {next : Bytes → Cli α}
    (continues : ∀ data history, RunsLine (rest data) value (next data env history)) :
    ∃ data, RunsLine (command :: rest data) value ((fetch command >>= next) env history) := by
  rw [run_fetch_bind]
  cases env.device.reply history command with
  | returned data holds => exact ⟨data, .inl ⟨data, holds, _, rfl, continues _ _⟩⟩
  | raised error => exact ⟨[], .inr ⟨error, rfl⟩⟩

private theorem runsLine_library_bind {sequence : List Command} {value : α} {next : Library → Cli α}
    (continues : RunsLine sequence value (next env.library env history)) :
    RunsLine sequence value ((library >>= next) env history) := by
  rwa [run_library_bind]

variable {value : α}

private theorem RunsLine.commands_prefix {sequence : List Command} {outcome : Outcome α}
    (runs : RunsLine sequence value outcome) : commandsOf outcome.events <+: sequence := by
  induction sequence generalizing outcome with
  | nil => rw [runs]; exact List.nil_prefix
  | cons command rest ih =>
      rcases runs with ⟨data, holds, tail, rfl, runsTail⟩ | ⟨error, rfl⟩
      · exact (List.prefix_cons_inj _).mpr (ih runsTail)
      · exact (List.prefix_cons_inj _).mpr List.nil_prefix

/-- A line returns exactly when every call of it was sent and accepted. -/
private theorem RunsLine.ok_iff {sequence : List Command} {outcome : Outcome α}
    (runs : RunsLine sequence value outcome) :
    outcome.result = .ok value ↔
      commandsOf outcome.events = sequence ∧ ∀ event ∈ outcome.events, event.isAccepted := by
  induction sequence generalizing outcome with
  | nil => subst runs; simp
  | cons command rest ih =>
      rcases runs with ⟨data, holds, tail, rfl, runsTail⟩ | ⟨error, rfl⟩
      · simp [commandsOf, Event.isAccepted, ih runsTail]
      · simp [commandsOf, Event.isAccepted]

private theorem RunsLine.eq_of_ok {sequence : List Command} {outcome : Outcome α} {returnedValue : α}
    (runs : RunsLine sequence value outcome) (returned : outcome.result = .ok returnedValue) :
    returnedValue = value := by
  induction sequence generalizing outcome with
  | nil => rw [runs] at returned; exact (Except.ok.inj returned).symm
  | cons command rest ih =>
      rcases runs with ⟨data, holds, tail, rfl, runsTail⟩ | ⟨error, rfl⟩
      · exact ih runsTail returned
      · cases returned

theorem RunsLine.isCall {sequence : List Command} {outcome : Outcome α}
    (runs : RunsLine sequence value outcome) : ∀ event ∈ outcome.events, event.isCall := by
  induction sequence generalizing outcome with
  | nil => subst runs; simp
  | cons command rest ih =>
      rcases runs with ⟨data, holds, tail, rfl, runsTail⟩ | ⟨error, rfl⟩
      · simpa [Event.isCall] using ih runsTail
      · simp [Event.isCall]

/-- A line that returns ends with its last command, accepted. -/
private theorem RunsLine.getLast?_of_ok {sequence : List Command} {outcome : Outcome α}
    {last : Command} (runs : RunsLine sequence value outcome)
    (returned : outcome.result = .ok value) (ends : sequence.getLast? = some last) :
    ∃ data holds, outcome.events.getLast? = some (.call last (.returned data holds)) := by
  induction sequence generalizing outcome with
  | nil => cases ends
  | cons command rest ih =>
      rcases runs with ⟨data, holds, tail, rfl, runsTail⟩ | ⟨error, rfl⟩
      · cases rest with
        | nil =>
            subst runsTail
            obtain rfl : command = last := Option.some.inj ends
            exact ⟨data, holds, rfl⟩
        | cons next later =>
            obtain ⟨data, holds, ends⟩ := ih runsTail returned (by rwa [List.getLast?_cons_cons] at ends)
            exact ⟨data, holds, by rw [List.getLast?_cons, ends]; rfl⟩
      · cases returned

end Lines

/-! ### `_verify_pin` -/

/-- The calls `_verify_pin` makes for the PIN `code` while the token accepts them: the PIN;
for a PIN-derived key the derived key and the PIN again; otherwise, for a PIN-stored key,
the read of the protected data, the key it holds and the PIN again. -/
def verifyPinSequence (pivman : PivmanData) (library : Library) (code : String)
    (storedKey : Bytes) : List Command :=
  if pivman.hasDerivedKey then
    [.verifyPin code, .authenticate (library.deriveManagementKey code pivman.salt),
      .verifyPin code]
  else if pivman.hasStoredKey then
    [.verifyPin code, .getPivmanProtectedData, .authenticate storedKey, .verifyPin code]
  else [.verifyPin code]

private theorem verifyPinSequence_head (pivman : PivmanData) (library : Library) (code : String)
    (storedKey : Bytes) :
    ∃ rest, verifyPinSequence pivman library code storedKey = .verifyPin code :: rest := by
  unfold verifyPinSequence
  split
  · exact ⟨_, rfl⟩
  · split <;> exact ⟨_, rfl⟩

private theorem verifyPinSequence_getLast? (pivman : PivmanData) (library : Library) (code : String)
    (storedKey : Bytes) :
    (verifyPinSequence pivman library code storedKey).getLast? = some (.verifyPin code) := by
  unfold verifyPinSequence
  split
  · rfl
  · split <;> rfl

section VerifyPin

variable (pivman : PivmanData) (code : String) (env : Env) (history : List Event)

theorem verifyPinAttempt_runsLine :
    ∃ storedKey, RunsLine (verifyPinSequence pivman env.library code storedKey) true
      (verifyPinAttempt pivman code env history) := by
  rcases pivman with ⟨_ | _, _ | _, salt⟩ <;>
    simp only [verifyPinAttempt, verifyPinSequence, bind_assoc, pure_bind,
      Bool.false_eq_true, ↓reduceIte]
  · exact ⟨[], runsLine_send_bind _ _ fun _ => runsLine_pure _ _ _⟩
  · exact runsLine_send_bind_exists _ _ fun _ => runsLine_fetch_bind _ _ fun _ _ =>
      runsLine_send_bind _ _ fun _ => runsLine_send_bind _ _ fun _ => runsLine_pure _ _ _
  all_goals exact ⟨[], runsLine_send_bind _ _ fun _ => runsLine_library_bind _ _ <|
      runsLine_send_bind _ _ fun _ => runsLine_send_bind _ _ fun _ => runsLine_pure _ _ _⟩

/-- The `except` clauses of `_verify_pin` record nothing and end in a usage error. -/
theorem verifyPinFailed_run (failure : Failure) :
    ∃ message, verifyPinFailed failure env history = ⟨.error (.usage message), []⟩ := by
  unfold verifyPinFailed
  split
  · split <;> exact ⟨_, rfl⟩
  · exact ⟨_, rfl⟩

/-- Once it has its PIN, `_verify_pin` records the attempt's calls and returns what the
attempt returns; a failure of the attempt becomes a usage error. -/
theorem verification_run :
    ((tryCatch (verifyPinAttempt pivman code) verifyPinFailed : Cli Bool) env history).events =
        (verifyPinAttempt pivman code env history).events ∧
      ∀ verified,
        ((tryCatch (verifyPinAttempt pivman code) verifyPinFailed : Cli Bool) env
            history).result = .ok verified ↔
          (verifyPinAttempt pivman code env history).result = .ok verified := by
  rw [run_tryCatch]
  rcases verifyPinAttempt pivman code env history with ⟨failure | verified, events⟩
  · obtain ⟨message, failed⟩ := verifyPinFailed_run env (history ++ events) failure
    simp [failed]
  · simp

/-- `_verify_pin` records nothing but session calls once it has its PIN. -/
theorem verification_isCall :
    ∀ event ∈ ((tryCatch (verifyPinAttempt pivman code) verifyPinFailed : Cli Bool) env
      history).events, event.isCall := by
  obtain ⟨storedKey, runs⟩ := verifyPinAttempt_runsLine pivman code env history
  rw [(verification_run pivman code env history).1]
  exact runs.isCall

end VerifyPin

/-- How `_verify_pin` comes by the PIN it submits: given, missing under `no_prompt`, or
typed at the prompt. -/
theorem verifyPin_cases (pivman : PivmanData) (pin : Option String) (noPrompt : Bool)
    (env : Env) (history : List Event) :
    (∃ code, presentText pin = some code ∧
      verifyPin pivman pin noPrompt env history =
        (tryCatch (verifyPinAttempt pivman code) verifyPinFailed : Cli Bool) env history) ∨
    (presentText pin = none ∧ noPrompt = true ∧
      verifyPin pivman pin noPrompt env history = ⟨.error (.usage "PIN required."), []⟩) ∨
    (presentText pin = none ∧ noPrompt = false ∧ ∃ code,
      let verification := (tryCatch (verifyPinAttempt pivman code) verifyPinFailed : Cli Bool)
        env (history ++ [.prompt "Enter PIN" code])
      verifyPin pivman pin noPrompt env history =
        ⟨verification.result, .prompt "Enter PIN" code :: verification.events⟩) := by
  unfold verifyPin
  cases given : presentText pin with
  | some code => exact .inl ⟨code, rfl, by simp only [pure_bind]⟩
  | none =>
      cases noPrompt with
      | true => exact .inr (.inl ⟨rfl, rfl, rfl⟩)
      | false =>
          exact .inr (.inr ⟨rfl, rfl, env.user.answer history "Enter PIN", by
            simp only [Bool.false_eq_true, ↓reduceIte, promptPin, run_clickPrompt_bind]⟩)

/-- The calls of `_verify_pin` are a prefix of its sequence for the PIN it obtained. -/
theorem verifyPin_commands_prefix (pivman : PivmanData) (pin : Option String) (noPrompt : Bool)
    (env : Env) (history : List Event) :
    ∃ code storedKey, commandsOf (verifyPin pivman pin noPrompt env history).events <+:
      verifyPinSequence pivman env.library code storedKey := by
  rcases verifyPin_cases pivman pin noPrompt env history with
    ⟨code, -, ran⟩ | ⟨-, -, ran⟩ | ⟨-, -, code, ran⟩ <;> rw [ran]
  · obtain ⟨storedKey, runs⟩ := verifyPinAttempt_runsLine pivman code env history
    rw [(verification_run pivman code env history).1]
    exact ⟨code, storedKey, runs.commands_prefix⟩
  · exact ⟨"", [], List.nil_prefix⟩
  · obtain ⟨storedKey, runs⟩ := verifyPinAttempt_runsLine pivman code env
      (history ++ [.prompt "Enter PIN" code])
    rw [(verification_run pivman code env _).1]
    exact ⟨code, storedKey, runs.commands_prefix⟩

/-- The last session call of a run, with its reply. -/
def lastCall (events : List Event) : Option Event :=
  (events.filter Event.isCall).getLast?

private theorem lastCall_eq_getLast? {events : List Event} (onlyCalls : ∀ event ∈ events, event.isCall) :
    lastCall events = events.getLast? := by
  rw [lastCall, List.filter_eq_self.mpr onlyCalls]

@[simp] theorem lastCall_prompt (text answer : String) (events : List Event) :
    lastCall (.prompt text answer :: events) = lastCall events := by
  simp [lastCall, Event.isCall]

private theorem lastCall_append_of_eq_some {first rest : List Event} {call : Event}
    (ends : lastCall rest = some call) : lastCall (first ++ rest) = some call := by
  rw [lastCall] at ends ⊢
  rw [List.filter_append, List.getLast?_append, ends]
  rfl

private theorem lastCall_append_call (events : List Event) (command : Command) (reply : Reply) :
    lastCall (events ++ [.call command reply]) = some (.call command reply) :=
  lastCall_append_of_eq_some rfl

private theorem mem_of_lastCall {events : List Event} {call : Event} (ends : lastCall events = some call) :
    call ∈ events := by
  obtain ⟨earlier, split⟩ := List.getLast?_eq_some_iff.mp ends
  have member : call ∈ events.filter Event.isCall := split ▸ List.mem_concat_self earlier call
  exact (List.mem_filter.mp member).1

/-- Once it has its PIN, a `_verify_pin` that returns ends with that PIN accepted. -/
private theorem verification_ends_with_pin (pivman : PivmanData) (code : String) (env : Env)
    (history : List Event) {verified : Bool}
    (returned : ((tryCatch (verifyPinAttempt pivman code) verifyPinFailed : Cli Bool) env
      history).result = .ok verified) :
    ∃ data holds, lastCall ((tryCatch (verifyPinAttempt pivman code) verifyPinFailed : Cli Bool)
      env history).events = some (.call (.verifyPin code) (.returned data holds)) := by
  obtain ⟨storedKey, runs⟩ := verifyPinAttempt_runsLine pivman code env history
  obtain ⟨sameEvents, sameResult⟩ := verification_run pivman code env history
  have attemptReturned := (sameResult _).mp returned
  obtain rfl := runs.eq_of_ok attemptReturned
  rw [lastCall_eq_getLast? (verification_isCall pivman code env history), sameEvents]
  exact runs.getLast?_of_ok attemptReturned (verifyPinSequence_getLast? _ _ _ _)

/-- A `_verify_pin` that returns ends with a PIN submission the token accepted. -/
private theorem verifyPin_ends_with_pin {pivman : PivmanData} {pin : Option String} {noPrompt : Bool}
    {env : Env} {history : List Event} {verified : Bool}
    (returned : (verifyPin pivman pin noPrompt env history).result = .ok verified) :
    ∃ code data holds, lastCall (verifyPin pivman pin noPrompt env history).events =
      some (.call (.verifyPin code) (.returned data holds)) := by
  rcases verifyPin_cases pivman pin noPrompt env history with
    ⟨code, -, ran⟩ | ⟨-, -, ran⟩ | ⟨-, -, code, ran⟩ <;> rw [ran] at returned ⊢
  · exact ⟨code, verification_ends_with_pin pivman code env history returned⟩
  · cases returned
  · rw [lastCall_prompt]
    exact ⟨code, verification_ends_with_pin pivman code env _ returned⟩

/-! ### What a returning run has had accepted -/

/-- The token accepted `command` somewhere in `events`. -/
def Accepted (command : Command) (events : List Event) : Prop :=
  ∃ data holds, Event.call command (.returned data holds) ∈ events

theorem Accepted.mono {command : Command} {events wider : List Event}
    (accepted : Accepted command events) (included : events ⊆ wider) :
    Accepted command wider :=
  let ⟨data, holds, member⟩ := accepted
  ⟨data, holds, included member⟩

private theorem accepted_of_mem_commandsOf {command : Command} {events : List Event}
    (sent : command ∈ commandsOf events) (allAccepted : ∀ event ∈ events, event.isAccepted) :
    Accepted command events := by
  induction events with
  | nil => simp at sent
  | cons event rest ih =>
      have restAccepted := fun later member => allAccepted later (List.mem_cons_of_mem _ member)
      have earlier : command ∈ commandsOf rest → Accepted command (event :: rest) :=
        fun inRest => (ih inRest restAccepted).mono (List.subset_cons_self _ _)
      match event, sent, allAccepted event (List.mem_cons_self _ _) with
      | .call sentCommand (.returned data holds), sent, _ =>
          rcases List.mem_cons.mp sent with rfl | inRest
          · exact ⟨data, holds, List.mem_cons_self _ _⟩
          · exact earlier inRest
      | .prompt _ _, sent, _ | .confirm _ _, sent, _ | .echo _, sent, _ | .write _, sent, _ =>
          exact earlier sent

private theorem verifyPinSequence_authenticates (pivman : PivmanData) (library : Library)
    (code : String) (storedKey : Bytes) (isProtected : pivman.hasProtectedKey) :
    ∃ key, .authenticate key ∈ verifyPinSequence pivman library code storedKey := by
  rcases pivman with ⟨_ | _, _ | _, salt⟩ <;>
    simp_all [PivmanData.hasProtectedKey, verifyPinSequence]

/-- A `_verify_pin` that returns has had its PIN accepted, and with a PIN-protected key also
a management key. -/
private theorem verification_accepted (pivman : PivmanData) (code : String) (env : Env)
    (history : List Event) {verified : Bool}
    (returned : ((tryCatch (verifyPinAttempt pivman code) verifyPinFailed : Cli Bool) env
      history).result = .ok verified) :
    verified = true ∧
      Accepted (.verifyPin code)
        ((tryCatch (verifyPinAttempt pivman code) verifyPinFailed : Cli Bool) env history).events ∧
      (pivman.hasProtectedKey → ∃ key, Accepted (.authenticate key)
        ((tryCatch (verifyPinAttempt pivman code) verifyPinFailed : Cli Bool) env history).events) := by
  obtain ⟨storedKey, runs⟩ := verifyPinAttempt_runsLine pivman code env history
  obtain ⟨sameEvents, sameResult⟩ := verification_run pivman code env history
  have attemptReturned := (sameResult _).mp returned
  obtain rfl := runs.eq_of_ok attemptReturned
  obtain ⟨sentAll, allAccepted⟩ := runs.ok_iff.mp attemptReturned
  obtain ⟨rest, startsWithPin⟩ := verifyPinSequence_head pivman env.library code storedKey
  rw [sameEvents]
  refine ⟨rfl, accepted_of_mem_commandsOf ?_ allAccepted, fun isProtected => ?_⟩
  · rw [sentAll, startsWithPin]
    exact List.mem_cons_self _ _
  · obtain ⟨key, member⟩ :=
      verifyPinSequence_authenticates pivman env.library code storedKey isProtected
    exact ⟨key, accepted_of_mem_commandsOf (sentAll ▸ member) allAccepted⟩

theorem verifyPin_accepted {pivman : PivmanData} {pin : Option String} {noPrompt : Bool}
    {env : Env} {history : List Event} {verified : Bool}
    (returned : (verifyPin pivman pin noPrompt env history).result = .ok verified) :
    verified = true ∧
      (∃ code, Accepted (.verifyPin code) (verifyPin pivman pin noPrompt env history).events) ∧
      (pivman.hasProtectedKey → ∃ key,
        Accepted (.authenticate key) (verifyPin pivman pin noPrompt env history).events) := by
  rcases verifyPin_cases pivman pin noPrompt env history with
    ⟨code, -, ran⟩ | ⟨-, -, ran⟩ | ⟨-, -, code, ran⟩ <;> rw [ran] at returned ⊢
  · obtain ⟨isTrue, pinAccepted, keyAccepted⟩ :=
      verification_accepted pivman code env history returned
    exact ⟨isTrue, ⟨code, pinAccepted⟩, keyAccepted⟩
  · cases returned
  · obtain ⟨isTrue, pinAccepted, keyAccepted⟩ :=
      verification_accepted pivman code env _ returned
    have widen := List.subset_cons_self (Event.prompt "Enter PIN" code)
    exact ⟨isTrue, ⟨code, pinAccepted.mono (widen _)⟩,
      fun isProtected => (keyAccepted isProtected).imp fun _ accepted => accepted.mono (widen _)⟩

/-- The `try` block of `_authenticate` returns only when the token accepted the key, and then
that call is all it recorded. -/
private theorem authenticateKey_run {key : Bytes} {env : Env} {history : List Event}
    (returned : ((tryCatch (send (.authenticate key))
      fun _ => ctxFail "Authentication with management key failed." : Cli Unit) env
        history).result = .ok ()) :
    ∃ data holds, ((tryCatch (send (.authenticate key))
      fun _ => ctxFail "Authentication with management key failed." : Cli Unit) env
        history).events = [.call (.authenticate key) (.returned data holds)] := by
  rw [run_tryCatch, run_send] at returned ⊢
  cases reply : env.device.reply history (.authenticate key) with
  | returned data holds => exact ⟨data, holds, rfl⟩
  | raised error =>
      rw [reply] at returned
      cases returned

theorem authenticateKey_commands (key : Bytes) (env : Env) (history : List Event) :
    commandsOf ((tryCatch (send (.authenticate key))
      fun _ => ctxFail "Authentication with management key failed." : Cli Unit) env
        history).events = [.authenticate key] := by
  rw [run_tryCatch, run_send]
  cases env.device.reply history (.authenticate key) <;> rfl

/-- With a key given, `_authenticate` sends that key and nothing else. -/
private theorem authenticate_given_commands {managementKey : Option Bytes} {key : Bytes}
    (given : presentKey managementKey = some key) (mgmKeyPrompt : Option String)
    (noPrompt : Bool) (env : Env) (history : List Event) :
    commandsOf (authenticate managementKey mgmKeyPrompt noPrompt env history).events =
      [.authenticate key] := by
  simp only [authenticate, given, pure_bind]
  exact authenticateKey_commands key env history

/-- An `_authenticate` that returns ends with a management key the token accepted. -/
private theorem authenticate_ends_with_key {managementKey : Option Bytes} {mgmKeyPrompt : Option String}
    {noPrompt : Bool} {env : Env} {history : List Event}
    (returned : (authenticate managementKey mgmKeyPrompt noPrompt env history).result = .ok ()) :
    ∃ key data holds, lastCall (authenticate managementKey mgmKeyPrompt noPrompt env
      history).events = some (.call (.authenticate key) (.returned data holds)) := by
  unfold authenticate at returned ⊢
  cases given : presentKey managementKey with
  | some key =>
      simp only [given, pure_bind] at returned ⊢
      obtain ⟨data, holds, events⟩ := authenticateKey_run returned
      exact ⟨key, data, holds, by rw [events]; rfl⟩
  | none =>
      cases noPrompt
      · cases mgmKeyPrompt <;> simp only [given, Bool.false_eq_true, ↓reduceIte] at returned ⊢ <;>
        · obtain ⟨key, -, keyReturned, events⟩ := bind_result_ok env history returned
          obtain ⟨data, holds, keyEvents⟩ := authenticateKey_run keyReturned
          rw [events, keyEvents]
          exact ⟨key, data, holds, lastCall_append_call _ _ _⟩
      · simp [given] at returned

theorem authenticate_accepted {managementKey : Option Bytes} {mgmKeyPrompt : Option String}
    {noPrompt : Bool} {env : Env} {history : List Event}
    (returned : (authenticate managementKey mgmKeyPrompt noPrompt env history).result = .ok ()) :
    ∃ key, Accepted (.authenticate key) (authenticate managementKey mgmKeyPrompt noPrompt env
      history).events :=
  let ⟨key, data, holds, ends⟩ := authenticate_ends_with_key returned
  ⟨key, data, holds, mem_of_lastCall ends⟩

/-! ### `_ensure_authenticated` -/

/-- With `require_pin_and_key`, a run of `_ensure_authenticated` that returns has had a
management key accepted. It reports the PIN as verified, and has had a PIN accepted, exactly
unless the record is PIN-protected and the caller gave a management key: then that key is the
only call it made. -/
theorem ensureAuthenticated_requirePinAndKey_accepted (pivman : PivmanData)
    (pin : Option String) (managementKey : Option Bytes) (mgmKeyPrompt : Option String)
    (noPrompt : Bool) (env : Env) (history : List Event) {verified : Bool}
    (returned : (ensureAuthenticated pivman pin managementKey true mgmKeyPrompt noPrompt env
      history).result = .ok verified) :
    (∃ key, Accepted (.authenticate key) (ensureAuthenticated pivman pin managementKey true
      mgmKeyPrompt noPrompt env history).events) ∧
    verified = (!pivman.hasProtectedKey || (presentKey managementKey).isNone) ∧
    (verified = true → ∃ code, Accepted (.verifyPin code) (ensureAuthenticated pivman pin
      managementKey true mgmKeyPrompt noPrompt env history).events) ∧
    (pivman.hasProtectedKey = true → ∀ key, presentKey managementKey = some key →
      commandsOf (ensureAuthenticated pivman pin managementKey true mgmKeyPrompt noPrompt env
        history).events = [.authenticate key]) := by
  unfold ensureAuthenticated at returned ⊢
  cases isProtected : pivman.hasProtectedKey
  · simp only [isProtected, Bool.false_eq_true, ↓reduceIte, bind_assoc] at returned ⊢
    obtain ⟨pinVerified, pinReturned, restReturned, events⟩ :=
      bind_result_ok env history returned
    obtain ⟨_, keyReturned, valueReturned, restEvents⟩ := bind_result_ok env _ restReturned
    obtain ⟨rfl, ⟨code, pinAccepted⟩, -⟩ := verifyPin_accepted pinReturned
    obtain rfl : true = verified := Except.ok.inj valueReturned
    obtain ⟨key, keyAccepted⟩ := authenticate_accepted keyReturned
    rw [events, restEvents]
    exact ⟨⟨key, keyAccepted.mono fun _ member => List.mem_append_right _
        (List.mem_append_left _ member)⟩, rfl,
      fun _ => ⟨code, pinAccepted.mono (List.subset_append_left _ _)⟩, nofun⟩
  · cases given : (presentKey managementKey).isNone
    · simp only [isProtected, given, Bool.false_eq_true, ↓reduceIte] at returned ⊢
      obtain ⟨_, keyReturned, valueReturned, events⟩ := bind_result_ok env history returned
      obtain rfl : false = verified := Except.ok.inj valueReturned
      obtain ⟨key, keyAccepted⟩ := authenticate_accepted keyReturned
      rw [events]
      refine ⟨⟨key, keyAccepted.mono (List.subset_append_left _ _)⟩, rfl, nofun, ?_⟩
      intro _ key given
      simp only [commandsOf_append, authenticate_given_commands given, run_pure, commandsOf_nil,
        List.append_nil]
    · simp only [isProtected, given, ↓reduceIte] at returned ⊢
      obtain ⟨rfl, pinAccepted, keyAccepted⟩ := verifyPin_accepted returned
      refine ⟨keyAccepted isProtected, rfl, fun _ => pinAccepted, fun _ key present => ?_⟩
      simp [present] at given

/-- An unprotected record, the PIN and the default key given, every call accepted. -/
theorem ensureAuthenticated_requirePinAndKey_accepted_unprotected :
    (ensureAuthenticated ⟨false, false, none⟩ (some "123456") (some defaultManagementKey) true
        none false (.accepting ⟨false, false, none⟩ "") []).result = .ok true ∧
      (∃ key, Accepted (.authenticate key) (ensureAuthenticated ⟨false, false, none⟩
        (some "123456") (some defaultManagementKey) true none false
        (.accepting ⟨false, false, none⟩ "") []).events) ∧
      true = (!PivmanData.hasProtectedKey ⟨false, false, none⟩ ||
        (presentKey (some defaultManagementKey)).isNone) ∧
      (true = true → ∃ code, Accepted (.verifyPin code) (ensureAuthenticated ⟨false, false, none⟩
        (some "123456") (some defaultManagementKey) true none false
        (.accepting ⟨false, false, none⟩ "") []).events) ∧
      (PivmanData.hasProtectedKey ⟨false, false, none⟩ = true → ∀ key,
        presentKey (some defaultManagementKey) = some key →
        commandsOf (ensureAuthenticated ⟨false, false, none⟩ (some "123456")
          (some defaultManagementKey) true none false (.accepting ⟨false, false, none⟩ "")
          []).events = [.authenticate key]) :=
  ⟨rfl, ensureAuthenticated_requirePinAndKey_accepted ⟨false, false, none⟩ (some "123456")
    (some defaultManagementKey) none false (.accepting ⟨false, false, none⟩ "") [] rfl⟩

/-- A PIN-stored key and an explicit management key: `_ensure_authenticated` returns with
`require_pin_and_key` set although no PIN was submitted at all. -/
theorem ensureAuthenticated_explicit_key_skips_pin :
    let stored : PivmanData := ⟨false, true, none⟩
    let run := ensureAuthenticated stored (some "123456") (some defaultManagementKey) true none
      false (.accepting stored "") []
    run.result = .ok false ∧ commandsOf run.events = [.authenticate defaultManagementKey] :=
  ⟨rfl, rfl⟩

/-- A run of `_ensure_authenticated` that reports the PIN as verified ends with a call the
token accepted: a PIN submission for a PIN-protected record, but the management-key
authentication for any other record. -/
theorem ensureAuthenticated_pinVerified_lastCall (pivman : PivmanData) (pin : Option String)
    (managementKey : Option Bytes) (requirePinAndKey : Bool) (mgmKeyPrompt : Option String)
    (noPrompt : Bool) (env : Env) (history : List Event)
    (returned : (ensureAuthenticated pivman pin managementKey requirePinAndKey mgmKeyPrompt
      noPrompt env history).result = .ok true) :
    ∃ command data holds, lastCall (ensureAuthenticated pivman pin managementKey requirePinAndKey
        mgmKeyPrompt noPrompt env history).events = some (.call command (.returned data holds)) ∧
      if pivman.hasProtectedKey then ∃ code, command = .verifyPin code
      else ∃ key, command = .authenticate key := by
  unfold ensureAuthenticated at returned ⊢
  cases isProtected : pivman.hasProtectedKey
  · cases requirePinAndKey <;>
      simp only [isProtected, Bool.false_eq_true, ↓reduceIte, bind_assoc, pure_bind] at returned ⊢
    · obtain ⟨_, -, valueReturned, -⟩ := bind_result_ok env history returned
      cases valueReturned
    obtain ⟨_, -, restReturned, events⟩ := bind_result_ok env history returned
    obtain ⟨_, keyReturned, -, restEvents⟩ := bind_result_ok env _ restReturned
    obtain ⟨key, data, holds, ends⟩ := authenticate_ends_with_key keyReturned
    rw [events, restEvents, run_pure, List.append_nil]
    exact ⟨_, data, holds, lastCall_append_of_eq_some ends, key, rfl⟩
  · cases given : (presentKey managementKey).isNone
    · simp only [isProtected, given, Bool.false_eq_true, ↓reduceIte] at returned
      obtain ⟨_, -, valueReturned, -⟩ := bind_result_ok env history returned
      cases valueReturned
    · simp only [isProtected, given, ↓reduceIte] at returned ⊢
      obtain ⟨code, data, holds, ends⟩ := verifyPin_ends_with_pin returned
      exact ⟨_, data, holds, ends, code, rfl⟩

/-- An unprotected record with `require_pin_and_key`, the PIN and the default key given and
every call accepted: the PIN is reported verified, and the run ends with the key. -/
theorem ensureAuthenticated_pinVerified_lastCall_unprotected :
    (ensureAuthenticated ⟨false, false, none⟩ (some "123456") (some defaultManagementKey) true
        none false (.accepting ⟨false, false, none⟩ "") []).result = .ok true ∧
      ∃ command data holds, lastCall (ensureAuthenticated ⟨false, false, none⟩ (some "123456")
          (some defaultManagementKey) true none false (.accepting ⟨false, false, none⟩ "")
          []).events = some (.call command (.returned data holds)) ∧
        if PivmanData.hasProtectedKey ⟨false, false, none⟩ then ∃ code, command = .verifyPin code
        else ∃ key, command = .authenticate key :=
  ⟨rfl, ensureAuthenticated_pinVerified_lastCall ⟨false, false, none⟩ (some "123456")
    (some defaultManagementKey) true none false (.accepting ⟨false, false, none⟩ "") [] rfl⟩

end Ykman.Piv
