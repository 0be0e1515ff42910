import Ykman.Piv.Force

/-!
The checks the PIV commands make on what they are given before it reaches the token.

A management key given as an option passes `click_parse_management_key`, which takes only
the empty key and keys of 24 bytes. A key typed at `_prompt_management_key` or at the new-key
prompt of `change-management-key` is only decoded: it reaches `authenticate` or
`pivman_set_mgm_key` whatever its length.

`change-pin` and `change-puk` submit their two codes only after `_valid_pin_length`, which
counts characters (Python's `len`), not the bytes the session transmits.
-/

namespace Ykman.Piv

open Cli

/-! ### Management keys -/

/-- `click_parse_management_key` accepts a decoded key exactly when it is empty or 24 bytes
long. -/
private theorem clickParseManagementKey_ok_iff {val : String} {key : Bytes}
    (parsed : bytesFromhex val = some key) :
    clickParseManagementKey val = .ok key ↔ key = [] ∨ key.length = 24 := by
  unfold clickParseManagementKey
  rw [parsed]
  cases key with
  | nil => simp
  | cons byte rest => by_cases full : (byte :: rest).length = 24 <;> simp [full]

/-- The key typed at `_prompt_management_key` goes to `authenticate` as it decodes. -/
private theorem authenticate_prompted_key (mgmKeyPrompt : Option String) (env : Env)
    (history : List Event) {answer : String} {key : Bytes}
    (answered : env.user.answer history
      (mgmKeyPrompt.getD "Enter a management key [blank to use default key]") = answer)
    (parsed : bytesFromhex answer = some key) (nonEmpty : answer ≠ "") :
    commandsOf (authenticate none mgmKeyPrompt false env history).events = [.authenticate key] := by
  unfold authenticate promptManagementKey
  cases mgmKeyPrompt <;>
  · simp only [Option.getD_none, Option.getD_some] at answered
    simp only [presentKey_none, Bool.false_eq_true, ↓reduceIte, bind_assoc,
      run_clickPrompt_bind, answered, beq_iff_eq, nonEmpty, parsed, pure_bind]
    exact authenticateKey_commands key env _

/-- The new key typed at the prompt of `change-management-key` is the value passed on to
`pivman_set_mgm_key`, as it decodes. -/
private theorem newManagementKeyValue_prompted_key (env : Env) (history : List Event) {answer : String}
    {key : Bytes} (answered : env.user.answer history "Enter the new management key" = answer)
    (parsed : bytesFromhex answer = some key) (nonEmpty : answer ≠ "") :
    (newManagementKeyValue none false false false env history).result = .ok (.bytes key) := by
  simp only [newManagementKeyValue, NewKey.ofOption, NewKey.isTrue, Bool.not_false, Bool.and_self,
    ↓reduceIte, Bool.false_eq_true]
  rw [run_bind]
  simp only [Functor.map, Cli.bind, run_clickPrompt, answered, Function.comp_apply, Cli.pure,
    bne_iff_ne, ne_eq, nonEmpty, not_false_eq_true, ↓reduceIte, parsed]
  rfl

/-- The length check of the key options is missing on both prompts: the option parser takes
only the empty and the 24-byte keys, while a key of any length typed at the current-key
prompt is sent to `authenticate`, and one typed at the new-key prompt is the key
`change-management-key` passes to `pivman_set_mgm_key`. -/
theorem promptedKeys_skip_length_check {answer : String} {key : Bytes}
    (parsed : bytesFromhex answer = some key) (nonEmpty : answer ≠ "") :
    (clickParseManagementKey answer = .ok key ↔ key = [] ∨ key.length = 24) ∧
    (∀ mgmKeyPrompt env history, env.user.answer history
        (mgmKeyPrompt.getD "Enter a management key [blank to use default key]") = answer →
      commandsOf (authenticate none mgmKeyPrompt false env history).events =
        [.authenticate key]) ∧
    (∀ env history, env.user.answer history "Enter the new management key" = answer →
      (newManagementKeyValue none false false false env history).result = .ok (.bytes key)) :=
  ⟨clickParseManagementKey_ok_iff parsed,
    fun mgmKeyPrompt env history answered =>
      authenticate_prompted_key mgmKeyPrompt env history answered parsed nonEmpty,
    fun env history answered => newManagementKeyValue_prompted_key env history answered parsed nonEmpty⟩

/-- An 8-byte key: the option parser refuses it, both prompts pass it on. -/
theorem promptedKeys_skip_length_check_short :
    clickParseManagementKey "0102030405060708" = .error "0102030405060708" ∧
    bytesFromhex "0102030405060708" = some [1, 2, 3, 4, 5, 6, 7, 8] ∧
    ((clickParseManagementKey "0102030405060708" = .ok [1, 2, 3, 4, 5, 6, 7, 8] ↔
        ([1, 2, 3, 4, 5, 6, 7, 8] : Bytes) = [] ∨ ([1, 2, 3, 4, 5, 6, 7, 8] : Bytes).length = 24) ∧
      (∀ mgmKeyPrompt env history, env.user.answer history
          (mgmKeyPrompt.getD "Enter a management key [blank to use default key]") =
            "0102030405060708" →
        commandsOf (authenticate none mgmKeyPrompt false env history).events =
          [.authenticate [1, 2, 3, 4, 5, 6, 7, 8]]) ∧
      (∀ env history, env.user.answer history "Enter the new management key" =
          "0102030405060708" →
        (newManagementKeyValue none false false false env history).result =
          .ok (.bytes [1, 2, 3, 4, 5, 6, 7, 8]))) :=
  ⟨rfl, rfl, @promptedKeys_skip_length_check "0102030405060708" [1, 2, 3, 4, 5, 6, 7, 8] rfl
    (by decide)⟩

/-! ### Actions that send only some calls -/

/-- Every call a run of `action` makes is one that `allowed` admits. -/
def SendsOnly {α : Type} (allowed : Command → Prop) (action : Cli α) : Prop :=
  ∀ env history, ∀ command ∈ commandsOf (action env history).events, allowed command

section SendsOnly

variable {α β : Type} {allowed : Command → Prop}

theorem SendsOnly.mono {wider : Command → Prop} {action : Cli α} (sends : SendsOnly allowed action)
    (widen : ∀ command, allowed command → wider command) : SendsOnly wider action :=
  fun env history command sent => widen command (sends env history command sent)

theorem sendsOnly_of_noCall {action : Cli α}
    (noCall : ∀ env history, commandsOf (action env history).events = []) :
    SendsOnly allowed action := by
  intro env history command sent
  rw [noCall] at sent
  cases sent

theorem SendsOnly.bind {action : Cli α} {next : α → Cli β} (first : SendsOnly allowed action)
    (rest : ∀ value, SendsOnly allowed (next value)) : SendsOnly allowed (action >>= next) := by
  intro env history command sent
  have firstSends := first env history
  rw [run_bind] at sent
  generalize action env history = outcome at sent firstSends
  rcases outcome with ⟨_ | value, events⟩
  · exact firstSends command sent
  · simp only [commandsOf_append, List.mem_append] at sent
    exact sent.elim (firstSends command) (rest value env _ command)

theorem SendsOnly.tryCatch {body : Cli α} {handler : Failure → Cli α}
    (bodySends : SendsOnly allowed body) (handlerSends : ∀ failure, SendsOnly allowed (handler failure)) :
    SendsOnly allowed (MonadExcept.tryCatch body handler) := by
  intro env history command sent
  have bodyOnly := bodySends env history
  rw [run_tryCatch] at sent
  generalize body env history = outcome at sent bodyOnly
  rcases outcome with ⟨failure | _, events⟩
  · simp only [commandsOf_append, List.mem_append] at sent
    exact sent.elim (bodyOnly command) (handlerSends failure env _ command)
  · exact bodyOnly command sent

theorem sendsOnly_send {command : Command} (permitted : allowed command) :
    SendsOnly allowed (send command) := by
  intro env history sent member
  rw [run_send] at member
  generalize env.device.reply history command = reply at member
  cases reply <;>
  · rw [List.mem_singleton.mp member]
    exact permitted

theorem sendsOnly_givenOr (value : Option String) (text : String) :
    SendsOnly allowed (givenOr value (clickPrompt text)) :=
  sendsOnly_of_noCall fun _ _ => by
    unfold givenOr
    cases presentText value <;> rfl

/-- Code after `if condition: ctx.fail(...)` only runs when the condition is false. -/
theorem SendsOnly.failIf {condition : Bool} {message : String} {rest : Unit → Cli α}
    (passed : condition = false → SendsOnly allowed (rest ())) :
    SendsOnly allowed (failIf condition message >>= rest) := by
  cases condition
  · simpa only [failIf_false, pure_bind] using passed rfl
  · simp only [failIf_true, ctxFail_bind]
    exact sendsOnly_of_noCall fun _ _ => rfl

end SendsOnly

/-! ### The PIN and PUK checks of `change-pin` and `change-puk` -/

/-- Opening the session selects the application and reads the PIVMAN data, nothing else. -/
theorem piv_sendsOnly : SendsOnly (fun command => command = .select ∨ command = .getPivmanData) piv :=
  SendsOnly.tryCatch
    ((sendsOnly_send (.inl rfl)).bind fun _ => (sendsOnly_send (.inr rfl)).bind fun _ =>
      sendsOnly_of_noCall fun _ _ => rfl)
    fun _ => sendsOnly_of_noCall fun _ _ => by split <;> (try split) <;> rfl

/-- A session that opened made both of its calls. -/
private theorem piv_opened_commands {env : Env} {history : List Event} {pivman : PivmanData}
    {events : List Event} (opened : piv env history = ⟨.ok pivman, events⟩) :
    commandsOf events = [.select, .getPivmanData] := by
  have returned : (piv env history).result = .ok pivman := by rw [opened]
  unfold piv at opened returned
  rw [tryCatch_eq_body_of_ok env history (fun _ _ _ => by
    split
    · split <;> exact ⟨_, rfl⟩
    · exact ⟨_, rfl⟩) returned, run_send_bind] at opened
  split at opened
  · rw [run_send_bind] at opened
    split at opened
    · cases opened
      rfl
    · cases opened
  · cases opened

/-- The code that `change-pin` or `change-puk` holds for an option in a run with `events`: the
option's text when it is given and not empty, otherwise an answer typed at `prompt`. -/
def Obtained (value : Option String) (prompt : String) (events : List Event) (code : String) :
    Prop :=
  presentText value = some code ∨ presentText value = none ∧ Event.prompt prompt code ∈ events

/-- A code given or typed at its prompt is obtained without a call, and stays obtained in any
run around it. -/
private theorem givenOr_clickPrompt_obtained (value : Option String) (text : String) (env : Env)
    (history : List Event) :
    ∃ code events, givenOr value (clickPrompt text) env history = ⟨.ok code, events⟩ ∧
      commandsOf events = [] ∧ ∀ before after, Obtained value text (before ++ events ++ after) code := by
  unfold givenOr
  cases given : presentText value with
  | some code => exact ⟨code, [], rfl, rfl, fun _ _ => .inl given⟩
  | none => exact ⟨_, _, rfl, rfl, fun _ _ => .inr ⟨given, by simp⟩⟩

/-- A `try` that sends `command` makes that one call when nothing after it, and no
handler, makes one. -/
private theorem commandsOf_tryCatch_send {α : Type} (command : Command) (rest : Unit → Cli α)
    (handler : Failure → Cli α) (restQuiet : ∀ env history, commandsOf (rest () env history).events = [])
    (handlerQuiet : ∀ failure env history, commandsOf (handler failure env history).events = [])
    (env : Env) (history : List Event) :
    commandsOf ((MonadExcept.tryCatch (send command >>= rest) handler : Cli α) env history).events =
      [command] := by
  rw [run_tryCatch, run_send_bind]
  cases env.device.reply history command with
  | returned data holds =>
      have quiet := restQuiet env (history ++ [.call command (.returned data holds)])
      dsimp only
      generalize rest () env _ = tail at quiet ⊢
      rcases tail with ⟨_ | _, _⟩ <;> simp [commandsOf, quiet, handlerQuiet]
  | raised error => simp [commandsOf, handlerQuiet]

/-- `change-pin` and `change-puk` submit exactly the two codes they were given or
typed, and only once both passed `_valid_pin_length`, which counts characters: a code that
fails it ends the run with its own length error, after the session calls alone. -/
theorem changeCode_checks_code_lengths (change : CodeChange) (current new : Option String)
    (env : Env) (history : List Event) :
    let run := changeCode change current new env history
    (∃ failure, (piv env history).result = .error failure ∧ run.result = .error failure ∧
      ∀ command ∈ commandsOf run.events, command = .select ∨ command = .getPivmanData) ∨
    ∃ code newCode, Obtained current change.currentPrompt run.events code ∧
      Obtained new change.newPrompt run.events newCode ∧
      (validPinLength code = false →
        run.result = .error (.usage change.currentLengthError) ∧
        commandsOf run.events = [.select, .getPivmanData]) ∧
      (validPinLength code = true → validPinLength newCode = false →
        run.result = .error (.usage change.newLengthError) ∧
        commandsOf run.events = [.select, .getPivmanData]) ∧
      (validPinLength code = true → validPinLength newCode = true →
        commandsOf run.events = [.select, .getPivmanData, change.operation code newCode]) := by
  have sessionOnly := piv_sendsOnly env history
  dsimp only
  unfold changeCode promptPin
  rw [run_bind]
  rcases opened : piv env history with ⟨failure | _, events⟩
  · rw [opened] at sessionOnly
    exact .inl ⟨failure, rfl, rfl, sessionOnly⟩
  have session := piv_opened_commands opened
  obtain ⟨code, codeEvents, codeRan, codeQuiet, codeObtained⟩ :=
    givenOr_clickPrompt_obtained current change.currentPrompt env (history ++ events)
  obtain ⟨newCode, newEvents, newRan, newQuiet, newObtained⟩ :=
    givenOr_clickPrompt_obtained new change.newPrompt env (history ++ events ++ codeEvents)
  dsimp only
  rw [run_bind_of_ok _ _ codeRan, run_bind_of_ok _ _ newRan]
  refine .inr ⟨code, newCode, ?_, ?_, fun codeValid => ?_, fun codeValid newCodeValid => ?_,
    fun codeValid newCodeValid => ?_⟩
  · simpa only [List.append_assoc] using codeObtained events _
  · simpa only [List.append_assoc] using newObtained (events ++ codeEvents) _
  · simp [codeValid, session, codeQuiet, newQuiet]
  · simp [codeValid, newCodeValid, session, codeQuiet, newQuiet]
  · simp only [codeValid, newCodeValid, Bool.not_true, failIf_false, pure_bind, commandsOf_append,
      session, codeQuiet, newQuiet, List.nil_append]
    rw [commandsOf_tryCatch_send]
    · rfl
    · exact fun _ _ => rfl
    · intro _ _ _
      split <;> (try split) <;> rfl

/-- A new PIN of seven characters and fourteen UTF-8 bytes passes the check and is
submitted. -/
theorem changePin_submits_fourteen_byte_pin :
    validPinLength "ééééééé" = true ∧ (utf8Encode "ééééééé").length = 14 ∧
    commandsOf (changePin (some "123456") (some "ééééééé")
        (.accepting ⟨false, false, none⟩ "") []).events =
      [.select, .getPivmanData, .changePin "123456" "ééééééé"] :=
  ⟨rfl, rfl, rfl⟩

end Ykman.Piv
