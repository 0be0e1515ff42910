import Ykman.Piv.Commands
import Ykman.Piv.Resolver

/-!
What the CLI does once the token has rejected a PIN or a PUK (`InvalidPinError`): every
command sends no further call and fails. The failure is the report of the command that
submitted the code (`_verify_pin`, `change-pin`, `change-puk`), which says how many tries are
left or that the code is blocked; only `unblock-pin` lets the exception itself escape.

`Stops ends action` says this of every run of `action`, with `ends attempts` the failures
allowed after a rejection that reported `attempts` tries left. It is closed under `bind`,
and under `tryCatch` when the handler turns an allowed failure into another one without a
call, so each command inherits it from its parts. Nothing here bounds the number of
rejections by hand: at most one follows from no call after the first.
-/

namespace Ykman.Piv

open Cli

/-! ### The first rejection of a run -/

/-- The tries left that the first rejection in `events` reported, and the events after it. -/
def firstRejection : List Event → Option (Nat × List Event)
  | [] => none
  | event :: rest =>
      match event.rejectedAttempts with
      | some attempts => some (attempts, rest)
      | none => firstRejection rest

private theorem firstRejection_append (first rest : List Event) :
    firstRejection (first ++ rest) =
      match firstRejection first with
      | some (attempts, later) => some (attempts, later ++ rest)
      | none => firstRejection rest := by
  induction first with
  | nil => rfl
  | cons event first ih =>
      simp only [List.cons_append, firstRejection]
      cases event.rejectedAttempts with
      | none => exact ih
      | some attempts => rfl

theorem mem_commandsOf_of_mem {command : Command} {reply : Reply} {events : List Event}
    (member : Event.call command reply ∈ events) : command ∈ commandsOf events := by
  induction events with
  | nil => cases member
  | cons event rest ih =>
      rcases List.mem_cons.mp member with rfl | inRest
      · exact List.mem_cons_self _ _
      · cases event <;> simp only [commandsOf, List.mem_cons, ih inRest, or_true]

private theorem firstRejection_of_commandsOf_eq_nil {events : List Event}
    (noCall : commandsOf events = []) : firstRejection events = none := by
  induction events with
  | nil => rfl
  | cons event rest ih =>
      cases event with
      | call command reply => cases noCall
      | prompt | confirm | echo | write => exact ih noCall

private theorem filter_isRejection_of_commandsOf_eq_nil {events : List Event}
    (noCall : commandsOf events = []) : events.filter Event.isRejection = [] := by
  induction events with
  | nil => rfl
  | cons event rest ih =>
      cases event with
      | call command reply => cases noCall
      | prompt | confirm | echo | write => exact ih noCall

/-- A rejection in a run is its first one, or comes after the first one. -/
private theorem firstRejection_of_mem (pre post : List Event) (command : Command) (attempts : Nat) :
    ∃ found later,
      firstRejection (pre ++ .call command (.raised (.invalidPin attempts)) :: post) =
        some (found, later) ∧
      (found = attempts ∧ later = post ∨ .call command (.raised (.invalidPin attempts)) ∈ later) := by
  induction pre with
  | nil => exact ⟨attempts, post, rfl, .inl ⟨rfl, rfl⟩⟩
  | cons event pre ih =>
      simp only [List.cons_append, firstRejection]
      cases event.rejectedAttempts with
      | none => exact ih
      | some found => exact ⟨found, _, rfl, .inr (List.mem_append_right _ (List.mem_cons_self _ _))⟩

/-- A run with no call after its first rejection has at most one rejection. -/
private theorem rejections_length_le_one {events : List Event}
    (stopped : ∀ attempts later, firstRejection events = some (attempts, later) →
      commandsOf later = []) :
    (events.filter Event.isRejection).length ≤ 1 := by
  induction events with
  | nil => exact Nat.zero_le _
  | cons event rest ih =>
      have rejected : event.isRejection = event.rejectedAttempts.isSome := rfl
      revert stopped
      simp only [firstRejection, List.filter_cons, rejected]
      cases event.rejectedAttempts with
      | none => exact ih
      | some attempts =>
          intro stopped
          simp [filter_isRejection_of_commandsOf_eq_nil (stopped attempts rest rfl)]

/-! ### Actions that stop at a rejection -/

/-- What a run must do after a rejection that reported `attempts` tries left: send no further
call, and fail with a failure `ends attempts` allows. -/
def EndsAfter {α : Type} (ends : Nat → Failure → Prop) (attempts : Nat)
    (result : Except Failure α) (later : List Event) : Prop :=
  commandsOf later = [] ∧ ∃ failure, result = .error failure ∧ ends attempts failure

/-- Every run of `action` ends at its first rejection as `ends` allows. -/
def Stops {α : Type} (ends : Nat → Failure → Prop) (action : Cli α) : Prop :=
  ∀ env history attempts later,
    firstRejection (action env history).events = some (attempts, later) →
      EndsAfter ends attempts (action env history).result later

/-- An action that never meets a rejection. -/
def NeverRejected {α : Type} (action : Cli α) : Prop :=
  Stops (fun _ _ => False) action

section Closure

variable {α β : Type} {ends ends' : Nat → Failure → Prop}

theorem Stops.mono {action : Cli α} (stops : Stops ends action)
    (weaker : ∀ attempts failure, ends attempts failure → ends' attempts failure) :
    Stops ends' action := fun env history attempts later found =>
  let ⟨noCall, failure, failed, allowed⟩ := stops env history attempts later found
  ⟨noCall, failure, failed, weaker _ _ allowed⟩

private theorem NeverRejected.stops {action : Cli α} (never : NeverRejected action) : Stops ends action :=
  Stops.mono never fun _ _ => False.elim

/-- An action that sends no call never meets a rejection. -/
private theorem neverRejected_of_noCall {action : Cli α}
    (noCall : ∀ env history, commandsOf (action env history).events = []) :
    NeverRejected action := by
  intro env history attempts later found
  rw [firstRejection_of_commandsOf_eq_nil (noCall env history)] at found
  cases found

private theorem neverRejected_pure (value : α) : NeverRejected (pure value : Cli α) :=
  neverRejected_of_noCall fun _ _ => rfl

private theorem neverRejected_throw (failure : Failure) : NeverRejected (throw failure : Cli α) :=
  neverRejected_of_noCall fun _ _ => rfl

private theorem neverRejected_ctxFail (message : String) : NeverRejected (ctxFail message : Cli α) :=
  neverRejected_of_noCall fun _ _ => rfl

private theorem neverRejected_clickPrompt (text : String) : NeverRejected (clickPrompt text) :=
  neverRejected_of_noCall fun _ _ => rfl

private theorem neverRejected_clickConfirm (text : String) : NeverRejected (clickConfirm text) :=
  neverRejected_of_noCall fun _ _ => rfl

private theorem neverRejected_echo (message : String) : NeverRejected (echo message) :=
  neverRejected_of_noCall fun _ _ => rfl

private theorem neverRejected_write (data : Bytes) : NeverRejected (write data) :=
  neverRejected_of_noCall fun _ _ => rfl

private theorem neverRejected_library : NeverRejected library :=
  neverRejected_of_noCall fun _ _ => rfl

private theorem neverRejected_version : NeverRejected version :=
  neverRejected_of_noCall fun _ _ => rfl

private theorem neverRejected_pivmanData : NeverRejected pivmanData :=
  neverRejected_of_noCall fun _ _ => rfl

private theorem neverRejected_history : NeverRejected Cli.history :=
  neverRejected_of_noCall fun _ _ => rfl

/-- A call stops at a rejection with the raw `InvalidPinError`, which only a PIN or PUK
submission can meet. -/
private theorem stops_invoke {command : Command}
    (raw : command.submitsCode = false ∨ ∀ attempts, ends attempts (.device (.invalidPin attempts))) :
    Stops ends (invoke command) := by
  intro env history attempts later found
  rw [run_invoke] at found ⊢
  cases reply : env.device.reply history command with
  | returned data holds => rw [reply] at found; cases found
  | raised error =>
      rw [reply] at found
      cases error with
      | invalidPin reported =>
          obtain ⟨rfl, rfl⟩ := Prod.mk.inj (Option.some.inj found)
          refine ⟨rfl, _, rfl, ?_⟩
          rcases raw with notCode | raw
          · have isCode := env.device.onlyCodesRejected history command reported reply
            rw [notCode] at isCode
            cases isCode
          · exact raw reported
      | apdu | notSupported | other => cases found

theorem Stops.bind {action : Cli α} {next : α → Cli β} (first : Stops ends action)
    (rest : ∀ value, Stops ends (next value)) : Stops ends (action >>= next) := by
  intro env history attempts later found
  have firstStops := first env history
  rw [run_bind] at found ⊢
  generalize action env history = outcome at firstStops found ⊢
  rcases outcome with ⟨failure | value, events⟩ <;> dsimp only at firstStops found ⊢
  · obtain ⟨noCall, _, failed, allowed⟩ := firstStops attempts later found
    cases failed
    exact ⟨noCall, _, rfl, allowed⟩
  · rw [firstRejection_append] at found
    rcases rejected : firstRejection events with _ | ⟨attempts, post⟩ <;> rw [rejected] at found
    · exact rest value env _ attempts later found
    · obtain ⟨-, failure, failed, -⟩ := firstStops _ _ rejected
      cases failed

/-- A `try` stops at a rejection when its handler turns every failure allowed after one into
a failure `ends'` allows, without a call. -/
theorem Stops.tryCatch {body : Cli α} {handler : Failure → Cli α} (bodyStops : Stops ends body)
    (handles : ∀ attempts failure env history, ends attempts failure →
      EndsAfter ends' attempts (handler failure env history).result
        (handler failure env history).events)
    (handlerStops : ∀ failure, Stops ends' (handler failure)) :
    Stops ends' (tryCatch body handler) := by
  intro env history attempts later found
  have bodyStops := bodyStops env history
  rw [run_tryCatch] at found ⊢
  generalize body env history = outcome at bodyStops found ⊢
  rcases outcome with ⟨failure | value, events⟩ <;> dsimp only at bodyStops found ⊢
  · rw [firstRejection_append] at found
    rcases rejected : firstRejection events with _ | ⟨attempts, post⟩ <;> rw [rejected] at found
    · exact handlerStops failure env _ attempts later found
    · obtain ⟨noCall, _, failed, allowed⟩ := bodyStops _ _ rejected
      cases failed
      obtain ⟨rfl, rfl⟩ := Prod.mk.inj (Option.some.inj found)
      obtain ⟨handlerNoCall, handled⟩ := handles _ _ env _ allowed
      exact ⟨by rw [commandsOf_append, noCall, handlerNoCall]; rfl, handled⟩
  · obtain ⟨-, failure, failed, -⟩ := bodyStops attempts later found
    cases failed

/-- A `try` whose body never meets a rejection stops as its handler does. -/
theorem NeverRejected.tryCatch {body : Cli α} {handler : Failure → Cli α}
    (bodyNever : NeverRejected body) (handlerStops : ∀ failure, Stops ends (handler failure)) :
    Stops ends (Cli.tryCatch body handler) :=
  Stops.tryCatch bodyNever (fun _ _ _ _ impossible => impossible.elim) handlerStops

theorem Stops.ite {condition : Prop} [Decidable condition] {yes no : Cli α}
    (yesStops : Stops ends yes) (noStops : Stops ends no) :
    Stops ends (if condition then yes else no) := by
  split
  · exact yesStops
  · exact noStops

private theorem stops_send {command : Command}
    (raw : command.submitsCode = false ∨ ∀ attempts, ends attempts (.device (.invalidPin attempts))) :
    Stops ends (send command) :=
  (stops_invoke raw).bind fun _ => (neverRejected_pure _).stops

private theorem stops_fetch {command : Command}
    (raw : command.submitsCode = false ∨ ∀ attempts, ends attempts (.device (.invalidPin attempts))) :
    Stops ends (fetch command) :=
  (stops_invoke raw).bind fun _ => (neverRejected_pure _).stops

private theorem stops_check {command : Command}
    (raw : command.submitsCode = false ∨ ∀ attempts, ends attempts (.device (.invalidPin attempts))) :
    Stops ends (check command) :=
  (stops_invoke raw).bind fun _ => (neverRejected_pure _).stops

private theorem neverRejected_givenOr {prompt : Cli String} (never : NeverRejected prompt)
    (value : Option String) : NeverRejected (givenOr value prompt) := by
  unfold givenOr
  split
  · exact neverRejected_pure _
  · exact never

private theorem neverRejected_failIf (condition : Bool) (message : String) :
    NeverRejected (failIf condition message) :=
  Stops.ite (neverRejected_ctxFail _) (neverRejected_pure _)

end Closure

/-! ### Reports of a rejection -/

/-- The usage error by which a command reports a code the token rejected with `attempts` tries
left: that the code is blocked when none is left, otherwise how many are. -/
def rejectionReport (triesLeft : Nat → String) (blocked : String) (attempts : Nat) : Failure :=
  .usage (if attempts = 0 then blocked else triesLeft attempts)

def pinVerificationReport (attempts : Nat) : Failure :=
  rejectionReport (fun attempts => s!"PIN verification failed, {attempts} tries left.")
    "PIN is blocked." attempts

/-- The `InvalidPinError` of the rejected call itself, escaping. -/
def RaisesRejection (attempts : Nat) (failure : Failure) : Prop :=
  failure = .device (.invalidPin attempts)

/-- What `_verify_pin` fails with after a rejection. -/
def ReportsPinVerification (attempts : Nat) (failure : Failure) : Prop :=
  failure = pinVerificationReport attempts

/-- The reports of a rejected code that the commands give: `_verify_pin`'s, `change-pin`'s
and `change-puk`'s. -/
def ReportsRejection (attempts : Nat) (failure : Failure) : Prop :=
  failure = pinVerificationReport attempts ∨
  failure = rejectionReport (fun attempts => s!"PIN change failed - {attempts} tries left.")
    "PIN is blocked." attempts ∨
  failure = rejectionReport (fun attempts => s!"PUK change failed - {attempts} tries left.")
    "PUK is blocked." attempts

/-! ### The access resolver -/

/-- The handler of `_verify_pin` reports a rejection with `pinVerificationReport`. -/
private theorem verifyPinFailed_invalidPin (attempts : Nat) :
    verifyPinFailed (.device (.invalidPin attempts)) = throw (pinVerificationReport attempts) := by
  unfold verifyPinFailed pinVerificationReport rejectionReport
  rcases Nat.eq_zero_or_pos attempts with rfl | positive
  · rfl
  · simp only [positive, ↓reduceIte, Nat.pos_iff_ne_zero.mp positive]
    rfl

private theorem verifyPinAttempt_stops (pivman : PivmanData) (code : String) :
    Stops (fun attempts failure => failure = .device (.invalidPin attempts))
      (verifyPinAttempt pivman code) := by
  have pinSent : Stops (fun attempts failure => failure = .device (.invalidPin attempts))
      (send (.verifyPin code)) := stops_send (.inr fun _ => rfl)
  unfold verifyPinAttempt
  refine pinSent.bind fun _ => ?_
  split
  · exact Stops.bind neverRejected_library.stops fun _ =>
      Stops.bind (stops_send (.inl rfl)) fun _ => pinSent.bind fun _ => (neverRejected_pure _).stops
  · split
    · exact Stops.bind (stops_fetch (.inl rfl)) fun _ =>
        Stops.bind (stops_send (.inl rfl)) fun _ => pinSent.bind fun _ => (neverRejected_pure _).stops
    · exact Stops.bind (neverRejected_pure _).stops fun _ => (neverRejected_pure _).stops

/-- Once it has its PIN, `_verify_pin` turns a rejection into its report. -/
private theorem verification_stops (pivman : PivmanData) (code : String) :
    Stops ReportsPinVerification
      (tryCatch (verifyPinAttempt pivman code) verifyPinFailed : Cli Bool) := by
  refine (verifyPinAttempt_stops pivman code).tryCatch ?_ fun failure =>
    NeverRejected.stops (neverRejected_of_noCall fun env history => ?_)
  · rintro attempts _ env history rfl
    rw [verifyPinFailed_invalidPin]
    exact ⟨rfl, _, rfl, rfl⟩
  · obtain ⟨_, ran⟩ := verifyPinFailed_run env history failure
    rw [ran]
    rfl

private theorem verifyPin_stops (pivman : PivmanData) (pin : Option String) (noPrompt : Bool) :
    Stops ReportsPinVerification
      (verifyPin pivman pin noPrompt) := by
  unfold verifyPin
  dsimp only
  split
  · exact Stops.bind (neverRejected_pure _).stops (verification_stops pivman)
  · split
    · exact Stops.bind (neverRejected_ctxFail _).stops (verification_stops pivman)
    · exact Stops.bind (neverRejected_clickPrompt _).stops (verification_stops pivman)

private theorem promptManagementKey_neverRejected (prompt : String) :
    NeverRejected (promptManagementKey prompt) := by
  unfold promptManagementKey
  refine Stops.bind (neverRejected_clickPrompt _) fun _ => ?_
  dsimp only
  split
  · exact neverRejected_pure _
  · refine Stops.bind (neverRejected_pure _) fun _ => ?_
    split
    · exact neverRejected_pure _
    · exact neverRejected_ctxFail _

private theorem authenticate_neverRejected (managementKey : Option Bytes) (mgmKeyPrompt : Option String)
    (noPrompt : Bool) : NeverRejected (authenticate managementKey mgmKeyPrompt noPrompt) := by
  have keySent : ∀ key, NeverRejected (tryCatch (send (.authenticate key))
      fun _ => ctxFail "Authentication with management key failed." : Cli Unit) :=
    fun _ => NeverRejected.tryCatch (stops_send (.inl rfl)) fun _ => neverRejected_ctxFail _
  unfold authenticate
  dsimp only
  split
  · exact Stops.bind (neverRejected_pure _) keySent
  · split
    · exact Stops.bind (neverRejected_ctxFail _) keySent
    · split <;> exact Stops.bind (promptManagementKey_neverRejected _) keySent

private theorem ensureAuthenticated_stops (pivman : PivmanData) (pin : Option String)
    (managementKey : Option Bytes) (requirePinAndKey : Bool) (mgmKeyPrompt : Option String)
    (noPrompt : Bool) :
    Stops ReportsPinVerification
      (ensureAuthenticated pivman pin managementKey requirePinAndKey mgmKeyPrompt noPrompt) := by
  have keyed : Stops ReportsPinVerification (authenticate managementKey mgmKeyPrompt noPrompt) :=
    (authenticate_neverRejected managementKey mgmKeyPrompt noPrompt).stops
  unfold ensureAuthenticated
  split
  · split
    · exact verifyPin_stops pivman pin noPrompt
    · exact keyed.bind fun _ => (neverRejected_pure _).stops
  · dsimp only
    split
    · exact (verifyPin_stops pivman pin noPrompt).bind fun _ =>
        keyed.bind fun _ => (neverRejected_pure _).stops
    · exact Stops.bind (neverRejected_pure _).stops fun _ =>
        keyed.bind fun _ => (neverRejected_pure _).stops

/-! ### The commands -/

private theorem piv_neverRejected : NeverRejected piv :=
  NeverRejected.tryCatch
    (Stops.bind (stops_send (.inl rfl)) fun _ =>
      Stops.bind (stops_send (.inl rfl)) fun _ => neverRejected_pivmanData)
    fun _ => neverRejected_of_noCall fun _ _ => by split <;> (try split) <;> rfl

private theorem info_neverRejected : NeverRejected info :=
  Stops.bind piv_neverRejected fun _ =>
    Stops.bind (stops_fetch (.inl rfl)) fun _ => neverRejected_write _

private theorem reset_neverRejected : NeverRejected reset :=
  Stops.bind (neverRejected_echo _) fun _ => Stops.bind piv_neverRejected fun _ =>
    Stops.bind (stops_send (.inl rfl)) fun _ => neverRejected_of_noCall fun _ _ => rfl

private theorem setPinRetries_stops (managementKey : Option Bytes) (pin : Option String)
    (pinRetries pukRetries : Nat) (force : Bool) :
    Stops ReportsPinVerification (setPinRetries managementKey pin pinRetries pukRetries force) :=
  Stops.bind piv_neverRejected.stops fun pivman =>
    Stops.bind (ensureAuthenticated_stops pivman pin managementKey true none force) fun _ =>
      Stops.bind (neverRejected_echo _).stops fun _ =>
        Stops.bind (neverRejected_of_noCall fun _ _ => by split <;> rfl).stops fun _ =>
          NeverRejected.tryCatch
            (Stops.bind (stops_send (.inl rfl)) fun _ => neverRejected_of_noCall fun _ _ => rfl)
            fun _ => (neverRejected_ctxFail _).stops

/-- `change-pin` and `change-puk` turn a rejection of their call into their own report. -/
private theorem changeCode_stops (change : CodeChange) (current new : Option String) :
    Stops (fun attempts failure => failure = rejectionReport change.triesLeft change.blocked attempts)
      (changeCode change current new) := by
  refine Stops.bind piv_neverRejected.stops fun _ =>
    Stops.bind (neverRejected_givenOr (neverRejected_clickPrompt _) _).stops fun _ =>
    Stops.bind (neverRejected_givenOr (neverRejected_clickPrompt _) _).stops fun _ =>
    Stops.bind (neverRejected_failIf _ _).stops fun _ =>
    Stops.bind (neverRejected_failIf _ _).stops fun _ => ?_
  refine Stops.tryCatch (Stops.bind (stops_send (.inr fun _ => rfl)) fun _ =>
    (neverRejected_echo _).stops : Stops RaisesRejection _) ?_ fun failure => ?_
  · rintro attempts _ env history rfl
    by_cases blocked : attempts = 0 <;> simp [EndsAfter, rejectionReport, blocked]
  · split
    · exact Stops.ite (neverRejected_ctxFail _).stops (neverRejected_ctxFail _).stops
    · exact (neverRejected_throw _).stops

private theorem unblockPin_stops (puk newPin : Option String) :
    Stops RaisesRejection (unblockPin puk newPin) :=
  Stops.bind piv_neverRejected.stops fun _ =>
    Stops.bind (neverRejected_givenOr (neverRejected_clickPrompt _) _).stops fun _ =>
    Stops.bind (neverRejected_givenOr (neverRejected_clickPrompt _) _).stops fun _ =>
      stops_send (.inr fun _ => rfl)

private theorem failIfNotSupported_neverRejected {α : Type} {body : Cli α} (never : NeverRejected body) :
    NeverRejected (failIfNotSupported body) :=
  NeverRejected.tryCatch never fun failure => by
    split
    · exact neverRejected_ctxFail _
    · exact neverRejected_throw _

private theorem generateKey_stops (slot : Nat) (managementKey : Option Bytes) (pin : Option String)
    (algorithm : Nat) (pinPolicy touchPolicy : Option Nat) :
    Stops ReportsPinVerification
      (generateKey slot managementKey pin algorithm pinPolicy touchPolicy) :=
  Stops.bind piv_neverRejected.stops fun pivman =>
    Stops.bind (ensureAuthenticated_stops pivman pin managementKey false none false) fun _ =>
      Stops.bind (NeverRejected.stops (failIfNotSupported_neverRejected (stops_fetch (.inl rfl))))
        fun _ =>
        (neverRejected_write _).stops

private theorem passwordLoop_neverRejected {β : Type} (parse : Option Bytes → Option β) (prompt : String) :
    ∀ fuel password, NeverRejected (passwordLoop parse prompt fuel password)
  | 0, _ => neverRejected_throw _
  | fuel + 1, none => by
      simp only [passwordLoop, pure_bind]
      split
      · exact neverRejected_pure _
      · exact Stops.bind (neverRejected_clickPrompt _) fun answer =>
          passwordLoop_neverRejected parse prompt fuel (some (.ofString answer))
  | fuel + 1, some text => by
      simp only [passwordLoop]
      split
      · simp only [pure_bind]
        split
        · exact neverRejected_pure _
        · exact Stops.bind (neverRejected_echo _) fun _ =>
            passwordLoop_neverRejected parse prompt fuel none
      · simp only [throw_bind]
        exact neverRejected_throw _

private theorem importKey_stops (managementKey : Option Bytes) (pin : Option String) (slot : Nat)
    (privateKey : Bytes) (pinPolicy touchPolicy : Option Nat) (password : Option PyText)
    (fuel : Nat) :
    Stops ReportsPinVerification
      (importKey managementKey pin slot privateKey pinPolicy touchPolicy password fuel) :=
  Stops.bind piv_neverRejected.stops fun pivman =>
    Stops.bind (ensureAuthenticated_stops pivman pin managementKey false none false) fun _ =>
      Stops.bind neverRejected_library.stops fun _ =>
        Stops.bind (passwordLoop_neverRejected _ _ fuel password).stops fun _ =>
          NeverRejected.stops (failIfNotSupported_neverRejected (stops_send (.inl rfl)))

private theorem attest_neverRejected (slot : Nat) : NeverRejected (attest slot) :=
  Stops.bind piv_neverRejected fun _ =>
    Stops.bind (NeverRejected.tryCatch (stops_fetch (.inl rfl)) fun failure => by
      split
      · exact neverRejected_ctxFail _
      · exact neverRejected_throw _) fun _ => neverRejected_write _

private theorem firstItem_neverRejected (items : List Bytes) : NeverRejected (firstItem items) := by
  cases items
  · exact neverRejected_throw _
  · exact neverRejected_pure _

private theorem generateChuid_neverRejected : NeverRejected generateChuid :=
  neverRejected_of_noCall fun _ _ => rfl

private theorem generateCcc_neverRejected : NeverRejected generateCcc :=
  neverRejected_of_noCall fun _ _ => rfl

/-- The retry of `do_import` verifies the PIN and imports once more without a retry. -/
private theorem doImport_stops (pivman : PivmanData) (pin : Option String) (slot : Nat)
    (certToImport : Bytes) (verify : Bool) :
    ∀ retry, Stops ReportsPinVerification (doImport pivman pin slot certToImport verify retry) := by
  have step : ∀ retry, (retry = true →
      Stops ReportsPinVerification (doImport pivman pin slot certToImport verify false)) →
      Stops ReportsPinVerification (doImport pivman pin slot certToImport verify retry) := by
    intro retry again
    rw [doImport]
    refine Stops.bind (Stops.ite ?_ (neverRejected_pure _).stops) fun _ =>
      Stops.bind (stops_send (.inl rfl)) fun _ =>
      Stops.bind generateChuid_neverRejected.stops fun _ => stops_send (.inl rfl)
    refine NeverRejected.tryCatch (Stops.bind (stops_check (.inl rfl)) fun _ =>
      Stops.ite (Stops.bind neverRejected_library fun _ => neverRejected_ctxFail _)
        (neverRejected_pure _)) fun failure => ?_
    split
    · split
      · rename_i retried
        exact (verifyPin_stops pivman pin false).bind fun _ =>
          again (Bool.and_eq_true _ _ ▸ retried).2
      · exact (neverRejected_throw _).stops
    · exact (neverRejected_throw _).stops
  intro retry
  exact step retry fun _ => step false nofun

private theorem importCertificate_stops (managementKey : Option Bytes) (pin : Option String) (slot : Nat)
    (cert : Bytes) (password : Option PyText) (verify : Bool) (fuel : Nat) :
    Stops ReportsPinVerification
      (importCertificate managementKey pin slot cert password verify fuel) :=
  Stops.bind piv_neverRejected.stops fun pivman =>
    Stops.bind (ensureAuthenticated_stops pivman pin managementKey false none false) fun _ =>
      Stops.bind neverRejected_library.stops fun _ =>
        Stops.bind (passwordLoop_neverRejected _ _ fuel password).stops fun _ =>
          Stops.bind (Stops.ite (firstItem_neverRejected _).stops (firstItem_neverRejected _).stops)
            fun _ => doImport_stops pivman pin slot _ verify true

private theorem exportCertificate_neverRejected (slot : Nat) : NeverRejected (exportCertificate slot) := by
  refine Stops.bind piv_neverRejected fun _ => Stops.bind ?_ fun cert => ?_
  · refine NeverRejected.tryCatch (Stops.bind (stops_fetch (.inl rfl)) fun _ =>
      neverRejected_pure _) fun failure => ?_
    split
    · exact Stops.ite (neverRejected_ctxFail _) (neverRejected_pure _)
    · exact neverRejected_throw _
  · split
    · exact neverRejected_write _
    · exact neverRejected_throw _

private theorem loadPemPublicKey_neverRejected (data : Bytes) : NeverRejected (loadPemPublicKey data) :=
  Stops.bind neverRejected_library fun library => by
    split
    · exact neverRejected_pure _
    · exact neverRejected_throw _

private theorem generateCertificate_stops (managementKey : Option Bytes) (pin : Option String)
    (slot : Nat) (publicKey : Bytes) (subject : String) (validDays : Int) :
    Stops ReportsPinVerification
      (generateCertificate managementKey pin slot publicKey subject validDays) :=
  Stops.bind piv_neverRejected.stops fun pivman =>
    Stops.bind (ensureAuthenticated_stops pivman pin managementKey true none false) fun _ =>
      Stops.bind (loadPemPublicKey_neverRejected _).stops fun _ =>
      Stops.bind neverRejected_library.stops fun _ => Stops.bind neverRejected_history.stops fun _ =>
      Stops.bind (NeverRejected.stops (Stops.ite (neverRejected_pure _) (neverRejected_throw _)))
        fun _ =>
        NeverRejected.tryCatch
          (Stops.bind (stops_fetch (.inl rfl)) fun _ => Stops.bind (stops_send (.inl rfl)) fun _ =>
            Stops.bind generateChuid_neverRejected fun _ => stops_send (.inl rfl))
          fun failure => by
            split
            · exact (neverRejected_ctxFail _).stops
            · exact (neverRejected_throw _).stops

private theorem generateCertificateSigningRequest_stops (pin : Option String) (slot : Nat)
    (publicKey : Bytes) (subject : String) :
    Stops ReportsPinVerification
      (generateCertificateSigningRequest pin slot publicKey subject) :=
  Stops.bind piv_neverRejected.stops fun pivman =>
    Stops.bind (verifyPin_stops pivman pin false) fun _ =>
      Stops.bind (loadPemPublicKey_neverRejected _).stops fun _ =>
        Stops.bind (NeverRejected.stops (NeverRejected.tryCatch (stops_fetch (.inl rfl))
          fun failure => by
            split
            · exact neverRejected_ctxFail _
            · exact neverRejected_throw _)) fun _ => (neverRejected_write _).stops

private theorem deleteCertificate_stops (managementKey : Option Bytes) (pin : Option String)
    (slot : Nat) : Stops ReportsPinVerification (deleteCertificate managementKey pin slot) :=
  Stops.bind piv_neverRejected.stops fun pivman =>
    Stops.bind (ensureAuthenticated_stops pivman pin managementKey false none false) fun _ =>
      Stops.bind (stops_send (.inl rfl)) fun _ =>
        Stops.bind generateChuid_neverRejected.stops fun _ => stops_send (.inl rfl)

/-- Every read of `do_read_object`, the ones after a verified PIN included, stops at a
rejection of the PIN. -/
private theorem doReadObject_stops (pivman : PivmanData) (pin : Option String) (objectId : Nat) :
    ∀ fuel retry, Stops ReportsPinVerification (doReadObject pivman pin objectId fuel retry)
  | 0, _ => (neverRejected_throw _).stops
  | fuel + 1, _ => by
      simp only [doReadObject]
      refine NeverRejected.tryCatch (Stops.bind (stops_fetch (.inl rfl)) fun _ =>
        neverRejected_write _) fun failure => ?_
      split
      · split
        · exact (neverRejected_ctxFail _).stops
        · split
          · exact (verifyPin_stops pivman pin false).bind fun _ =>
              doReadObject_stops pivman pin objectId fuel false
          · exact (neverRejected_throw _).stops
      · exact (neverRejected_throw _).stops

private theorem readObject_stops (pin : Option String) (objectId fuel : Nat) :
    Stops ReportsPinVerification (readObject pin objectId fuel) :=
  Stops.bind piv_neverRejected.stops fun pivman => doReadObject_stops pivman pin objectId fuel true

private theorem writeObject_stops (pin : Option String) (managementKey : Option Bytes) (objectId : Nat)
    (data : Bytes) : Stops ReportsPinVerification (writeObject pin managementKey objectId data) :=
  Stops.bind piv_neverRejected.stops fun pivman =>
    Stops.bind (ensureAuthenticated_stops pivman pin managementKey false none false) fun _ =>
      NeverRejected.tryCatch (stops_send (.inl rfl)) fun failure => by
        split
        · exact Stops.ite (neverRejected_ctxFail _).stops (neverRejected_throw _).stops
        · exact (neverRejected_throw _).stops

private theorem generateObject_stops (pin : Option String) (managementKey : Option Bytes)
    (objectId : Nat) : Stops ReportsPinVerification (generateObject pin managementKey objectId) :=
  Stops.bind piv_neverRejected.stops fun pivman =>
    Stops.bind (ensureAuthenticated_stops pivman pin managementKey false none false) fun _ =>
      Stops.ite (Stops.bind generateChuid_neverRejected.stops fun _ => stops_send (.inl rfl))
        (Stops.ite (Stops.bind generateCcc_neverRejected.stops fun _ => stops_send (.inl rfl))
          (neverRejected_ctxFail _).stops)

private theorem parseManagementKeyOption_neverRejected (name : String) (value : Option String) :
    NeverRejected (parseManagementKeyOption name value) := by
  unfold parseManagementKeyOption clickCallback
  split
  · exact neverRejected_pure _
  · split
    · exact neverRejected_pure _
    · exact neverRejected_throw _

private theorem clickIntRange_neverRejected (name : String) (value : Int) :
    NeverRejected (clickIntRange name value) :=
  Stops.ite (neverRejected_pure _) (neverRejected_throw _)

private theorem checkKeyOptions_neverRejected (newManagementKey : Option Bytes) (touch generate : Bool) :
    NeverRejected (checkKeyOptions newManagementKey touch generate) :=
  Stops.bind (neverRejected_failIf _ _) fun _ =>
    Stops.bind neverRejected_version fun _ => neverRejected_failIf _ _

private theorem verifyPinForStoredKey_stops (pivman : PivmanData) (pin : Option String)
    (pinVerified force : Bool) :
    Stops ReportsPinVerification (verifyPinForStoredKey pivman pin pinVerified force) := by
  refine Stops.ite ?_ (neverRejected_pure _).stops
  split
  · exact (verifyPin_stops pivman pin force).bind fun _ => (neverRejected_pure _).stops
  · exact Stops.ite (neverRejected_clickConfirm _).stops (neverRejected_pure _).stops

private theorem newManagementKeyValue_neverRejected (newManagementKey : Option Bytes)
    (protect generate force : Bool) :
    NeverRejected (newManagementKeyValue newManagementKey protect generate force) := by
  refine Stops.bind ?_ fun newKey => ?_
  · refine Stops.ite (Stops.ite ?_ (Stops.ite (neverRejected_ctxFail _)
      (Stops.bind (neverRejected_clickPrompt _) fun _ => neverRejected_pure _)))
      (neverRejected_pure _)
    exact Stops.bind (neverRejected_of_noCall fun _ _ => rfl) fun _ =>
      Stops.bind (Stops.ite (neverRejected_echo _) (neverRejected_pure _)) fun _ =>
        neverRejected_pure _
  · split
    · refine Stops.ite ?_ (neverRejected_pure _)
      split
      · exact neverRejected_pure _
      · exact neverRejected_ctxFail _
    · exact neverRejected_pure _

private theorem changeManagementKey_stops (managementKey : Option Bytes) (pin : Option String)
    (newManagementKey : Option Bytes) (touch protect generate force : Bool) :
    Stops ReportsPinVerification
      (changeManagementKey managementKey pin newManagementKey touch protect generate force) :=
  Stops.bind piv_neverRejected.stops fun pivman =>
    Stops.bind (ensureAuthenticated_stops pivman pin managementKey protect _ force) fun verified =>
      Stops.bind (checkKeyOptions_neverRejected _ _ _).stops fun _ =>
        Stops.bind (verifyPinForStoredKey_stops pivman pin verified force) fun _ =>
          Stops.bind (newManagementKeyValue_neverRejected _ _ _ _).stops fun _ =>
            NeverRejected.tryCatch (stops_send (.inl rfl)) fun failure => by
              split
              · exact (neverRejected_ctxFail _).stops
              · exact (neverRejected_throw _).stops

/-! ### Every command -/

def Invocation.isUnblockPin : Invocation → Bool
  | .unblockPin _ _ => true
  | _ => false

/-- Every command stops at a rejection with one of the commands' reports; only in
`unblock-pin` the `InvalidPinError` escapes instead. -/
private theorem runPiv_stops (fuel : Nat) (invocation : Invocation) :
    Stops (fun attempts failure => ReportsRejection attempts failure ∨
      invocation.isUnblockPin = true ∧ RaisesRejection attempts failure)
      (runPiv fuel invocation) := by
  have verified : ∀ attempts failure, ReportsPinVerification attempts failure →
      ReportsRejection attempts failure ∨
        invocation.isUnblockPin = true ∧ RaisesRejection attempts failure :=
    fun _ _ reported => .inl (.inl reported)
  have keyOption : ∀ name value, Stops (fun attempts failure => ReportsRejection attempts failure ∨
      invocation.isUnblockPin = true ∧ RaisesRejection attempts failure)
      (parseManagementKeyOption name value) :=
    fun name value => (parseManagementKeyOption_neverRejected name value).stops
  cases invocation with
  | info => exact info_neverRejected.stops
  | reset force =>
      exact Stops.bind (Stops.ite (neverRejected_clickConfirm _).stops (neverRejected_pure _).stops)
        fun _ => reset_neverRejected.stops
  | setRetries pinRetries pukRetries managementKey pin force =>
      exact Stops.bind (clickIntRange_neverRejected _ _).stops fun _ =>
        Stops.bind (clickIntRange_neverRejected _ _).stops fun _ =>
          Stops.bind (keyOption _ _) fun _ => (setPinRetries_stops _ _ _ _ _).mono verified
  | changePin pin newPin =>
      exact (changeCode_stops _ pin newPin).mono fun _ _ reported => .inl (.inr (.inl reported))
  | changePuk puk newPuk =>
      exact (changeCode_stops _ puk newPuk).mono fun _ _ reported => .inl (.inr (.inr reported))
  | changeManagementKey pin touch newManagementKey managementKey protect generate force =>
      exact Stops.bind (keyOption _ _) fun _ => Stops.bind (keyOption _ _) fun _ =>
        (changeManagementKey_stops _ _ _ _ _ _ _).mono verified
  | unblockPin puk newPin =>
      exact (unblockPin_stops puk newPin).mono fun _ _ raised => .inr ⟨rfl, raised⟩
  | generateKey managementKey pin algorithm pinPolicy touchPolicy slot =>
      exact Stops.bind (keyOption _ _) fun _ => (generateKey_stops _ _ _ _ _ _).mono verified
  | importKey pin managementKey pinPolicy touchPolicy slot privateKey password =>
      exact Stops.bind (keyOption _ _) fun _ => (importKey_stops _ _ _ _ _ _ _ _).mono verified
  | attest slot => exact (attest_neverRejected slot).stops
  | importCertificate managementKey pin password verify slot cert =>
      exact Stops.bind (keyOption _ _) fun _ =>
        (importCertificate_stops _ _ _ _ _ _ _).mono verified
  | exportCertificate slot => exact (exportCertificate_neverRejected slot).stops
  | generateCertificate managementKey pin slot publicKey subject validDays =>
      exact Stops.bind (keyOption _ _) fun _ =>
        (generateCertificate_stops _ _ _ _ _ _).mono verified
  | requestCertificate pin slot publicKey subject =>
      exact (generateCertificateSigningRequest_stops _ _ _ _).mono verified
  | deleteCertificate managementKey pin slot =>
      exact Stops.bind (keyOption _ _) fun _ => (deleteCertificate_stops _ _ _).mono verified
  | exportObject pin objectId => exact (readObject_stops _ _ _).mono verified
  | importObject pin managementKey objectId data =>
      exact Stops.bind (keyOption _ _) fun _ => (writeObject_stops _ _ _ _).mono verified
  | generateObject pin managementKey objectId =>
      exact Stops.bind (keyOption _ _) fun _ => (generateObject_stops _ _ _).mono verified

/-- Once the token rejects a PIN or PUK submission, a command sends no further call and
fails, with the command's report of the rejection or the `InvalidPinError` itself; so a run
holds at most one rejection. -/
theorem runPiv_stops_at_rejection (fuel : Nat) (invocation : Invocation) (env : Env)
    (history : List Event) :
    (∀ pre command attempts post,
      (runPiv fuel invocation env history).events =
          pre ++ .call command (.raised (.invalidPin attempts)) :: post →
        commandsOf post = [] ∧ ∃ failure, (runPiv fuel invocation env history).result = .error failure ∧
          (ReportsRejection attempts failure ∨ RaisesRejection attempts failure)) ∧
    ((runPiv fuel invocation env history).events.filter Event.isRejection).length ≤ 1 := by
  have stops := runPiv_stops fuel invocation env history
  refine ⟨fun pre command attempts post split => ?_,
    rejections_length_le_one fun attempts later found => (stops attempts later found).1⟩
  obtain ⟨found, later, first, same | after⟩ := firstRejection_of_mem pre post command attempts
  · rw [← split] at first
    obtain ⟨rfl, rfl⟩ := same
    obtain ⟨noCall, failure, failed, allowed⟩ := stops found later first
    exact ⟨noCall, failure, failed, allowed.imp id And.right⟩
  · rw [← split] at first
    exact absurd (stops found later first).1 (List.ne_nil_of_mem (mem_commandsOf_of_mem after))

/-! ### The reports of `_verify_pin` -/

/-- A token that refuses every object read for want of a verified PIN, and accepts every other
call. -/
def refusingObjects (pivman : PivmanData) : Device :=
  .ofRule
    (fun _ command =>
      match command with
      | .getObject _ => .raised (.apdu SW.securityConditionNotSatisfied)
      | _ => .returned [] true)
    pivman ⟨5, 4, 3⟩ fun _ command _ rejected => by cases command <;> cases rejected

/-- Each read the token refuses costs one more PIN verification and one more read. -/
private theorem doReadObject_refused_step (objectId fuel : Nat) (retry : Bool) (history : List Event) :
    ∃ later, doReadObject ⟨false, false, none⟩ (some "123456") objectId (fuel + 1) retry
        ⟨refusingObjects ⟨false, false, none⟩, User.typing "", Library.constant⟩ history =
      ⟨(doReadObject ⟨false, false, none⟩ (some "123456") objectId fuel false
          ⟨refusingObjects ⟨false, false, none⟩, User.typing "", Library.constant⟩ later).result,
        .call (.getObject objectId) (.raised (.apdu SW.securityConditionNotSatisfied)) ::
          .call (.verifyPin "123456") (.returned [] true) ::
            (doReadObject ⟨false, false, none⟩ (some "123456") objectId fuel false
              ⟨refusingObjects ⟨false, false, none⟩, User.typing "", Library.constant⟩
              later).events⟩ :=
  ⟨_, rfl⟩

private theorem doReadObject_refused (objectId fuel : Nat) (retry : Bool) (history : List Event) :
    commandsOf (doReadObject ⟨false, false, none⟩ (some "123456") objectId fuel retry
        ⟨refusingObjects ⟨false, false, none⟩, User.typing "", Library.constant⟩ history).events =
      (List.replicate fuel [.getObject objectId, .verifyPin "123456"]).flatten ∧
    (doReadObject ⟨false, false, none⟩ (some "123456") objectId fuel retry
        ⟨refusingObjects ⟨false, false, none⟩, User.typing "", Library.constant⟩ history).result =
      .error .outOfFuel := by
  induction fuel generalizing retry history with
  | zero => exact ⟨rfl, rfl⟩
  | succ fuel ih =>
      obtain ⟨later, step⟩ := doReadObject_refused_step objectId fuel retry history
      obtain ⟨commands, result⟩ := ih false later
      rw [step]
      exact ⟨by rw [List.replicate_succ, List.flatten_cons, ← commands]; rfl, result⟩

/-- `objects export` against a token that keeps refusing the read: for every recursion budget
it reads the object and verifies the PIN again until the budget is spent. -/
theorem readObject_rereads_refused_object (objectId fuel : Nat) :
    commandsOf (readObject (some "123456") objectId fuel
        ⟨refusingObjects ⟨false, false, none⟩, User.typing "", Library.constant⟩ []).events =
      [.select, .getPivmanData] ++
        (List.replicate fuel [.getObject objectId, .verifyPin "123456"]).flatten ∧
    (readObject (some "123456") objectId fuel
        ⟨refusingObjects ⟨false, false, none⟩, User.typing "", Library.constant⟩ []).result =
      .error .outOfFuel := by
  obtain ⟨commands, result⟩ := doReadObject_refused objectId fuel true
    [.call .select (.returned [] true), .call .getPivmanData (.returned [] true)]
  exact ⟨by rw [← commands]; rfl, result⟩

end Ykman.Piv
