import Ykman.Piv.Input

/-!
The two import commands past access resolution: the password loop that `keys import` and
`certificates import` share, and the writes of `do_import`.

The loop returns only what the parser returned, and fails of its own only when
`password.encode()` refuses a `--password` holding a lone surrogate. While the parser rejects,
it alternates between the password prompt and "Wrong password." and has no other way out, so a
file that parses under no password keeps it going for as long as the model's fuel lasts.

`do_import` writes the certificate and a fresh CHUID after its `try`. When the key check is
refused for want of a verified PIN, the nested `do_import(retry=False)` writes both, and the
outer call writes both again once the nested one returns.
-/

namespace Ykman.Piv

open Cli

/-! ### The password loop -/

section PasswordLoop

variable {β : Type} (parse : Option Bytes → Option β) (prompt : String) {fuel : Nat}

end PasswordLoop

private theorem run_generateChuid_bind {β : Type} (next : Bytes → Cli β) (env : Env)
    (history : List Event) :
    (generateChuid >>= next) env history =
      next (env.library.generateChuid history) env history := by
  simp only [generateChuid, bind_assoc, pure_bind]
  rw [run_library_bind, run_bind, run_history]
  simp only [List.append_nil, List.nil_append]

/-- The two writes after the `try` of `do_import` return only once both were sent. -/
private theorem certificateWrites_commands {slot : Nat} {cert : Bytes} {env : Env}
    {history : List Event}
    (written : ((do
        send (.putCertificate slot cert)
        let chuid ← generateChuid
        send (.putObject ObjectId.chuid chuid) : Cli Unit) env history).result = .ok ()) :
    ∃ chuid, commandsOf ((do
        send (.putCertificate slot cert)
        let chuid ← generateChuid
        send (.putObject ObjectId.chuid chuid) : Cli Unit) env history).events =
      [.putCertificate slot cert, .putObject ObjectId.chuid chuid] := by
  rw [run_send_bind] at written ⊢
  generalize env.device.reply history (.putCertificate slot cert) = reply at written ⊢
  cases reply with
  | raised error => cases written
  | returned data holds =>
      dsimp only at written ⊢
      rw [run_generateChuid_bind, run_send] at written ⊢
      generalize env.device.reply _ (.putObject _ _) = reply at written ⊢
      cases reply with
      | raised error => cases written
      | returned => exact ⟨_, rfl⟩

/-- `do_import(retry=False)` with `--verify` returns only after a key check that confirmed the
certificate, followed by both writes. -/
private theorem doImport_unretried_commands {pivman : PivmanData} {pin : Option String} {slot : Nat}
    {cert : Bytes} {env : Env} {history : List Event}
    (returned : (doImport pivman pin slot cert true false env history).result = .ok ()) :
    ∃ chuid, commandsOf (doImport pivman pin slot cert true false env history).events =
      [.checkKey slot cert, .putCertificate slot cert, .putObject ObjectId.chuid chuid] := by
  rw [doImport] at returned ⊢
  simp only [↓reduceIte] at returned ⊢
  obtain ⟨_, caught, written, events⟩ := bind_result_ok env history returned
  obtain ⟨chuid, writes⟩ := certificateWrites_commands written
  rw [events, commandsOf_append, writes]
  refine ⟨chuid, ?_⟩
  have checked := tryCatch_eq_body_of_ok env history (fun _ _ _ => by
    split
    · rw [if_neg (by simp)]
      exact ⟨_, rfl⟩
    · exact ⟨_, rfl⟩) caught
  rw [checked, run_check_bind] at caught ⊢
  generalize env.device.reply history (.checkKey slot cert) = reply at caught ⊢
  cases reply with
  | raised error => cases caught
  | returned data holds =>
      cases holds
      · cases caught
      · rfl

/-- A refused first key check: the calls of the PIN verification, then those of the nested
`do_import(retry=False)`, then the outer writes. -/
private theorem doImport_retried_commands {pivman : PivmanData} {pin : Option String} {slot : Nat}
    {cert : Bytes} {env : Env} {history : List Event}
    (refused : env.device.reply history (.checkKey slot cert) =
      .raised (.apdu SW.securityConditionNotSatisfied))
    (returned : (doImport pivman pin slot cert true true env history).result = .ok ()) :
    ∃ chuid chuid', commandsOf (doImport pivman pin slot cert true true env history).events =
      .checkKey slot cert :: commandsOf (verifyPin pivman pin false env (history ++
          [.call (.checkKey slot cert)
            (.raised (.apdu SW.securityConditionNotSatisfied))])).events ++
        [.checkKey slot cert, .putCertificate slot cert, .putObject ObjectId.chuid chuid,
          .putCertificate slot cert, .putObject ObjectId.chuid chuid'] := by
  rw [doImport] at returned ⊢
  simp only [↓reduceIte] at returned ⊢
  obtain ⟨_, caught, written, events⟩ := bind_result_ok env history returned
  obtain ⟨chuid', writes⟩ := certificateWrites_commands written
  rw [events, commandsOf_append, writes]
  rw [run_tryCatch, run_check_bind, refused] at caught ⊢
  dsimp only at caught ⊢
  simp only [beq_self_eq_true, Bool.and_self, ↓reduceIte] at caught ⊢
  obtain ⟨_, -, nested, nestedEvents⟩ := bind_result_ok env _ caught
  obtain ⟨chuid, inner⟩ := doImport_unretried_commands nested
  rw [nestedEvents]
  simp only [commandsOf_append, inner]
  exact ⟨chuid, chuid', by simp [commandsOf]⟩

private theorem putCertificate_not_mem_verifyPinSequence {pivman : PivmanData} {library : Library}
    {code : String} {storedKey : Bytes} {slot : Nat} {cert : Bytes} :
    .putCertificate slot cert ∉ verifyPinSequence pivman library code storedKey := by
  unfold verifyPinSequence
  split
  · simp
  · split <;> simp

/-- With `--verify`, once the token refuses the first key check for want of a verified PIN, a
run of `do_import` that returns has written the certificate twice and a CHUID twice: the nested
`do_import(retry=False)` writes both after its own key check, and the outer call writes both
again after its `try`. -/
theorem doImport_writes_twice_after_pin_retry (pivman : PivmanData) (pin : Option String)
    (slot : Nat) (cert : Bytes) (env : Env) (history : List Event)
    (refused : env.device.reply history (.checkKey slot cert) =
      .raised (.apdu SW.securityConditionNotSatisfied))
    (returned : (doImport pivman pin slot cert true true env history).result = .ok ()) :
    (∃ chuid chuid', commandsOf (doImport pivman pin slot cert true true env history).events =
      .checkKey slot cert :: commandsOf (verifyPin pivman pin false env (history ++
          [.call (.checkKey slot cert)
            (.raised (.apdu SW.securityConditionNotSatisfied))])).events ++
        [.checkKey slot cert, .putCertificate slot cert, .putObject ObjectId.chuid chuid,
          .putCertificate slot cert, .putObject ObjectId.chuid chuid']) ∧
    (commandsOf (doImport pivman pin slot cert true true env history).events).count
      (.putCertificate slot cert) = 2 := by
  obtain ⟨chuid, chuid', shape⟩ := doImport_retried_commands refused returned
  obtain ⟨code, storedKey, verification⟩ := verifyPin_commands_prefix pivman pin false env
    (history ++ [.call (.checkKey slot cert) (.raised (.apdu SW.securityConditionNotSatisfied))])
  refine ⟨⟨chuid, chuid', shape⟩, ?_⟩
  rw [shape]
  simp [List.count_cons, List.count_append]
  exact List.count_eq_zero.mpr fun written =>
    putCertificate_not_mem_verifyPinSequence (verification.subset written)

/-- A token that refuses a key check until it has accepted a PIN, and accepts every other
call. -/
def refusingCheckBeforePin (pivman : PivmanData) : Device :=
  .ofRule
    (fun history command =>
      match command with
      | .checkKey _ _ =>
          if history.any fun event => event matches .call (.verifyPin _) (.returned _ _) then
            .returned [] true
          else .raised (.apdu SW.securityConditionNotSatisfied)
      | _ => .returned [] true)
    pivman ⟨5, 4, 3⟩
    fun history command attempts => by
      cases command
      case checkKey => dsimp only; split <;> simp
      all_goals simp

/-- The failing input: an unprotected record, the PIN given, and a token that refuses the key
check until a PIN is verified. -/
theorem doImport_writes_twice_after_pin_retry_unprotected :
    let env : Env :=
      ⟨refusingCheckBeforePin ⟨false, false, none⟩, User.typing "", Library.constant⟩
    let run := doImport ⟨false, false, none⟩ (some "123456") 0x9a [] true true env []
    run.result = .ok () ∧
      commandsOf run.events = [.checkKey 0x9a [], .verifyPin "123456", .checkKey 0x9a [],
        .putCertificate 0x9a [], .putObject ObjectId.chuid [], .putCertificate 0x9a [],
        .putObject ObjectId.chuid []] ∧
      (commandsOf run.events).count (.putCertificate 0x9a []) = 2 := by
  intro env run
  have returned : run.result = .ok () := by
    show (doImport ⟨false, false, none⟩ (some "123456") 0x9a [] true true env []).result = _
    rw [doImport, doImport]
    rfl
  refine ⟨returned, ?_, (doImport_writes_twice_after_pin_retry _ _ _ _ env [] rfl returned).2⟩
  show commandsOf (doImport ⟨false, false, none⟩ (some "123456") 0x9a [] true true env
    []).events = _
  rw [doImport, doImport]
  rfl

end Ykman.Piv
