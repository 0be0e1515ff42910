import Ykman.Piv.Basic

/-!
The effect the CLI code runs in. An action reads the environment and the history of the
run and returns its result (or the exception it raised) with the events it produced. The
events are kept when the action fails, which is what a trace law needs: the run's calls up
to the failure stay visible.

Python's `try`/`except` is `tryCatch`; a handler that does not match the exception raises
it again. Each primitive records exactly one event, and `bind` concatenates, so the events
of a composed action are those of its parts in order.
-/

namespace Ykman.Piv

/-- What one run of an action gives: its result, and the events it produced. -/
structure Outcome (α : Type) where
  result : Except Failure α
  events : List Event

def Cli (α : Type) : Type := Env → List Event → Outcome α

namespace Cli

protected def pure (value : α) : Cli α := fun _ _ => ⟨.ok value, []⟩

protected def bind (action : Cli α) (next : α → Cli β) : Cli β := fun env history =>
  match action env history with
  | ⟨.ok value, events⟩ =>
      let rest := next value env (history ++ events)
      ⟨rest.result, events ++ rest.events⟩
  | ⟨.error failure, events⟩ => ⟨.error failure, events⟩

instance : Monad Cli where
  pure := Cli.pure
  bind := Cli.bind

protected def throw (failure : Failure) : Cli α := fun _ _ => ⟨.error failure, []⟩

protected def tryCatch (body : Cli α) (handler : Failure → Cli α) : Cli α :=
  fun env history =>
    match body env history with
    | ⟨.ok value, events⟩ => ⟨.ok value, events⟩
    | ⟨.error failure, events⟩ =>
        let rest := handler failure env (history ++ events)
        ⟨rest.result, events ++ rest.events⟩

instance : MonadExceptOf Failure Cli where
  throw := Cli.throw
  tryCatch := Cli.tryCatch

/-! ### Primitives -/

/-- Send one call to the session. A raised error becomes the action's failure; either way
the call and its reply are recorded. -/
def invoke (command : Command) : Cli (Bytes × Bool) := fun env history =>
  match env.device.reply history command with
  | .returned data holds => ⟨.ok (data, holds), [.call command (.returned data holds)]⟩
  | .raised error => ⟨.error (.device error), [.call command (.raised error)]⟩

def send (command : Command) : Cli Unit := do
  let _ ← invoke command

def fetch (command : Command) : Cli Bytes := do
  let (data, _) ← invoke command
  pure data

def check (command : Command) : Cli Bool := do
  let (_, holds) ← invoke command
  pure holds

/-- `click_prompt`: the text the user typed, unchecked. -/
def clickPrompt (text : String) : Cli String := fun env history =>
  let answer := env.user.answer history text
  ⟨.ok answer, [.prompt text answer]⟩

/-- `click.confirm(..., abort=True)`: a declined confirmation raises `click.Abort`. -/
def clickConfirm (text : String) : Cli Unit := fun env history =>
  let accepted := env.user.confirm history text
  ⟨if accepted then .ok () else .error .abort, [.confirm text accepted]⟩

def echo (message : String) : Cli Unit := fun _ _ => ⟨.ok (), [.echo message]⟩

def write (data : Bytes) : Cli Unit := fun _ _ => ⟨.ok (), [.write data]⟩

def ctxFail (message : String) : Cli α := Cli.throw (.usage message)

def library : Cli Library := fun env _ => ⟨.ok env.library, []⟩

def version : Cli Version := fun env _ => ⟨.ok env.device.version, []⟩

/-- The PIVMAN data object on the token, as `get_pivman_data` parses it. -/
def pivmanData : Cli PivmanData := fun env _ => ⟨.ok env.device.pivmanData, []⟩

def history : Cli (List Event) := fun _ history => ⟨.ok history, []⟩

/-! ### Running composed actions -/

variable {α β : Type} (env : Env) (history : List Event)

@[simp] theorem run_pure (value : α) : (pure value : Cli α) env history = ⟨.ok value, []⟩ :=
  rfl

@[simp] theorem run_throw (failure : Failure) :
    (throw failure : Cli α) env history = ⟨.error failure, []⟩ := rfl

@[simp] theorem run_ctxFail (message : String) :
    (ctxFail message : Cli α) env history = ⟨.error (.usage message), []⟩ := rfl

theorem run_bind (action : Cli α) (next : α → Cli β) :
    (action >>= next) env history =
      match action env history with
      | ⟨.ok value, events⟩ =>
          ⟨(next value env (history ++ events)).result,
            events ++ (next value env (history ++ events)).events⟩
      | ⟨.error failure, events⟩ => ⟨.error failure, events⟩ := rfl

theorem run_tryCatch (body : Cli α) (handler : Failure → Cli α) :
    (tryCatch body handler : Cli α) env history =
      match body env history with
      | ⟨.ok value, events⟩ => ⟨.ok value, events⟩
      | ⟨.error failure, events⟩ =>
          ⟨(handler failure env (history ++ events)).result,
            events ++ (handler failure env (history ++ events)).events⟩ := rfl

theorem run_bind_of_ok {action : Cli α} {value : α} {events : List Event}
    (ran : action env history = ⟨.ok value, events⟩) (next : α → Cli β) :
    (action >>= next) env history =
      ⟨(next value env (history ++ events)).result,
        events ++ (next value env (history ++ events)).events⟩ := by
  rw [run_bind, ran]

@[simp] theorem run_invoke (command : Command) :
    invoke command env history =
      match env.device.reply history command with
      | .returned data holds => ⟨.ok (data, holds), [.call command (.returned data holds)]⟩
      | .raised error => ⟨.error (.device error), [.call command (.raised error)]⟩ := rfl

@[simp] theorem run_clickPrompt (text : String) :
    clickPrompt text env history =
      ⟨.ok (env.user.answer history text), [.prompt text (env.user.answer history text)]⟩ :=
  rfl

@[simp] theorem run_clickConfirm (text : String) :
    clickConfirm text env history =
      ⟨if env.user.confirm history text then .ok () else .error .abort,
        [.confirm text (env.user.confirm history text)]⟩ := rfl

@[simp] theorem run_write (data : Bytes) : write data env history = ⟨.ok (), [.write data]⟩ :=
  rfl

@[simp] theorem run_library : library env history = ⟨.ok env.library, []⟩ := rfl

@[simp] theorem run_version : version env history = ⟨.ok env.device.version, []⟩ := rfl

@[simp] theorem run_pivmanData : pivmanData env history = ⟨.ok env.device.pivmanData, []⟩ :=
  rfl

@[simp] theorem run_history : Cli.history env history = ⟨.ok history, []⟩ := rfl

/-! ### Monad laws and calls followed by more code -/

@[simp] theorem pure_bind (value : α) (next : α → Cli β) : pure value >>= next = next value := by
  funext env history
  simp only [run_bind, run_pure, List.append_nil, List.nil_append]

@[simp] theorem bind_assoc {γ : Type} (action : Cli α) (next : α → Cli β) (last : β → Cli γ) :
    action >>= next >>= last = action >>= fun value => next value >>= last := by
  funext env history
  simp only [run_bind]
  rcases action env history with ⟨_ | value, events⟩
  · rfl
  · rcases ranNext : next value env (history ++ events) with ⟨_ | value, rest⟩ <;>
      simp [ranNext, List.append_assoc]

theorem run_send_bind (command : Command) (next : Unit → Cli β) :
    (send command >>= next) env history =
      match env.device.reply history command with
      | .returned data holds =>
          ⟨(next () env (history ++ [.call command (.returned data holds)])).result,
            .call command (.returned data holds) ::
              (next () env (history ++ [.call command (.returned data holds)])).events⟩
      | .raised error => ⟨.error (.device error), [.call command (.raised error)]⟩ := by
  simp only [send, bind_assoc, run_bind, run_invoke, pure_bind]
  cases env.device.reply history command <;> rfl

theorem run_check_bind (command : Command) (next : Bool → Cli β) :
    (check command >>= next) env history =
      match env.device.reply history command with
      | .returned data holds =>
          ⟨(next holds env (history ++ [.call command (.returned data holds)])).result,
            .call command (.returned data holds) ::
              (next holds env (history ++ [.call command (.returned data holds)])).events⟩
      | .raised error => ⟨.error (.device error), [.call command (.raised error)]⟩ := by
  simp only [check, bind_assoc, run_bind, run_invoke, pure_bind]
  cases env.device.reply history command <;> rfl

theorem run_send (command : Command) :
    send command env history =
      match env.device.reply history command with
      | .returned data holds => ⟨.ok (), [.call command (.returned data holds)]⟩
      | .raised error => ⟨.error (.device error), [.call command (.raised error)]⟩ := by
  simp only [send, run_bind, run_invoke]
  cases env.device.reply history command <;> rfl

theorem run_fetch_bind (command : Command) (next : Bytes → Cli β) :
    (fetch command >>= next) env history =
      match env.device.reply history command with
      | .returned data holds =>
          ⟨(next data env (history ++ [.call command (.returned data holds)])).result,
            .call command (.returned data holds) ::
              (next data env (history ++ [.call command (.returned data holds)])).events⟩
      | .raised error => ⟨.error (.device error), [.call command (.raised error)]⟩ := by
  simp only [fetch, bind_assoc, run_bind, run_invoke, pure_bind]
  cases env.device.reply history command <;> rfl

@[simp] theorem throw_bind (failure : Failure) (next : α → Cli β) :
    (throw failure : Cli α) >>= next = throw failure := rfl

@[simp] theorem ctxFail_bind (message : String) (next : α → Cli β) :
    (ctxFail message : Cli α) >>= next = ctxFail message := rfl

theorem run_clickPrompt_bind (text : String) (next : String → Cli β) :
    (clickPrompt text >>= next) env history =
      ⟨(next (env.user.answer history text) env
          (history ++ [.prompt text (env.user.answer history text)])).result,
        .prompt text (env.user.answer history text) ::
          (next (env.user.answer history text) env
            (history ++ [.prompt text (env.user.answer history text)])).events⟩ := rfl

/-- A composed action returns only when both parts do, and its events are theirs. -/
theorem bind_result_ok {action : Cli α} {next : α → Cli β} {value : β}
    (returned : ((action >>= next) env history).result = .ok value) :
    ∃ first, (action env history).result = .ok first ∧
      (next first env (history ++ (action env history).events)).result = .ok value ∧
      ((action >>= next) env history).events =
        (action env history).events ++
          (next first env (history ++ (action env history).events)).events := by
  rw [run_bind] at returned ⊢
  rcases ran : action env history with ⟨_ | first, events⟩ <;> rw [ran] at returned
  · cases returned
  · exact ⟨first, rfl, returned, rfl⟩

/-- A `try` whose handler always raises returns only as its body ran. -/
theorem tryCatch_eq_body_of_ok {body : Cli α} {handler : Failure → Cli α} {value : α}
    (raises : ∀ failure env history, ∃ raised, (handler failure env history).result = .error raised)
    (returned : ((tryCatch body handler : Cli α) env history).result = .ok value) :
    (tryCatch body handler : Cli α) env history = body env history := by
  rw [run_tryCatch] at returned ⊢
  generalize body env history = outcome at returned ⊢
  rcases outcome with ⟨failure | _, events⟩
  · obtain ⟨raised, handled⟩ := raises failure env (history ++ events)
    rw [handled] at returned
    cases returned
  · rfl

/-- Continuations that agree on the value the first action returns give the same run. -/
theorem run_bind_congr {action : Cli α} {next next' : α → Cli β}
    (agree : ∀ value, (action env history).result = .ok value →
      next value env (history ++ (action env history).events) =
        next' value env (history ++ (action env history).events)) :
    (action >>= next) env history = (action >>= next') env history := by
  rw [run_bind, run_bind]
  generalize action env history = outcome at agree ⊢
  rcases outcome with ⟨_ | value, events⟩
  · rfl
  · dsimp only
    rw [agree value rfl]

@[simp] theorem run_library_bind (next : Library → Cli β) :
    (library >>= next) env history = next env.library env history := by
  simp only [run_bind, run_library, List.append_nil, List.nil_append]

end Cli

end Ykman.Piv
