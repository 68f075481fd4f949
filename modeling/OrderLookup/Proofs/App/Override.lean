import OrderLookup.App.Machine
import OrderLookup.App.Run
import OrderLookup.Service.Peer

/-!
# Options over the environment

With both options given, a command does not depend on what the environment sets, but the environment
still has to be in order: `run_same_iff` says that two environments lead to the same runs just when
the first fault found is the same.
-/

namespace OrderLookup

open Service

namespace Config

def InOrder (env : Environment) : Prop :=
  (∃ url, parseBaseUrl (baseUrlText env) = .ok url) ∧
    ∀ raw, env inUtcVariable = some raw → ∃ b, parseSwitch inUtcVariable raw = .ok b

/-- What is wrong with an environment or else with the base URL that is given as an option. -/
def fault? (env : Environment) (given : String) : Option CommandError :=
  match ofEnvironment env, parseBaseUrl given with
  | .error e, _ => some e
  | .ok _, .error e => some e
  | .ok _, .ok _ => none

def overriding (given : String) : Options :=
  ⟨some given, true⟩

theorem parseBaseUrl_error {raw : String} {e : CommandError} (h : parseBaseUrl raw = .error e) :
    ∃ detail, e = .config detail := by
  unfold parseBaseUrl at h
  split at h
  · exact ⟨_, (Except.error.inj h).symm⟩
  · split at h
    · cases h
    · exact ⟨_, (Except.error.inj h).symm⟩

theorem parseBaseUrl_default : parseBaseUrl defaultBaseUrl =
    .ok ⟨"http".toList, some ⟨[], none, "localhost".toList, some 8081⟩, .rooted [[]], none, none⟩ :=
  rfl

theorem parseSwitch_error {name raw : String} {e : CommandError}
    (h : parseSwitch name raw = .error e) : ∃ detail, e = .config detail := by
  unfold parseSwitch at h
  dsimp only at h
  split at h
  · cases h
  · split at h
    · cases h
    · exact ⟨_, (Except.error.inj h).symm⟩

theorem ofEnvironment_cases (env : Environment) :
    (InOrder env ∧ ∃ config, ofEnvironment env = .ok config) ∨
      (¬InOrder env ∧ ∃ detail, ofEnvironment env = .error (.config detail)) := by
  unfold ofEnvironment InOrder
  cases url : parseBaseUrl (baseUrlText env) with
  | error e =>
    obtain ⟨detail, rfl⟩ := parseBaseUrl_error url
    exact Or.inr ⟨by simp, detail, rfl⟩
  | ok base =>
    cases set : env inUtcVariable with
    | none => exact Or.inl ⟨⟨⟨base, rfl⟩, nofun⟩, _, rfl⟩
    | some raw =>
      cases switch : parseSwitch inUtcVariable raw with
      | error e =>
        obtain ⟨detail, rfl⟩ := parseSwitch_error switch
        refine Or.inr ⟨fun inOrder => ?_, detail, ?_⟩
        · obtain ⟨b, reads⟩ := inOrder.2 raw rfl
          rw [switch] at reads
          cases reads
        · simp only [bind, Except.bind, switch]
      | ok b =>
        refine Or.inl ⟨⟨⟨base, rfl⟩, ?_⟩, ⟨base, b⟩, ?_⟩
        · rintro _ ⟨⟩
          exact ⟨b, switch⟩
        · simp only [bind, Except.bind, switch]
          rfl

theorem fault?_config {env : Environment} {given : String} {e : CommandError}
    (h : fault? env given = some e) : ∃ detail, e = .config detail := by
  unfold fault? at h
  rcases ofEnvironment_cases env with ⟨_, config, read⟩ | ⟨_, detail, failed⟩
  · rw [read] at h
    cases parsed : parseBaseUrl given with
    | ok base => simp [parsed] at h
    | error e' =>
      simp only [parsed, Option.some.injEq] at h
      exact parseBaseUrl_error (h ▸ parsed)
  · rw [failed] at h
    exact ⟨detail, (Option.some.inj h).symm⟩

theorem load_of_fault {env : Environment} {given : String} {e : CommandError}
    (h : fault? env given = some e) : load env (overriding given) = .error e := by
  unfold fault? at h
  unfold load
  cases read : ofEnvironment env with
  | error e' =>
    rw [read] at h
    obtain rfl := Option.some.inj h
    rfl
  | ok config =>
    rw [read] at h
    cases parsed : parseBaseUrl given with
    | ok base => simp [parsed] at h
    | error e' =>
      simp only [parsed, Option.some.injEq] at h
      simp only [override, overriding, parsed, ← h]
      rfl

theorem load_of_no_fault {env : Environment} {given : String} (h : fault? env given = none) :
    ∃ base, parseBaseUrl given = .ok base ∧ load env (overriding given) = .ok ⟨base, true⟩ := by
  unfold fault? at h
  unfold load
  cases read : ofEnvironment env with
  | error e =>
    rw [read] at h
    cases h
  | ok config =>
    rw [read] at h
    cases parsed : parseBaseUrl given with
    | error e => simp [parsed] at h
    | ok base =>
      refine ⟨base, rfl, ?_⟩
      simp only [override, overriding, parsed, Bool.or_true]
      rfl

theorem fault?_of_inOrder {env env' : Environment} (h : InOrder env) (h' : InOrder env')
    (given : String) : fault? env given = fault? env' given := by
  rcases ofEnvironment_cases env with ⟨_, config, read⟩ | ⟨disorder, _⟩
  · rcases ofEnvironment_cases env' with ⟨_, config', read'⟩ | ⟨disorder, _⟩
    · rw [fault?, fault?, read, read']
      cases parseBaseUrl given <;> rfl
    · exact (disorder h').elim
  · exact (disorder h).elim

end Config

namespace Command

open Config

variable {m : Type → Type} [Monad m] {get : Url → m Exchange} {env : Environment} {given : String}

theorem run_of_fault {e : CommandError} (h : fault? env given = some e) (machine : Calendar.Zone)
    (command : Command) : command.run get env machine (overriding given) = pure ⟨"", .error e⟩ := by
  rw [run, load_of_fault h]

/-- Under universal time the zone of the machine does not matter. -/
theorem runWith_inUtc (base : Url) (machine : Calendar.Zone) (command : Command) :
    command.runWith get ⟨base, true⟩ machine = command.runWith get ⟨base, true⟩ .utc := by
  cases command <;> rfl

theorem run_of_no_fault (get : Url → m Exchange) (h : fault? env given = none) :
    ∃ base, parseBaseUrl given = .ok base ∧ ∀ (machine : Calendar.Zone) (command : Command),
      command.run get env machine (overriding given) =
        command.runWith get ⟨base, true⟩ .utc := by
  obtain ⟨base, parsed, loaded⟩ := load_of_no_fault h
  refine ⟨base, parsed, fun machine command => ?_⟩
  rw [run, loaded]
  exact runWith_inUtc base machine command

/-- A search for nothing is refused as such only once the configuration is in order. -/
theorem run_search_nothing (machine : Calendar.Zone) :
    (Command.search "").run get env machine (overriding given) =
      pure ⟨"", .error ((fault? env given).getD (.invalidId .empty))⟩ := by
  cases h : fault? env given with
  | some e => exact run_of_fault h machine _
  | none =>
    obtain ⟨base, _, runs⟩ := run_of_no_fault get h
    rw [runs]
    rfl

/-- With both options given, all runs are the same under two environments, results, output and
requests, just when both are in order or the first fault that is found is the same. -/
theorem run_same_iff (given : String) (env env' : Environment) :
    (∀ (command : Command) (peer : Peer),
      (command.run Peer.get env (machineZone env) (overriding given)).run peer =
        (command.run Peer.get env' (machineZone env') (overriding given)).run peer) ↔
      (InOrder env ∧ InOrder env') ∨ fault? env given = fault? env' given := by
  constructor
  · intro same
    -- A search for nothing shows the fault without any request, or an error that is no fault.
    have refused := same (.search "") ⟨false, [], []⟩
    rw [run_search_nothing, run_search_nothing] at refused
    have results := congrArg (fun outcome => outcome.1.result) refused
    have faults : (fault? env given).getD (.invalidId .empty) =
        (fault? env' given).getD (.invalidId .empty) := Except.error.inj results
    right
    cases h : fault? env given with
    | none =>
      cases h' : fault? env' given with
      | none => rfl
      | some e' =>
        obtain ⟨detail, rfl⟩ := fault?_config h'
        simp [h, h'] at faults
    | some e =>
      cases h' : fault? env' given with
      | none =>
        obtain ⟨detail, rfl⟩ := fault?_config h
        simp [h, h'] at faults
      | some e' => simpa [h, h'] using faults
  · intro agree
    have faults : fault? env given = fault? env' given := by
      rcases agree with ⟨inOrder, inOrder'⟩ | faults
      · exact fault?_of_inOrder inOrder inOrder' given
      · exact faults
    intro command peer
    cases h : fault? env given with
    | some e => rw [run_of_fault h, run_of_fault (faults ▸ h)]
    | none =>
      obtain ⟨base, parsed, runs⟩ := run_of_no_fault Peer.get h
      obtain ⟨base', parsed', runs'⟩ := run_of_no_fault Peer.get (faults ▸ h)
      obtain rfl := Except.ok.inj (parsed.symm.trans parsed')
      rw [runs, runs']

def garbled : Environment := fun name =>
  if name = baseUrlVariable then some "garbage" else none

def healthy : Peer :=
  ⟨true, [.answer ⟨200, [], Json.asciiBytes "\x7b\"status\":\"ok\"\x7d"⟩], []⟩

/-- An option does not save a run from a variable that it overrides. -/
theorem run_overridden_garbage :
    (Command.health.run Peer.get (fun _ => none) (machineZone fun _ => none)
        (overriding defaultBaseUrl)).run healthy =
      (⟨"status: ok\n", .ok true⟩, ⟨true, [], ["GET /health"]⟩) ∧
    (Command.health.run Peer.get garbled (machineZone garbled)
        (overriding defaultBaseUrl)).run healthy =
      (⟨"", .error (.config "invalid base url 'garbage': relative URL without a base")⟩,
        healthy) := by
  have sound : fault? (fun _ => none) defaultBaseUrl = none := rfl
  have fault : fault? garbled defaultBaseUrl =
      some (.config "invalid base url 'garbage': relative URL without a base") := rfl
  constructor
  · obtain ⟨base, parsed, runs⟩ := run_of_no_fault Peer.get sound
    rw [parseBaseUrl_default] at parsed
    rw [runs, ← Except.ok.inj parsed]
    rfl
  · rw [run_of_fault fault]
    rfl

end Command

end OrderLookup
