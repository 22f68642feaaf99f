import Mathlib.Order.WellFounded
import Contention.Proofs.Framing
import Contention.Proofs.Layers
import Contention.Proofs.Switch

/-!
# How the program ends

Whether the program succeeds is settled before the first event is looked at. Four things can go
wrong: the option string, the file, its text and the events in it. `Failure.Arises` tells each of
them from the invocation and the contents of its file alone, without the program, and the program
reports the one that comes **first** (`runWith_of_first`). If nothing is wrong it replays the
scenario (`runWith_of_prepared`).

That a failure comes before all events is expressed by `runWith`, the program with a replay of one's
choice: with a failure the end is the same for every replay, so none was made.
-/

namespace Contention.CommandLine

/-- The program with another way to replay a scenario. -/
def runWith (replay : Plan → Host → Replayed) (env : Environment)
    (files : String → Except FileError ByteArray) (args : List String) : Exit :=
  match planOf env args with
  | .error exit => exit
  | .ok plan =>
    match plan.host (files plan.path) with
    | .error failure => failure.exit
    | .ok h => (replay plan h).exit (logFilter env)

theorem runWith_replay : runWith Plan.replay = run := by
  funext env files args
  rw [runWith, run]
  cases planOf env args with
  | error exit => rfl
  | ok plan =>
    dsimp only
    rw [Plan.exit, Plan.run]
    cases plan.host (files plan.path) <;> rfl

/-! ### What can go wrong -/

/-- Something is wrong with an invocation or with the contents of its file. -/
inductive Failure.Arises (i : Invocation) (contents : Except FileError ByteArray) : Failure → Prop
  | options {e : OptionError} (h : i.check = .error e) : Arises i contents (.options e)
  | unreadable {e : FileError} (h : decodeFile contents = .error e) :
      Arises i contents (.unreadable i.scenario e)
  | invalid {text : String} {fault : Json.Fault} (hread : decodeFile contents = .ok text)
      (h : Scenario.ofText text = .error fault) : Arises i contents (.invalid fault)
  | dangling {text : String} {s : Scenario} {d : Scenario.Dangling}
      (hread : decodeFile contents = .ok text) (htext : Scenario.ofText text = .ok s)
      (h : Host.ofScenario s = .error d) : Arises i contents (.dangling i.scenario d)

/-- The place of a failure in the order of the checks. -/
def Failure.stage : Failure → Nat
  | .options _ => 0
  | .unreadable .. => 1
  | .invalid _ => 2
  | .dangling .. => 3

/-- A failure that arises, and none of an earlier stage does. -/
structure Failure.First (i : Invocation) (contents : Except FileError ByteArray) (f : Failure) :
    Prop where
  arises : f.Arises i contents
  least : ∀ f' : Failure, f'.Arises i contents → f.stage ≤ f'.stage

/-- Nothing is wrong, and this is the host of the scenario in the file. -/
structure Prepared (i : Invocation) (contents : Except FileError ByteArray) (h : Host) : Prop where
  options : i.check = .ok ()
  scenario : ∃ text s, decodeFile contents = .ok text ∧ Scenario.ofText text = .ok s ∧
    Host.ofScenario s = .ok h

private theorem prepared_or_arises (i : Invocation) (contents : Except FileError ByteArray) :
    (∃ h, Prepared i contents h) ∨ ∃ f : Failure, f.Arises i contents := by
  cases hcheck : i.check with
  | error e => exact .inr ⟨_, .options hcheck⟩
  | ok =>
    cases hread : decodeFile contents with
    | error e => exact .inr ⟨_, .unreadable hread⟩
    | ok text =>
      cases htext : Scenario.ofText text with
      | error fault => exact .inr ⟨_, .invalid hread htext⟩
      | ok s =>
        cases hhost : Host.ofScenario s with
        | error d => exact .inr ⟨_, .dangling hread htext hhost⟩
        | ok h => exact .inl ⟨h, hcheck, text, s, hread, htext, hhost⟩

/-- If something is wrong, something is wrong first. -/
private theorem Failure.Arises.exists_first {i : Invocation} {contents : Except FileError ByteArray}
    {f : Failure} (h : f.Arises i contents) : ∃ first : Failure, first.First i contents := by
  obtain ⟨first, harises, hleast⟩ :=
    (measure Failure.stage).wf.has_min {f | f.Arises i contents} ⟨f, h⟩
  exact ⟨first, harises, fun f' hf' => Nat.le_of_not_lt (hleast f' hf')⟩

/-! ### Ends -/

section Ends

variable {args : List String} {i : Invocation} (hparse : parse args = .ok i) (env : Environment)
  (files : String → Except FileError ByteArray) (replay : Plan → Host → Replayed)

private theorem plan_of_check_error {e : OptionError} (h : i.check = .error e) :
    i.plan env = .error (.options e) := by
  rw [← i.map_settings env] at h
  rw [Invocation.plan]
  cases hs : i.settings env with
  | error e' =>
    rw [hs] at h
    cases h
    rfl
  | ok c =>
    rw [hs] at h
    cases h

private theorem path_of_plan {p : Plan} (h : i.plan env = .ok p) : p.path = i.scenario := by
  rw [Invocation.plan] at h
  split at h
  · cases h
  · cases h
    rfl

private theorem plan_of_check_ok (h : i.check = .ok ()) : ∃ p, i.plan env = .ok p := by
  obtain ⟨c, hsettings, -⟩ := Invocation.value_settings h env
  exact ⟨_, by rw [Invocation.plan, hsettings]⟩

include hparse

private theorem runWith_of_plan {p : Plan} (hplan : i.plan env = .ok p) :
    runWith replay env files args =
      match p.host (files i.scenario) with
      | .error failure => failure.exit
      | .ok h => (replay p h).exit (logFilter env) := by
  rw [runWith, planOf, hparse]
  dsimp only
  rw [hplan]
  dsimp only
  rw [path_of_plan env hplan]

/-- **The first failure is reported**, and nothing is replayed. -/
theorem runWith_of_first {f : Failure} (hf : f.First i (files i.scenario)) :
    runWith replay env files args = f.exit := by
  obtain ⟨harises, hleast⟩ := hf
  -- a failure that is not about the option string leaves nothing wrong with that
  have hplanned (hstage : 0 < f.stage) : ∃ p, i.plan env = .ok p := by
    cases hcheck : i.check with
    | ok => exact plan_of_check_ok env hcheck
    | error e =>
      have hle := hleast _ (.options hcheck)
      exact absurd hstage (Nat.not_lt.mpr hle)
  cases harises with
  | options h =>
    rw [runWith, planOf, hparse]
    dsimp only
    rw [plan_of_check_error env h]
  | unreadable h =>
    obtain ⟨p, hplan⟩ := hplanned (Nat.zero_lt_succ _)
    rw [runWith_of_plan hparse env files replay hplan, Plan.host, h, path_of_plan env hplan]
  | invalid hread h =>
    obtain ⟨p, hplan⟩ := hplanned (Nat.zero_lt_succ _)
    rw [runWith_of_plan hparse env files replay hplan, Plan.host, hread]
    dsimp only
    rw [h]
  | dangling hread htext h =>
    obtain ⟨p, hplan⟩ := hplanned (Nat.zero_lt_succ _)
    rw [runWith_of_plan hparse env files replay hplan, Plan.host, hread]
    dsimp only
    rw [htext]
    dsimp only
    rw [h, path_of_plan env hplan]

/-- **Nothing is wrong**, and the scenario is replayed. -/
theorem runWith_of_prepared {p : Plan} (hplan : i.plan env = .ok p) {h : Host}
    (hp : Prepared i (files i.scenario) h) :
    runWith replay env files args = (replay p h).exit (logFilter env) := by
  obtain ⟨text, s, hread, htext, hhost⟩ := hp.scenario
  rw [runWith_of_plan hparse env files replay hplan, Plan.host, hread]
  dsimp only
  rw [htext]
  dsimp only
  rw [hhost]

end Ends

/-- A replay prints what a station would have kept, one line for each payload. -/
theorem Plan.output_replay_lines (p : Plan) (h : Host) :
    ∃ payloads,
      (Station.run
        { monitor := { host := h, sampling := p.settings.apply {} }, sink := .closure [] }
        (h.events.map fun e => .event e.1 e.2)).2.sink = .closure payloads ∧
      (p.replay h).output = Writer.lines payloads := by
  obtain ⟨-, hsink⟩ := Station.run_events { host := h, sampling := p.settings.apply {} } [] h.events
  exact ⟨_, hsink, p.output_replay h⟩

/-! ### The main statement -/

/-- **A failing program prints nothing.** It succeeds exactly if the option string can be read, the
file can be read, its text is that of a scenario, and the events of the scenario point to
something. If it does not succeed, it ends as the first thing that is wrong makes it end, with code
one and nothing printed, and all this whatever the replay is. If it does, it replays the scenario;
with one worker it prints the payloads that the events in their order leave with a sink, under the
settings of its plan, one on a line. -/
theorem failing_prints_nothing {args : List String} {i : Invocation} (hparse : parse args = .ok i)
    (env : Environment) (files : String → Except FileError ByteArray) :
    run = runWith Plan.replay ∧
    ((run env files args).code = 0 ↔
      i.check = .ok () ∧ ∃ text s h, decodeFile (files i.scenario) = .ok text ∧
        Scenario.ofText text = .ok s ∧ Host.ofScenario s = .ok h) ∧
    ((run env files args).code ≠ 0 →
      ∃ f : Failure, f.First i (files i.scenario) ∧ f.exit.code = 1 ∧ f.exit.output = [] ∧
        ∀ replay, runWith replay env files args = f.exit) ∧
    ∀ h, Prepared i (files i.scenario) h → ∃ p, i.plan env = .ok p ∧
      (∀ replay, runWith replay env files args = (replay p h).exit (logFilter env)) ∧
      (i.jobs ≤ 1 → ∃ payloads,
        (Station.run
          { monitor := { host := h, sampling := p.settings.apply {} }, sink := .closure [] }
          (h.events.map fun e => .event e.1 e.2)).2.sink = .closure payloads ∧
        (run env files args).output = Writer.lines payloads) := by
  have hprepared {h : Host} (hp : Prepared i (files i.scenario) h) :
      (run env files args).code = 0 := by
    obtain ⟨p, hplan⟩ := plan_of_check_ok env hp.options
    rw [← runWith_replay, runWith_of_prepared hparse env files _ hplan hp]
    rfl
  have hfirst {f : Failure} (hf : f.First i (files i.scenario)) :
      (run env files args).code ≠ 0 := by
    rw [← runWith_replay, runWith_of_first hparse env files _ hf]
    exact (by decide : (1 : UInt32) ≠ 0)
  refine ⟨runWith_replay.symm, ⟨?_, ?_⟩, ?_, ?_⟩
  · intro hcode
    rcases prepared_or_arises i (files i.scenario) with ⟨h, hoptions, text, s, hall⟩ | ⟨f, hf⟩
    · exact ⟨hoptions, text, s, h, hall⟩
    · obtain ⟨first, hf⟩ := hf.exists_first
      exact absurd hcode (hfirst hf)
  · rintro ⟨hoptions, text, s, h, hall⟩
    exact hprepared ⟨hoptions, text, s, hall⟩
  · intro hcode
    rcases prepared_or_arises i (files i.scenario) with ⟨h, hp⟩ | ⟨f, hf⟩
    · exact absurd (hprepared hp) hcode
    · obtain ⟨first, hf⟩ := hf.exists_first
      exact ⟨first, hf, rfl, rfl, fun replay => runWith_of_first hparse env files replay hf⟩
  · intro h hp
    obtain ⟨p, hplan⟩ := plan_of_check_ok env hp.options
    have hends (replay : Plan → Host → Replayed) :=
      runWith_of_prepared hparse env files replay hplan hp
    refine ⟨p, hplan, hends, fun _ => ?_⟩
    obtain ⟨payloads, hsink, hlines⟩ := p.output_replay_lines h
    refine ⟨payloads, hsink, ?_⟩
    rw [← runWith_replay, hends]
    exact hlines

/-- The payload of the event in `oneEvent`. -/
def onePayload : String :=
  "\x7b\"Class\":\"a.B\",\"numTypeContentions\":1,\"threadName\":\"t\"\x7d"

/-- An option without a value is reported, and not that there is no file either. A file with one
event is replayed, and the payload of the event is printed. -/
theorem failing_prints_nothing_options :
    run (fun _ => none) (fun _ => .error .notFound)
        ["--options", "monitorSampleRate", "replay", "s.json"] =
      { code := 1
        messages := ["Error: invalid --options value: malformed option `monitorSampleRate`, " ++
          "expected key=value"] } ∧
      (run (fun _ => none) (fun _ => .ok oneEvent.toUTF8) ["replay", "s.json"]).code = 0 ∧
      (run (fun _ => none) (fun _ => .ok oneEvent.toUTF8) ["replay", "s.json"]).output =
        Writer.lines [onePayload] := by
  constructor
  · let i : Invocation := { scenario := "s.json", options := some "monitorSampleRate" }
    have hcheck : i.check = .error (.malformed "monitorSampleRate") := by decide +kernel
    obtain ⟨-, hiff, hfails, -⟩ := @failing_prints_nothing
      ["--options", "monitorSampleRate", "replay", "s.json"] i (by decide +kernel) (fun _ => none)
      (fun _ => .error .notFound)
    have hcode : (run (fun _ => none) (fun _ => .error .notFound)
        ["--options", "monitorSampleRate", "replay", "s.json"]).code ≠ 0 := by
      intro hzero
      have hok := (hiff.mp hzero).1
      rw [hcheck] at hok
      cases hok
    obtain ⟨f, ⟨harises, hleast⟩, -, -, hends⟩ := hfails hcode
    have hstage : f.stage ≤ 0 := hleast _ (.options hcheck)
    rw [← runWith_replay, hends]
    cases harises with
    | options h =>
      obtain rfl := Except.error.inj (hcheck.symm.trans h)
      rfl
    | _ => exact absurd hstage (Nat.not_succ_le_zero _)
  · let i : Invocation := { scenario := "s.json" }
    let s : Scenario :=
      { objects := [{ className := "a.B" }], threads := [{ name := "t" }], events := [⟨0, 0⟩] }
    have hcheck : i.check = .ok () := rfl
    have hread : decodeFile (.ok oneEvent.toUTF8) = .ok oneEvent := by decide +kernel
    have htext : Scenario.ofText oneEvent = .ok s := by decide +kernel
    have hhost : Host.ofScenario s = .ok { scenario := s } := rfl
    obtain ⟨-, hiff, -, hreplays⟩ := @failing_prints_nothing ["replay", "s.json"] i
      (by decide +kernel) (fun _ => none) (fun _ => .ok oneEvent.toUTF8)
    refine ⟨hiff.mpr ⟨hcheck, _, _, _, hread, htext, hhost⟩, ?_⟩
    obtain ⟨p, hplan, -, hlines⟩ := hreplays _ ⟨hcheck, _, _, hread, htext, hhost⟩
    obtain rfl : p = ⟨"s.json", {}, 1⟩ := by
      cases hplan
      rfl
    obtain ⟨payloads, hsink, houtput⟩ := hlines (by decide)
    have hkept : Sink.closure payloads = .closure [onePayload] :=
      hsink.symm.trans (by decide +kernel)
    rw [houtput, Sink.closure.inj hkept]

end Contention.CommandLine
