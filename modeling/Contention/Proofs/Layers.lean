import Contention.CommandLine.Program
import Contention.Proofs.Settings

/-!
# Layers of settings

The settings of an invocation come from four layers. The defaults are at the bottom; over them lie
the environment, then the option string, and on top the single flags. Each layer has something to
say about a setting or leaves it alone, and what counts is the uppermost layer that has.

`Invocation.value_settings` says so for all settings at once, so that none of them can depend on
what is said about another one. `settings_layered` spells it out.
-/

namespace Contention.CommandLine

namespace Invocation

variable {i : Invocation}

/-- What the flags assign to a setting. -/
def flag? (i : Invocation) : Setting → Option Assignment
  | .stackTrace => if i.noStackTrace then some (.stackTrace false) else none
  | .sampleRate => i.sampleRate.map .sampleRate
  | .stackDepth => i.depth.map .stackDepth

/-- The text that the last option with a key has for it. -/
def optionText? (i : Invocation) (key : String) : Option (List Char) :=
  i.options.bind (Settings.lastOption? key)

/-- What the option string assigns to a setting. -/
def option? (i : Invocation) (s : Setting) : Option Assignment :=
  (i.optionText? s.key).bind s.read?

/-- What is wrong with the option string, if there is one. -/
def check (i : Invocation) : Except OptionError Unit :=
  i.options.elim (.ok ()) fun options => (({} : Settings).merge options).1

/-- Settings are found unless something is wrong with the option string; what the environment has to
say does not matter to that. -/
theorem map_settings (i : Invocation) (env : Environment) :
    (i.settings env).map (fun _ => ()) = i.check := by
  rw [settings, check]
  cases i.options with
  | none => rfl
  | some options =>
    have hsame : ((Settings.ofLookup env).merge options).1 = (({} : Settings).merge options).1 :=
      Settings.mergePieces_fst _ _ _
    dsimp only [Option.elim_some]
    rw [← hsame]
    split
    · next hmerge => rw [hmerge]; rfl
    · next hmerge => rw [hmerge]; rfl

/-- The flags over settings from below. -/
private theorem value_flags (i : Invocation) (c : Settings) (s : Setting) :
    Settings.value
      { stackTrace := if i.noStackTrace then false else c.stackTrace
        sampleRate := i.sampleRate.getD c.sampleRate
        stackDepth := i.depth.getD c.stackDepth } s = (i.flag? s).getD (c.value s) := by
  obtain ⟨options, scenario, rate, depth, off, jobs⟩ := i
  cases s with
  | stackTrace => cases off <;> rfl
  | sampleRate => cases rate <;> rfl
  | stackDepth => cases depth <;> rfl

/-- **The uppermost layer counts**, for each setting by itself. -/
theorem value_settings (h : i.check = .ok ()) (env : Environment) :
    ∃ c, i.settings env = .ok c ∧
      ∀ s, c.value s = (i.flag? s).getD ((i.option? s).getD
        ((Settings.fromLookup? env s).getD (({} : Settings).value s))) := by
  cases hoptions : i.options with
  | none =>
    refine ⟨_, by rw [settings, hoptions]; rfl, fun s => ?_⟩
    rw [value_flags, Settings.value_ofLookup, option?, optionText?, hoptions]
    rfl
  | some options =>
    rw [check, hoptions] at h
    obtain ⟨c, hmerge, hvalue⟩ := Settings.merge_of_ok h (Settings.ofLookup env)
    refine ⟨_, by rw [settings, hoptions, Option.elim_some, hmerge], fun s => ?_⟩
    rw [value_flags, (hvalue s).1, Settings.value_ofLookup, option?, optionText?, hoptions,
      Option.bind_some]

/-- The last option with a key has a value for its setting. -/
private theorem read?_of_optionText? (h : i.check = .ok ()) {s : Setting} {text : List Char}
    (htext : i.optionText? s.key = some text) : ∃ a, s.read? text = some a := by
  obtain ⟨options, hoptions, hlast⟩ := Option.bind_eq_some_iff.mp htext
  rw [check, hoptions] at h
  obtain ⟨_, -, hvalue⟩ := Settings.merge_of_ok h {}
  exact (hvalue s).2 text hlast

/-- The layers of a setting whose values are read and assigned in a certain way. -/
private theorem layers_eq {α : Type} {s : Setting} {read : List Char → Option α}
    {make : α → Assignment} (hread : ∀ text, s.read? text = (read text).map make)
    (flag : Option α) (hflag : i.flag? s = flag.map make) (env : Environment) (default : α) :
    (i.flag? s).getD ((i.option? s).getD ((Settings.fromLookup? env s).getD (make default))) =
      make (flag.getD (((i.optionText? s.key).bind read).getD
        (((env s.environmentName).bind fun v => read (Text.trim v.toList)).getD default))) := by
  have hoption : i.option? s = ((i.optionText? s.key).bind read).map make := by
    rw [option?, Option.map_bind]
    exact congrArg _ (funext hread)
  have henv : Settings.fromLookup? env s =
      ((env s.environmentName).bind fun v => read (Text.trim v.toList)).map make := by
    rw [Settings.fromLookup?, Option.map_bind]
    exact congrArg _ (funext fun v => hread _)
  rw [hflag, hoption, henv, Option.getD_map, Option.getD_map, Option.getD_map]

end Invocation

/-! ### The main statement -/

/-- **Flags over options over the environment over defaults.** Let the option string, if there is
one, be one that can be read. Then the program replays under settings of which each is what its flag
says, else what the last option with its key says, else what its variable says if that can be read,
else the default; and an option with the key of a setting says something about it. Whoever agrees
with this on what the layers say about one setting has the same value of it, whatever is said about
the others. -/
theorem settings_layered (i : Invocation) (h : i.check = .ok ()) (env : Environment) :
    ∃ p, i.plan env = .ok p ∧
      (∀ args files, parse args = .ok i → run env files args = p.exit env (files i.scenario)) ∧
      p.settings.sampleRate =
        i.sampleRate.getD (((i.optionText? "monitorSampleRate").bind Text.readInt32?).getD
          (((env "LOCKWATCH_SAMPLE_RATE").bind fun v => Text.readInt32? (Text.trim v.toList)).getD
            1)) ∧
      p.settings.stackDepth =
        i.depth.getD (((i.optionText? "monitorStackTraceDepth").bind Text.readInt32?).getD
          (((env "LOCKWATCH_STACK_DEPTH").bind fun v => Text.readInt32? (Text.trim v.toList)).getD
            0)) ∧
      p.settings.stackTrace =
        (if i.noStackTrace then false
          else ((i.optionText? "monitorStackTrace").bind readSwitch?).getD
            (((env "LOCKWATCH_STACK_TRACE").bind fun v => readSwitch? (Text.trim v.toList)).getD
              true)) ∧
      (∀ s text, i.optionText? (Setting.key s) = some text → ∃ a, s.read? text = some a) ∧
      ∀ (i' : Invocation) (env' : Environment) (p' : Plan) (s : Setting), i'.plan env' = .ok p' →
        i'.flag? s = i.flag? s → i'.option? s = i.option? s →
        Settings.fromLookup? env' s = Settings.fromLookup? env s →
        p'.settings.value s = p.settings.value s := by
  obtain ⟨c, hsettings, hvalue⟩ := Invocation.value_settings h env
  have hplan : i.plan env = .ok { path := i.scenario, settings := c, jobs := i.jobs } := by
    rw [Invocation.plan, hsettings]
  refine ⟨_, hplan, ?_, ?_, ?_, ?_, fun s text => Invocation.read?_of_optionText? h, ?_⟩
  · intro args files hparse
    rw [run, planOf, hparse]
    dsimp only
    rw [hplan]
  · have hrate := (hvalue .sampleRate).trans
      (Invocation.layers_eq (fun _ => rfl) i.sampleRate rfl env 1)
    exact Assignment.sampleRate.inj hrate
  · have hdepth := (hvalue .stackDepth).trans
      (Invocation.layers_eq (fun _ => rfl) i.depth rfl env 0)
    exact Assignment.stackDepth.inj hdepth
  · have hflag : i.flag? .stackTrace =
        (if i.noStackTrace then some false else none).map .stackTrace := by
      rw [Invocation.flag?]
      split <;> rfl
    have hswitch := (hvalue .stackTrace).trans
      (Invocation.layers_eq (fun _ => rfl) _ hflag env true)
    refine (Assignment.stackTrace.inj hswitch).trans ?_
    split <;> rfl
  · intro i' env' p' s hplan' hflag hoption henv
    have hcheck : i'.check = .ok () := by
      rw [← i'.map_settings env']
      cases hc : i'.settings env' with
      | ok c' => rfl
      | error e =>
        rw [Invocation.plan, hc] at hplan'
        cases hplan'
    obtain ⟨c', hsettings', hvalue'⟩ := Invocation.value_settings hcheck env'
    rw [Invocation.plan, hsettings'] at hplan'
    obtain rfl := Except.ok.inj hplan'
    dsimp only
    rw [hvalue', hvalue, hflag, hoption, henv]

/-- A flag for the depth over an option, the last of two options for the rate over a variable, and a
switch that only an option says something about that can be read. -/
theorem settings_layered_all :
    let i : Invocation :=
      { scenario := "s.json"
        options := some "monitorSampleRate=5,monitorStackTrace = off, monitorSampleRate=7"
        depth := some 3 }
    let env : Environment := fun name =>
      if name = "LOCKWATCH_SAMPLE_RATE" then some "9"
      else if name = "LOCKWATCH_STACK_TRACE" then some "maybe" else none
    i.check = .ok () ∧ ∃ p, i.plan env = .ok p ∧
      p.settings.sampleRate = 7 ∧ p.settings.stackDepth = 3 ∧ p.settings.stackTrace = false := by
  intro i env
  have hcheck : i.check = .ok () := by decide +kernel
  obtain ⟨p, hplan, -, hrate, hdepth, hswitch, -⟩ := settings_layered i hcheck env
  refine ⟨hcheck, p, hplan, hrate.trans ?_, hdepth.trans ?_, hswitch.trans ?_⟩ <;> decide +kernel

end Contention.CommandLine
