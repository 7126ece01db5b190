import EdgeReveal.CommandLine
import EdgeReveal.Proofs.Config.RoundTrip
import EdgeReveal.Proofs.Config.Validation
import EdgeReveal.Proofs.Files.Saving
import EdgeReveal.Proofs.Text.Utf8

/-!
# Printing the configuration of a run

A run that is asked to print its configuration either reports why there is none or prints the text
of what it resolved. Resolving keeps what was given, so the printed text, saved and loaded again,
resolves to the very configuration that it was printed from.
-/
namespace EdgeReveal

namespace Options

variable {o next : Options} {name value : String}

/-! ### Which options ask for printing -/

theorem printConfig_valued {put : Options → String → Option Options}
    (known : valued? name = some put) (taken : put o value = some next) :
    next.printConfig = o.printConfig := by
  unfold valued? at known
  split at known
  next =>
    cases known
    obtain ⟨-, same⟩ := Option.ite_none_left_eq_some.mp taken
    cases same
    rfl
  next =>
    cases known
    obtain ⟨-, same⟩ := Option.ite_none_left_eq_some.mp taken
    cases same
    rfl
  next => cases known

theorem printConfig_flag (changed : o.flag name = .changed next) :
    next.printConfig = true ↔ o.printConfig = true ∨ name = "print-config" := by
  unfold flag at changed
  split at changed
  next => cases changed
  next => cases changed
  next =>
    cases changed
    simp [raise]
  next =>
    split at changed
    · cases changed
    · cases changed
      simp
  next => cases changed

/-- What a flag settles is never that the program goes on. -/
theorem flag_ne_run (o final : Options) (name : String) : o.flag name ≠ .settled (.run final) := by
  unfold flag
  repeat' split
  all_goals simp

theorem shortFlag_cases (o : Options) (c : Char) :
    o.shortFlag c = .changed o.raise ∨
      ∃ invocation, o.shortFlag c = .settled invocation ∧ ∀ final, invocation ≠ .run final := by
  unfold shortFlag
  split
  next => exact .inr ⟨.help, rfl, by simp⟩
  next => exact .inr ⟨.version, rfl, by simp⟩
  next => exact .inl rfl
  next => exact .inr ⟨.usageFault, rfl, by simp⟩

/-- No short flag asks for printing, and what one settles is never that the program goes on. -/
theorem shortFlags_cases (o : Options) (flags : List Char) :
    (∃ next, o.shortFlags flags = .changed next ∧ next.printConfig = o.printConfig) ∨
      ∃ invocation, o.shortFlags flags = .settled invocation ∧
        ∀ final, invocation ≠ .run final := by
  induction flags generalizing o with
  | nil => exact .inl ⟨o, rfl, rfl⟩
  | cons c rest ih =>
    rw [shortFlags]
    obtain raised | ⟨invocation, settled, other⟩ := shortFlag_cases o c
    · rw [raised]
      exact ih o.raise
    · rw [settled]
      exact .inr ⟨invocation, rfl, other⟩

end Options

namespace Invocation

/-- An option without an equals sign is all name. -/
theorem splitValue_none {option : List Char} {name : String}
    (parted : splitValue option = (name, none)) : name = String.ofList option := by
  unfold splitValue at parted
  split at parted
  next rest =>
    have whole := List.takeWhile_append_dropWhile (p := (· != '=')) (l := option)
    rw [rest, List.append_nil] at whole
    rw [whole] at parted
    cases parted
    rfl
  next => cases parted

theorem splitValue_some {option : List Char} {name value : String}
    (parted : splitValue option = (name, some value)) : '=' ∈ option := by
  unfold splitValue at parted
  split at parted
  next => cases parted
  next sign rest parts =>
    have first := List.head_dropWhile_not (p := (· != '=')) (l := option) (by simp [parts])
    have within : sign ∈ option := (List.dropWhile_sublist _).subset (parts ▸ List.mem_cons_self)
    simp only [parts, List.head_cons] at first
    have equals : sign = '=' := by simpa using first
    exact equals ▸ within

/-- A run prints its configuration exactly if it is asked to, in whichever place. -/
theorem printConfig_ofArguments {o final : Options} {arguments : List String}
    (parsed : ofArguments o arguments = .run final) :
    final.printConfig = true ↔ o.printConfig = true ∨ "--print-config" ∈ arguments := by
  have spelled {argument : String} {letters : List Char} (reads : argument.toList = letters) :
      "--print-config" = argument ↔ "--print-config".toList = letters := by
    rw [← reads, String.toList_inj]
  fun_induction ofArguments o arguments with
  | case1 o =>
    cases parsed
    simp
  | case2 o argument dashes =>
    cases parsed
    simp [spelled dashes]
  | case4 o argument rest option _ long name value parted put known next taken ih =>
    have other : "--print-config" ≠ argument := by
      intro same
      have sign := List.mem_cons_of_mem '-' (List.mem_cons_of_mem '-' (splitValue_some parted))
      rw [← long, ← same] at sign
      revert sign
      decide
    refine (ih parsed).trans ?_
    rw [Options.printConfig_valued known taken, List.mem_cons, or_iff_right other]
  | case7 o argument option _ long name parted put value rest known free next taken ih =>
    have other : "--print-config" ≠ argument := by
      intro same
      have letters : "print-config".toList = option := by simpa using (spelled long).mp same
      rw [splitValue_none parted, ← letters] at known
      cases known
    have notValue : "--print-config" ≠ value := by
      rintro rfl
      revert free
      decide
    refine (ih parsed).trans ?_
    rw [Options.printConfig_valued known taken, List.mem_cons, List.mem_cons,
      or_iff_right other, or_iff_right notValue]
  | case11 o argument option _ long name parted rest _ next changed ih =>
    have named : name = "print-config" ↔ "--print-config" = argument := by
      rw [splitValue_none parted, spelled long, ← String.toList_inj, String.toList_ofList, eq_comm]
      simp
    refine (ih parsed).trans ?_
    rw [Options.printConfig_flag changed, List.mem_cons, named, or_assoc]
  | case12 o argument option _ long name _ rest _ invocation settled =>
    exact absurd (parsed ▸ settled) (Options.flag_ne_run o final name)
  | case13 o argument rest c flags _ single short next changed ih =>
    have other : "--print-config" ≠ argument := by
      intro same
      have letters := (spelled short).mp same
      simp at letters
      exact single letters.1.symm
    refine (ih parsed).trans ?_
    rw [List.mem_cons, or_iff_right other]
    obtain ⟨next', changed', kept⟩ | ⟨invocation, settled, _⟩ :=
      Options.shortFlags_cases o (c :: flags)
    · cases changed.symm.trans changed'
      rw [kept]
    · cases changed.symm.trans settled
  | case14 o argument rest c flags _ single short invocation settled =>
    obtain ⟨next', changed', kept⟩ | ⟨invocation', settled', other⟩ :=
      Options.shortFlags_cases o (c :: flags)
    · cases settled.symm.trans changed'
    · cases settled.symm.trans settled'
      exact absurd parsed (other final)
  | case3 | case5 | case6 | case8 | case9 | case10 | case15 => cases parsed

end Invocation

/-- A saved configuration is read back, whatever the path. -/
theorem Config.read_saved {files : Files} {path : String} {c : Config}
    (saved : files.read path = .ok (Text.encodeUtf8 c.toToml)) :
    Config.read files path = .ok c := by
  simp only [Config.read, saved, Text.decodeUtf8?_encodeUtf8, Config.parse_printed]

namespace CommandLine

variable {env : Environment} {arguments : List String} {o again : Options}

/-! ### What a run prints -/

/-- Where the configuration of a run comes from, and what is found there: a file that was named, or
else the one at the default location, or else nothing but defaults. -/
inductive Loads (env : Environment) : Option String → Except ConfigError Config → Prop
  | named (path : String) : Loads env (some path) (Config.read env.files path)
  | found {path : String} (located : Config.defaultPath env.configHome = some path)
      (there : env.files.contains path = true) : Loads env none (Config.read env.files path)
  | missing {path : String} (located : Config.defaultPath env.configHome = some path)
      (absent : env.files.contains path = false) : Loads env none (.ok {})
  | homeless (nowhere : Config.defaultPath env.configHome = none) : Loads env none (.ok {})

theorem loads_load (env : Environment) (explicit : Option String) :
    Loads env explicit (Config.load env.files env.configHome explicit) := by
  cases explicit with
  | some path => exact .named path
  | none =>
    rw [Config.load]
    split
    next path located =>
      split
      next there => exact .found located there
      next absent => exact .missing located (Bool.eq_false_iff.mpr absent)
    next nowhere => exact .homeless nowhere

/-- What becomes of a loaded configuration: an output on the command line wins over the configured
one, and the settings are validated. -/
def resolved (o : Options) (c : Config) : Config :=
  { autohide := c.autohide.validated
    panel := { c.panel with output := o.output.or c.panel.output } }

/-- A resolved configuration stays as it is, unless another output is given. -/
theorem resolved_resolved (c : Config) (same : again.output = o.output ∨ again.output = none) :
    resolved again (resolved o c) = resolved o c := by
  have output : again.output.or (o.output.or c.panel.output) = o.output.or c.panel.output := by
    rcases same with same | none
    · rw [same, ← Option.or_assoc, Option.or_self]
    · rw [none, Option.none_or]
  simp only [resolved, Settings.validated_validated, output]

theorem run_of_error {e : ConfigError} (parsed : Invocation.ofArguments {} arguments = .run o)
    (load : Config.load env.files env.configHome o.config = .error e) :
    run env arguments = .finished ⟨1, "", some s!"Error: {configFaultLine e}"⟩ := by
  simp only [run, parsed, runWith, resolve, load]
  rfl

theorem run_of_ok {c : Config} (parsed : Invocation.ofArguments {} arguments = .run o)
    (asked : "--print-config" ∈ arguments)
    (load : Config.load env.files env.configHome o.config = .ok c) :
    run env arguments = .finished ⟨0, (resolved o c).toToml, none⟩ := by
  have printing : o.printConfig = true :=
    (Invocation.printConfig_ofArguments parsed).mpr (.inr asked)
  simp only [run, parsed, runWith, resolve, load, printing, if_pos, Config.validated]
  rfl

/-- A run that is asked to print its configuration writes nothing and fails if there is none, and
otherwise prints the text of what it resolved, which means just that configuration. Wherever that
text is saved, a run that is pointed to it prints the same text again, unless it is given another
output. -/
theorem printed_again (parsed : Invocation.ofArguments {} arguments = .run o)
    (asked : "--print-config" ∈ arguments) :
    ∃ loaded, Loads env o.config loaded ∧
      (∀ e, loaded = .error e →
        ∃ code fault, code ≠ 0 ∧ run env arguments = .finished ⟨code, "", some fault⟩) ∧
      ∀ c, loaded = .ok c →
        run env arguments = .finished ⟨0, (resolved o c).toToml, none⟩ ∧
        (∀ path, Config.parse (resolved o c).toToml path = .ok (resolved o c)) ∧
        ∀ (later : Environment) (path : String) (command : List String) (again : Options),
          later.files.read path = .ok (Text.encodeUtf8 (resolved o c).toToml) →
          Invocation.ofArguments {} command = .run again → "--print-config" ∈ command →
          again.config = some path → (again.output = o.output ∨ again.output = none) →
          run later command = run env arguments := by
  refine ⟨_, loads_load env o.config, fun e load => ?error, fun c load =>
    ⟨?printed, Config.parse_printed _, ?again⟩⟩
  case error => exact ⟨1, _, Nat.one_ne_zero, run_of_error parsed load⟩
  case printed => exact run_of_ok parsed asked load
  case again =>
    intro later path command again saved parsedAgain askedAgain pointed same
    have reload : Config.load later.files later.configHome again.config = .ok (resolved o c) := by
      rw [pointed]
      exact Config.read_saved saved
    rw [run_of_ok parsed asked load, run_of_ok parsedAgain askedAgain reload,
      resolved_resolved c same]

/-- A file with inverted thresholds, and one at the default location that nothing can read. -/
def barHome : Environment where
  configHome := ⟨some "/home/u", none⟩
  files :=
    { current := ["home", "u"]
      files :=
        [(["home", "u", "bar.toml"],
            "[autohide]\nthreshold-hidden-y = 80\n".toList.map Char.toUInt8),
          (["home", "u", ".config", "panel-autohide", "config.toml"], [0xFF])] }

/-- What is printed for `bar.toml` where another output is asked for. -/
def barText : String :=
  "[autohide]\nthreshold-hidden-y = 1\nthreshold-visible-y = 50\ndelay-show = 0\n" ++
    "delay-hide = 3000\ncheck-interval = 100\nconsecutive-checks-before-visible = 2\n\n" ++
    "[panel]\noutput = \"DP-2\"\nemit-json = true\n"

theorem printed_again_bar :
    let saved : Environment :=
      { barHome with
        files := barHome.files.put ["home", "u", "bar.toml"] (Text.encodeUtf8 barText) }
    run barHome ["--output=DP-2", "--print-config", "--config", "bar.toml"] =
      .finished ⟨0, barText, none⟩ ∧
    Config.parse barText "bar.toml" = .ok { panel := { output := some "DP-2" } } ∧
    run saved ["--config=bar.toml", "--print-config"] = .finished ⟨0, barText, none⟩ ∧
    ∃ code fault, code ≠ 0 ∧
      run barHome ["--print-config"] = .finished ⟨code, "", some fault⟩ := by
  intro saved
  have unreadable : ∃ code fault, code ≠ 0 ∧
      run barHome ["--print-config"] = .finished ⟨code, "", some fault⟩ := by
    have parsed : Invocation.ofArguments {} ["--print-config"] = .run { printConfig := true } := by
      decide +kernel
    have place : Config.defaultPath barHome.configHome =
        some "/home/u/.config/panel-autohide/config.toml" := by
      decide +kernel
    have there : barHome.files.contains "/home/u/.config/panel-autohide/config.toml" = true := by
      decide +kernel
    obtain ⟨_, loads, failed, -⟩ := @printed_again barHome _ _ parsed (by decide)
    cases loads with
    | found located =>
      cases place.symm.trans located
      exact failed (.read "/home/u/.config/panel-autohide/config.toml" .notUtf8) rfl
    | missing located absent =>
      cases place.symm.trans located
      cases there.symm.trans absent
    | homeless nowhere => cases place.symm.trans nowhere
  have parsed : Invocation.ofArguments {}
      ["--output=DP-2", "--print-config", "--config", "bar.toml"] =
      .run { config := some "bar.toml", output := some "DP-2", printConfig := true } := by
    decide +kernel
  have parsedAgain : Invocation.ofArguments {} ["--config=bar.toml", "--print-config"] =
      .run { config := some "bar.toml", printConfig := true } := by
    decide +kernel
  have target : barHome.files.target "bar.toml" = .ok ["home", "u", "bar.toml"] := by rfl
  have writes : barHome.files.save "bar.toml" (Text.encodeUtf8 barText) = .ok saved.files := by
    rw [Files.save, target]
    rfl
  have read : (Config.read barHome.files "bar.toml").toOption =
      some { autohide := { thresholdHidden := 80 } } := by
    decide +kernel
  have resolves : resolved { config := some "bar.toml", output := some "DP-2", printConfig := true }
      { autohide := { thresholdHidden := 80 } } = { panel := { output := some "DP-2" } } := by
    decide +kernel
  have text : Config.toToml { panel := { output := some "DP-2" } } = barText := by decide +kernel
  obtain ⟨_, ⟨⟩, -, printed⟩ := @printed_again barHome _ _ parsed (by decide)
  cases loaded : Config.read barHome.files "bar.toml" with
  | error e => cases loaded ▸ read
  | ok c =>
    cases Option.some.inj (loaded ▸ read : some c = _)
    obtain ⟨first, means, again⟩ := printed _ loaded
    rw [resolves, text] at first means again
    have second := again _ "bar.toml" _ _ (Files.read_save writes) parsedAgain (by decide) rfl
      (.inr rfl)
    exact ⟨first, means "bar.toml", second.trans first, unreadable⟩

end CommandLine

end EdgeReveal
