import EdgeReveal.Shell.Builtin
import EdgeReveal.Shell.Reader

/-!
# Running commands

The meaning of commands: expansion, redirection, control flow, the builtins
that run commands themselves, and calls of programs. All of it goes by
recursion on fuel, since a loop need not end. The system's shell does this in
place of a launcher's children; no sink rests on what they do.
-/
namespace EdgeReveal.Shell

mutual

def expandPart : Nat → Part → Act (List Glyph)
  | 0, _ => throw .exhausted
  | fuel + 1, part => do
    match part with
    | .plain c => return [.char c false false]
    | .quoted c => return [.char c true false]
    | .quotes => return [.quotes]
    | .substitution quoted script =>
      let text ← captured (runAll fuel false script)
      modify fun s => { s with substituted := s.environment.status }
      return Glyph.ofText quoted (trimNewlines (text.filter (· != '\x00')))
    | .arithmetic quoted expression =>
      let text := Glyph.text (← expandParts fuel expression)
      let bindings := (← environment).bindings
      match Arithmetic.evaluateText bindings text with
      | some (value, bindings) =>
        withEnvironment fun e => { e with bindings := bindings }
        return Glyph.ofText quoted (toString value).toList
      | none => refuse "arithmetic expression: expecting primary"
    | .parameter quoted name form word =>
      let value ← parameterValue name
      let isAll := name = ['@'] || name = ['*']
      let whole : Act (List Glyph) :=
        if isAll then positional quoted (name = ['*'])
        else return Glyph.ofText quoted (value.getD [])
      let present (colon : Bool) : Bool :=
        match value with
        | none => false
        | some text => !(colon && text.isEmpty)
      let expandedWord : Act (List Glyph) := do
        let glyphs ← expandParts fuel word
        return glyphs.map fun glyph => match glyph with
          | .char c false _ => .char c false (!quoted)
          | glyph => glyph
      match form with
      | .value =>
        let strict := (← environment).refuseUnset
        if strict && value.isNone && !isAll then refuse s!"{quoteName name}: parameter not set"
        else whole
      | .length =>
        let arguments := (← environment).arguments
        let count := if isAll then arguments.length else (value.getD []).length
        return Glyph.ofText quoted (toString count).toList
      | .default colon => if present colon then whole else expandedWord
      | .assign colon =>
        if present colon then whole
        else if isName name then
          let text := Glyph.text (← expandParts fuel word)
          assign name text
          return Glyph.ofText quoted text
        else refuse s!"{quoteName name}: bad variable name"
      | .alternative colon => if present colon then expandedWord else return []
      | .require colon =>
        if present colon then whole
        else
          let text := Glyph.text (← expandParts fuel word)
          let message := if text.isEmpty then "parameter not set" else quoteName text
          refuse s!"{quoteName name}: {message}"
      | .trimStart longest =>
        let pattern := Pattern.ofWord (Glyph.letters (← expandParts fuel word))
        return Glyph.ofText quoted (Pattern.trimStart longest pattern (value.getD []))
      | .trimEnd longest =>
        let pattern := Pattern.ofWord (Glyph.letters (← expandParts fuel word))
        return Glyph.ofText quoted (Pattern.trimEnd longest pattern (value.getD []))

def expandParts : Nat → List Part → Act (List Glyph)
  | 0, _ => throw .exhausted
  | fuel + 1, parts => do
    let mut glyphs := []
    for part in parts do
      glyphs := glyphs ++ (← expandPart fuel part)
    return glyphs

/-- The texts that words stand for as arguments. -/
def expandWords : Nat → List Word → Act (List (List Char))
  | 0, _ => throw .exhausted
  | fuel + 1, words => do
    let mut texts := []
    for word in words do
      let fields := Glyph.fields (← separators) (← expandParts fuel word)
      if (← environment).noPatterns || !fields.any Pattern.isPattern then
        texts := texts ++ fields.map fun field => field.map (·.char)
      else
        let fs ← lookAround
        texts := texts ++ fields.flatMap (matchingPaths fs)
    return texts

/-- Opens all redirections in order, up to the first that fails. -/
def redirectAll : Nat → List Redirect → Act Bool
  | 0, _ => throw .exhausted
  | _ + 1, [] => return true
  | fuel + 1, .mk descriptor direction target :: rest => do
    let text := Glyph.text (← expandParts fuel target)
    if ← openFor descriptor direction text then redirectAll fuel rest else return false

/-- Runs a text as commands of this shell. -/
def runText : Nat → List Char → Act Unit
  | 0, _ => throw .exhausted
  | fuel + 1, text => do
    let (commands, whole) := script text
    if commands.isEmpty then setStatus 0
    runAll fuel false commands
    if !whole then refuse "Syntax error"

/-- Does to this shell what a signal does. -/
def receive : Nat → Nat → Act Unit
  | 0, _ => throw .exhausted
  | fuel + 1, signal => do
    match (← environment).traps.get? (trapKey signal) with
    | some action => if signal = 9 then throw (.killed signal) else runText fuel action
    | none => if isHarmless signal then pure () else throw (.killed signal)

/-- Does something as a new shell, which only gets what was exported. -/
def runChild : Nat → List Char → List (List Char) → List Char → Act Unit
  | 0, _, _, _ => throw .exhausted
  | fuel + 1, name, arguments, text => isolated do
    withEnvironment fun e =>
      { name := name
        number := e.number + 1000
        folder := e.folder
        bindings := ({} : Environment).bindings
          ++ e.bindings.filter fun binding => e.exported.contains binding.1
        exported := e.exported
        arguments := arguments
        channels := e.channels }
    match ← attempt (runText fuel text) with
    | some (.killed signal) => setStatus (128 + signal)
    | some .exhausted => throw .exhausted
    | _ => endShell fuel

/-- Calls a builtin, a function or a program and sets the status. -/
def call : Nat → Bool → Bool → List Char → List (List Char) → Act Unit
  | 0, _, _, _, _ => throw .exhausted
  | fuel + 1, tested, skipFunctions, name, arguments => do
    let e ← environment
    let function := (e.functions.find? (·.1 == name)).map (·.2)
    match ownBuiltin? name, (if skipFunctions || isSpecialBuiltin name then none else function),
      String.ofList name with
    | _, some body, _ =>
      withEnvironment fun e => { e with arguments := arguments, hidden := some [], loops := 0 }
      let left ← attempt (run fuel tested body)
      withEnvironment fun inner =>
        { inner with
          arguments := e.arguments
          hidden := e.hidden
          loops := e.loops
          bindings := restoreHidden (inner.hidden.getD []) inner.bindings }
      match left with
      | none | some .returned => pure ()
      | some leave => throw leave
    | some builtin, none, _ => setStatus (← builtin arguments)
    | none, none, "eval" => runText fuel ((arguments.intersperse [' ']).flatten)
    | none, none, "command" =>
      match arguments with
      | ['-', 'v'] :: names =>
        let known (name : List Char) : Bool :=
          (ownBuiltin? name).isSome || (Program.find? name).isSome
            || ["eval", "exec", "command", "kill", ".", "sh"].contains (String.ofList name)
            || e.functions.any (·.1 == name)
        let found := names.filter known
        let _ ← write 1 (Program.joinLines found)
        setStatus (if found.length = names.length then 0 else 127)
      | name :: arguments => call fuel tested true name arguments
      | [] => setStatus 0
    | none, none, "exec" =>
      match arguments with
      | [] => setStatus 0
      | name :: arguments =>
        isolated (call fuel tested true name arguments)
        withEnvironment fun e => { e with traps := [] }
        throw .exit
    | none, none, "nohup" =>
      match arguments with
      | [] => setStatus 125
      | name :: arguments => isolated (call fuel tested true name arguments)
    | none, none, "kill" =>
      match killArguments arguments with
      | none => setStatus 2
      | some (signal, targets) =>
        setStatus (if targets.isEmpty then 2 else 0)
        for target in targets do
          match Text.natural? target with
          | some number =>
            let children := (← get).background.length
            if number = e.number then receive fuel signal
            else if number < e.number || e.number + children < number then
              complain "sh: 1: kill: No such process"
              setStatus 1
          | none => setStatus 2
    | none, none, "sh" =>
      match arguments with
      | ['-', 'c'] :: text :: arguments =>
        runChild fuel (arguments.headD name) (arguments.drop 1) text
      | [] => runChild fuel name [] (← readAll 0)
      | path :: arguments =>
        match ← entryAt path with
        | some (.file content) => runChild fuel path arguments (ofBytes content)
        | _ =>
          complain s!"sh: 0: cannot open {quoteName path}: No such file"
          setStatus 2
    | none, none, "." =>
      match arguments with
      | path :: _ =>
        match ← entryAt path with
        | some (.file content) => runText fuel (ofBytes content)
        | _ => refuse s!".: cannot open {quoteName path}: No such file"
      | [] => refuse ".: filename argument required"
    | none, none, _ =>
      match Program.find? name with
      | some program => setStatus (← program arguments)
      | none =>
        if name.contains '/' && (← entryAt name).isSome then
          complain s!"sh: 1: {quoteName name}: Permission denied"
          setStatus 126
        else
          complain s!"sh: 1: {quoteName name}: not found"
          setStatus 127

/-- Leaves if the last status asks for it. -/
def leaveOnFailure : Bool → Act Unit := fun tested => do
  let e ← environment
  if e.exitOnFailure && !tested && e.status != 0 then throw .exit

/-- Runs a command. A tested one may fail without ending the shell. -/
def run : Nat → Bool → Command → Act Unit
  | 0, _, _ => throw .exhausted
  | fuel + 1, tested, command => do
    match command with
    | .simple assignments words redirects =>
      modify fun s => { s with substituted := 0 }
      let texts ← expandWords fuel words
      let saved := (← environment).channels
      let opened ← redirectAll fuel redirects
      match texts with
      | [] =>
        for (name, value) in assignments do
          assign name (Glyph.text (← expandParts fuel value))
        withEnvironment fun e => { e with channels := saved }
        let substituted := (← get).substituted
        setStatus (if opened then substituted else 2)
      | name :: arguments =>
        if !opened then
          withEnvironment fun e => { e with channels := saved }
          setStatus 2
          if isSpecialBuiltin name then throw .exit
        else
          let before := (← environment).bindings
          let exported := (← environment).exported
          for (name, value) in assignments do
            assign name (Glyph.text (← expandParts fuel value))
            withEnvironment fun e => { e with exported := name :: e.exported }
          let left ← attempt (call fuel tested false name arguments)
          let keepsChannels := name == "exec".toList && arguments.isEmpty
          withEnvironment fun e =>
            { e with channels := if keepsChannels then e.channels else saved }
          if !assignments.isEmpty && !isSpecialBuiltin name then
            withEnvironment fun e =>
              { e with
                exported := exported
                bindings := assignments.foldl (fun bindings (name, _) =>
                  match before.get? name with
                  | some value => bindings.set name value
                  | none => bindings.unset name) e.bindings }
          match left with
          | some leave => throw leave
          | none => pure ()
      leaveOnFailure tested
    | .pipeline stages =>
      runStages fuel tested none stages
      leaveOnFailure tested
    | .negation command =>
      run fuel true command
      setStatus (if (← environment).status = 0 then 1 else 0)
    | .conjunction first second =>
      run fuel true first
      if (← environment).status = 0 then run fuel tested second
    | .disjunction first second =>
      run fuel true first
      if (← environment).status ≠ 0 then run fuel tested second
    | .background command =>
      let start := (← get).now
      isolated do
        setChannel 0 (some .null)
        runApart fuel false command
      modify fun s =>
        { s with now := start, background := (s.now, s.environment.status) :: s.background }
      setStatus 0
    | .group body => runAll fuel tested body
    | .subshell body =>
      isolated (runApart fuel tested (.group body))
      leaveOnFailure tested
    | .conditional test accepted refused =>
      runAll fuel true test
      if (← environment).status = 0 then runAll fuel tested accepted
      else if refused.isEmpty then setStatus 0
      else runAll fuel tested refused
    | .loop untilTrue test body =>
      withEnvironment fun e => { e with loops := e.loops + 1 }
      let left ← attempt (repeatBody fuel tested untilTrue test body 0)
      withEnvironment fun e => { e with loops := e.loops - 1 }
      if let some leave := left then throw leave
    | .each name words body =>
      let arguments := (← environment).arguments
      let texts ← match words with
        | some words => expandWords fuel words
        | none => pure arguments
      setStatus 0
      withEnvironment fun e => { e with loops := e.loops + 1 }
      let left ← attempt (goThrough fuel tested name texts body)
      withEnvironment fun e => { e with loops := e.loops - 1 }
      if let some leave := left then throw leave
    | .choice word cases =>
      let text := Glyph.text (← expandParts fuel word)
      setStatus 0
      choose fuel tested text cases
    | .define name body =>
      withEnvironment fun e =>
        { e with functions := (name, body) :: e.functions.filter (·.1 != name) }
      setStatus 0
    | .redirected body redirects =>
      let saved := (← environment).channels
      if ← redirectAll fuel redirects then
        let left ← attempt (run fuel tested body)
        withEnvironment fun e => { e with channels := saved }
        match left with
        | some leave => throw leave
        | none => pure ()
      else
        withEnvironment fun e => { e with channels := saved }
        setStatus 2
        leaveOnFailure tested

/-- Runs a command as a shell of its own, with its own action for the end. -/
def runApart : Nat → Bool → Command → Act Unit
  | 0, _, _ => throw .exhausted
  | fuel + 1, tested, command => do
    withEnvironment fun e => { e with traps := e.traps.filter (·.2.isEmpty), loops := 0 }
    let left ← attempt (run fuel tested command)
    match left with
    | some (.killed signal) => throw (.killed signal)
    | some .exhausted => throw .exhausted
    | _ => endShell fuel

/-- Performs the action that was set for the end of the shell. -/
def endShell : Nat → Act Unit
  | 0 => throw .exhausted
  | fuel + 1 => do
    let e ← environment
    match e.traps.get? (trapKey 0) with
    | none => pure ()
    | some action =>
      withEnvironment fun e => { e with traps := e.traps.unset (trapKey 0) }
      match ← attempt (runText fuel action) with
      | some .exit => pure ()
      | some leave => throw leave
      | none => setStatus e.status

def runAll : Nat → Bool → List Command → Act Unit
  | 0, _, _ => throw .exhausted
  | _ + 1, _, [] => return
  | fuel + 1, tested, command :: rest => do
    run fuel tested command
    runAll fuel tested rest

/-- Runs the stages of a pipeline side by side; each reads what the one before it wrote. -/
def runStages : Nat → Bool → Option Channel → List Command → Act Unit
  | 0, _, _, _ => throw .exhausted
  | _ + 1, _, _, [] => return
  | fuel + 1, tested, input, stage :: rest => do
    let start := (← get).now
    let number ← newBuffer []
    let output : Option Channel := if rest.isEmpty then none else some (.buffer number)
    isolated do
      match input with
      | some channel => setChannel 0 (some channel)
      | none => pure ()
      match output with
      | some channel => setChannel 1 (some channel)
      | none => pure ()
      runApart fuel tested stage
    let ended := (← get).now
    if !rest.isEmpty then
      modify fun s => { s with now := start }
      runStages fuel tested output rest
    waitUntil ended

/-- Runs the body of a loop again and again; the status is that of its last run. -/
def repeatBody : Nat → Bool → Bool → List Command → List Command → Nat → Act Unit
  | 0, _, _, _, _, _ => throw .exhausted
  | fuel + 1, tested, untilTrue, test, body, status => do
    match ← attempt (runAll fuel true test) with
    | some (.broken levels) => if 1 < levels then throw (.broken (levels - 1)) else setStatus 0
    | some (.continued levels) =>
      if 1 < levels then throw (.continued (levels - 1))
      else repeatBody fuel tested untilTrue test body status
    | some leave => throw leave
    | none =>
      if ((← environment).status == 0) == untilTrue then setStatus status
      else
        match ← attempt (runAll fuel tested body) with
        | none => repeatBody fuel tested untilTrue test body (← environment).status
        | some (.broken levels) => if 1 < levels then throw (.broken (levels - 1)) else setStatus 0
        | some (.continued levels) =>
          if 1 < levels then throw (.continued (levels - 1))
          else repeatBody fuel tested untilTrue test body 0
        | some leave => throw leave

/-- Runs the body of a loop once for each text. -/
def goThrough : Nat → Bool → List Char → List (List Char) → List Command → Act Unit
  | 0, _, _, _, _ => throw .exhausted
  | _ + 1, _, _, [], _ => return
  | fuel + 1, tested, name, text :: rest, body => do
    assign name text
    match ← attempt (runAll fuel tested body) with
    | none => goThrough fuel tested name rest body
    | some (.broken levels) => if 1 < levels then throw (.broken (levels - 1)) else setStatus 0
    | some (.continued levels) =>
      if 1 < levels then throw (.continued (levels - 1)) else goThrough fuel tested name rest body
    | some leave => throw leave

/-- Runs the first branch with a pattern that fits. -/
def choose : Nat → Bool → List Char → List (List Word × List Command) → Act Unit
  | 0, _, _, _ => throw .exhausted
  | _ + 1, _, _, [] => return
  | fuel + 1, tested, text, (patterns, body) :: rest => do
    if ← anyFits fuel text patterns then runAll fuel tested body
    else choose fuel tested text rest

def anyFits : Nat → List Char → List Word → Act Bool
  | 0, _, _ => throw .exhausted
  | _ + 1, _, [] => return false
  | fuel + 1, text, pattern :: rest => do
    let letters := Glyph.letters (← expandParts fuel pattern)
    if Pattern.fits (Pattern.ofWord letters) text then return true
    else anyFits fuel text rest

end

/-- Runs a command text as a new shell from its start to its end. -/
def execute (fuel : Nat) (text : List Char) : Act Unit := do
  match ← attempt (runText fuel text) with
  | some (.killed _) => pure ()
  | some .exhausted => pure ()
  | _ =>
    let _ ← attempt (endShell fuel)

end EdgeReveal.Shell
