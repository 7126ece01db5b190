import EdgeReveal.Shell.Lexeme

/-!
# Reading shell commands

A text is read one line of commands at a time, so what stands before a faulty
line still runs. The reader knows lists, pipelines, compound commands,
functions, redirections, here-documents and all kinds of quoting and
expansion; it has no aliases.
-/
namespace EdgeReveal.Shell

mutual

/-- Reads the parts of a word up to where its mode ends it. -/
def parts? : Nat → Mode → List Char → Option (List Part × List Char)
  | 0, _, _ => none
  | _ + 1, mode, [] => if mode.endsWithText then some ([], []) else none
  | fuel + 1, mode, '\\' :: '\n' :: rest => parts? fuel mode rest
  | fuel + 1, mode, c :: rest =>
    let literal (c : Char) : Part := if mode.isQuoting then .quoted c else .plain c
    if mode.stopsAt c rest then some ([], c :: rest)
    else if c = '\\' then
      match rest with
      | [] => some ([.quoted '\\'], [])
      | d :: others =>
        if mode.escapes d then do
          let (parts, others) ← parts? fuel mode others
          return (.quoted d :: parts, others)
        else do
          let (parts, others) ← parts? fuel mode rest
          return (.quoted '\\' :: parts, others)
    else if c = '\'' && !mode.isQuoting then do
      let (inner, others) ← cutAt '\'' rest
      let (parts, others) ← parts? fuel mode others
      return (.quotes :: inner.map .quoted ++ parts, others)
    else if c = '"' && (!mode.isQuoting || mode == .braceInDouble) then do
      let (inner, others) ← parts? fuel .double rest
      let (parts, others) ← parts? fuel mode (others.drop 1)
      return (.quotes :: inner ++ parts, others)
    else if c = '$' then do
      let (part, others) ← dollar? fuel mode.isQuoting rest
      let (parts, others) ← parts? fuel mode others
      return (part :: parts, others)
    else if c = '\x60' then do
      let (inner, others) ← backquoted mode.isQuoting rest
      let (script, left) ← list? fuel inner
      if skipBreaks false left ≠ [] then none
      let (parts, others) ← parts? fuel mode others
      return (.substitution mode.isQuoting script :: parts, others)
    else do
      let (parts, others) ← parts? fuel (mode.after c) rest
      return (literal c :: parts, others)

/-- Reads what follows a dollar sign. -/
def dollar? : Nat → Bool → List Char → Option (Part × List Char)
  | 0, _, _ => none
  | fuel + 1, quoted, text =>
    match text with
    | '(' :: '(' :: rest => do
      let (parts, rest) ← parts? fuel (.arithmetic 0) rest
      return (.arithmetic quoted parts, rest.drop 2)
    | '(' :: rest => do
      let (script, rest) ← list? fuel rest
      match skipBreaks false rest with
      | ')' :: rest => return (.substitution quoted script, rest)
      | _ => none
    | '{' :: '#' :: '}' :: rest => some (.parameter quoted ['#'] .value [], rest)
    | '{' :: '#' :: rest => do
      let (name, rest) ← braceName? rest
      match rest with
      | '}' :: rest => return (.parameter quoted name .length [], rest)
      | _ => none
    | '{' :: rest => do
      let (name, rest) ← braceName? rest
      match rest with
      | '}' :: rest => return (.parameter quoted name .value [], rest)
      | _ =>
        let (form, rest) ← formOf? rest
        let trims := match form with
          | .trimStart _ | .trimEnd _ => true
          | _ => false
        let (word, rest) ← parts? fuel (if quoted && !trims then .braceInDouble else .brace) rest
        return (.parameter quoted name form word, rest.drop 1)
    | c :: rest =>
      if isNameStart c then
        some (.parameter quoted (text.takeWhile isNameChar) .value [], text.dropWhile isNameChar)
      else if Text.isDigit c || isSpecial c then some (.parameter quoted [c] .value [], rest)
      else some (if quoted then .quoted '$' else .plain '$', text)
    | [] => some (if quoted then .quoted '$' else .plain '$', [])

/-- Reads one word, which must have a first character. -/
def word? : Nat → List Char → Option (Word × List Char)
  | 0, _ => none
  | fuel + 1, text =>
    match text with
    | [] => none
    | c :: rest => if Mode.bare.stopsAt c rest then none else parts? fuel .bare text

/-- Reads the redirections at the front. -/
def redirects? : Nat → List Char → Option (List Redirect × List Char)
  | 0, _ => none
  | fuel + 1, text =>
    match redirectOperator? (skipBlanks text) with
    | none => some ([], text)
    | some (descriptor, direction, strip, rest) => do
      let (target, rest) ← word? fuel (skipBlanks rest)
      let (target, rest) ←
        if direction = .document then do
          let (body, after) := takeDocument strip (literalText target)
            (linesOf ((rest.dropWhile (· != '\n')).drop 1))
          let isPlain := target.all fun part => match part with
            | .plain _ => true
            | _ => false
          let (body, _) ← if isPlain then parts? fuel .document body
            else some (body.map Part.quoted, [])
          pure (body, rest.takeWhile (· != '\n') ++ '\n' :: after.flatMap (· ++ ['\n']))
        else pure (target, rest)
      let (others, rest) ← redirects? fuel rest
      return (.mk descriptor direction target :: others, rest)

/-- Reads words up to the end of the command. -/
def words? : Nat → List Char → Option (List Word × List Char)
  | 0, _ => none
  | fuel + 1, text =>
    match word? fuel (skipBlanks text) with
    | none => some ([], text)
    | some (word, rest) => do
      let (words, rest) ← words? fuel rest
      return (word :: words, rest)

/-- Reads the rest of a simple command behind what is known of it. -/
def simple? : Nat → List (List Char × Word) → List Word → List Redirect → List Char →
    Option (Command × List Char)
  | 0, _, _, _, _ => none
  | fuel + 1, assignments, words, redirects, text => do
    let (found, rest) ← redirects? fuel text
    if found ≠ [] then simple? fuel assignments words (redirects ++ found) rest
    else
      let ahead := skipBlanks text
      match ahead with
      | [] => if words.isEmpty && assignments.isEmpty && redirects.isEmpty then none
              else some (.simple assignments words redirects, ahead)
      | c :: others =>
        if Mode.bare.stopsAt c others then
          if c = '(' then none
          else if words.isEmpty && assignments.isEmpty && redirects.isEmpty then none
          else some (.simple assignments words redirects, ahead)
        else
          let (word, rest) ← word? fuel ahead
          match assignment? word with
          | some assignment =>
            if words.isEmpty then simple? fuel (assignments ++ [assignment]) words redirects rest
            else simple? fuel assignments (words ++ [word]) redirects rest
          | none => simple? fuel assignments (words ++ [word]) redirects rest

/-- Reads commands up to something that closes their list. -/
def list? : Nat → List Char → Option (List Command × List Char)
  | 0, _ => none
  | fuel + 1, text =>
    let text := skipBreaks false text
    if closes text then some ([], text)
    else do
      let (command, rest) ← andOr? fuel text
      match skipBlanks rest with
      | ';' :: ';' :: others => return ([command], ';' :: ';' :: others)
      | '&' :: rest =>
        let (commands, rest) ← list? fuel rest
        return (.background command :: commands, rest)
      | ';' :: rest =>
        let (commands, rest) ← list? fuel rest
        return (command :: commands, rest)
      | '\n' :: rest =>
        let (commands, rest) ← list? fuel rest
        return (command :: commands, rest)
      | rest => return ([command], rest)

/-- Reads a list that must hold a command. -/
def body? : Nat → List Char → Option (List Command × List Char)
  | 0, _ => none
  | fuel + 1, text => do
    let (commands, rest) ← list? fuel text
    if commands.isEmpty then none else return (commands, rest)

def andOr? : Nat → List Char → Option (Command × List Char)
  | 0, _ => none
  | fuel + 1, text => do
    let (first, rest) ← pipeline? fuel text
    chain? fuel first rest

def chain? : Nat → Command → List Char → Option (Command × List Char)
  | 0, _, _ => none
  | fuel + 1, first, text =>
    match skipBlanks text with
    | '&' :: '&' :: rest => do
      let (second, rest) ← pipeline? fuel (skipBreaks false rest)
      chain? fuel (.conjunction first second) rest
    | '|' :: '|' :: rest => do
      let (second, rest) ← pipeline? fuel (skipBreaks false rest)
      chain? fuel (.disjunction first second) rest
    | rest => some (first, rest)

def pipeline? : Nat → List Char → Option (Command × List Char)
  | 0, _ => none
  | fuel + 1, text =>
    match keyword? text with
    | some ("!", rest) => do
      let (command, rest) ← pipeline? fuel (skipBlanks rest)
      return (.negation command, rest)
    | _ => do
      let (stages, rest) ← stages? fuel text
      match stages with
      | [single] => return (single, rest)
      | _ => return (.pipeline stages, rest)

def stages? : Nat → List Char → Option (List Command × List Char)
  | 0, _ => none
  | fuel + 1, text => do
    let (first, rest) ← command? fuel text
    match skipBlanks rest with
    | '|' :: '|' :: others => return ([first], '|' :: '|' :: others)
    | '|' :: rest =>
      let (others, rest) ← stages? fuel (skipBreaks false rest)
      return (first :: others, rest)
    | rest => return ([first], rest)

/-- Reads a simple or compound command with its redirections. -/
def command? : Nat → List Char → Option (Command × List Char)
  | 0, _ => none
  | fuel + 1, text =>
    match keyword? text, text, functionName? text with
    | some (word, rest), _, _ => do
      let (command, rest) ← compound? fuel word rest
      let (redirects, rest) ← redirects? fuel rest
      return (if redirects.isEmpty then command else .redirected command redirects, rest)
    | none, '(' :: rest, _ => do
      let (body, rest) ← body? fuel rest
      match skipBreaks false rest with
      | ')' :: rest =>
        let (redirects, rest) ← redirects? fuel rest
        return (if redirects.isEmpty then .subshell body
          else .redirected (.subshell body) redirects, rest)
      | _ => none
    | none, _, some (name, rest) => do
      let (body, rest) ← command? fuel (skipBreaks false rest)
      return (.define name body, rest)
    | none, _, none => simple? fuel [] [] [] text

/-- Reads a compound command behind its first word. -/
def compound? : Nat → String → List Char → Option (Command × List Char)
  | 0, _, _ => none
  | fuel + 1, "if", text => do
    let (test, rest) ← body? fuel text
    let rest ← expect? "then" rest
    let (accepted, rest) ← body? fuel rest
    match keyword? (skipBreaks false rest) with
    | some ("fi", rest) => return (.conditional test accepted [], rest)
    | some ("elif", rest) =>
      let (refused, rest) ← compound? fuel "if" rest
      return (.conditional test accepted [refused], rest)
    | some ("else", rest) =>
      let (refused, rest) ← body? fuel rest
      let rest ← expect? "fi" rest
      return (.conditional test accepted refused, rest)
    | _ => none
  | fuel + 1, "\x7b", text => do
    let (body, rest) ← body? fuel text
    let rest ← expect? "\x7d" rest
    return (.group body, rest)
  | fuel + 1, "for", text => do
    let text := skipBlanks text
    let name := text.takeWhile isNameChar
    if !(name.head?.any isNameStart) then none
    let rest := skipBreaks false (text.dropWhile isNameChar)
    let (words, rest) ←
      match rest with
      | 'i' :: 'n' :: rest => do
        let (words, rest) ← words? fuel rest
        match skipBlanks rest with
        | ';' :: rest => pure (some words, rest)
        | '\n' :: rest => pure (some words, rest)
        | _ => none
      | ';' :: rest => pure (none, rest)
      | rest => pure (none, rest)
    let rest ← expect? "do" rest
    let (body, rest) ← body? fuel rest
    let rest ← expect? "done" rest
    return (.each name words body, rest)
  | fuel + 1, "case", text => do
    let (word, rest) ← word? fuel (skipBlanks text)
    match skipBreaks false rest with
    | 'i' :: 'n' :: rest =>
      let (cases, rest) ← cases? fuel rest
      return (.choice word cases, rest)
    | _ => none
  | fuel + 1, keyword, text =>
    if keyword = "while" ∨ keyword = "until" then do
      let (test, rest) ← body? fuel text
      let rest ← expect? "do" rest
      let (body, rest) ← body? fuel rest
      let rest ← expect? "done" rest
      return (.loop (keyword == "until") test body, rest)
    else none

/-- Reads the branches of a choice and its last word. -/
def cases? : Nat → List Char → Option (List (List Word × List Command) × List Char)
  | 0, _ => none
  | fuel + 1, text =>
    let text := skipBreaks false text
    match keyword? text with
    | some ("esac", rest) => some ([], rest)
    | _ => do
      let (patterns, rest) ← patterns? fuel (match text with
        | '(' :: rest => skipBlanks rest
        | text => text)
      let (body, rest) ← list? fuel rest
      match skipBreaks false rest with
      | ';' :: ';' :: rest =>
        let (cases, rest) ← cases? fuel rest
        return ((patterns, body) :: cases, rest)
      | rest =>
        let rest ← expect? "esac" rest
        return ([(patterns, body)], rest)

/-- Reads the patterns of a branch and the parenthesis behind them. -/
def patterns? : Nat → List Char → Option (List Word × List Char)
  | 0, _ => none
  | fuel + 1, text => do
    let (pattern, rest) ← word? fuel text
    match skipBlanks rest with
    | ')' :: rest => return ([pattern], rest)
    | '|' :: rest =>
      let (patterns, rest) ← patterns? fuel (skipBlanks rest)
      return (pattern :: patterns, rest)
    | _ => none

end

/-- Reads the commands of one line. -/
def line? (fuel : Nat) : Nat → List Char → Option (List Command × List Char)
  | 0, _ => none
  | limit + 1, text => do
    let (command, rest) ← andOr? fuel text
    let (command, rest, separated) := match skipBlanks rest with
      | ';' :: rest => (command, rest, true)
      | '&' :: rest => (.background command, rest, true)
      | rest => (command, rest, false)
    match skipBlanks rest with
    | [] => return ([command], [])
    | '\n' :: rest => return ([command], rest)
    | rest =>
      if separated then
        let (commands, rest) ← line? fuel limit rest
        return (command :: commands, rest)
      else none

/-- The commands of a text up to the first line with a fault, and whether there was none. -/
def scriptLines (fuel : Nat) : Nat → List Char → List Command × Bool
  | 0, _ => ([], false)
  | limit + 1, text =>
    match skipBreaks false text with
    | [] => ([], true)
    | text =>
      match line? fuel fuel text with
      | none => ([], false)
      | some (commands, rest) =>
        let (others, whole) := scriptLines fuel limit rest
        (commands ++ others, whole)

/-- Reads a script. Every step of the reader that does not go down one level of the grammar
takes a character, and there are fewer levels than the factor. -/
def script (text : List Char) : List Command × Bool :=
  let fuel := 16 * (text.length + 2)
  scriptLines fuel fuel text

end EdgeReveal.Shell
