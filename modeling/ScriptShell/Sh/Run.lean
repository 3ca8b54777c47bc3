import ScriptShell.Program.Execute
import ScriptShell.Program.Search
import ScriptShell.Program.Tools
import ScriptShell.Sh.Expand
/-!
# Running commands

A command interpreter runs the commands of its program text one after another. Commands built into
it act on its own state; all others are programs that it starts and waits for. A job runs at once
and to its end; only its status is kept until it is asked for.
-/

namespace ScriptShell.Sh

open Program

/-- The complaint of an interpreter, with the line it is about. -/
def complain (line : Nat) (text : String) : Run Unit :=
  modify fun s =>
    { s with process := s.process.complain (s.name ++ ": " ++ toString line ++ ": " ++ text ++ "\n") }

def setStatus (n : Nat) : Run Unit := modify fun s => { s with status := n }

/-- The status that an ending is seen as. -/
def endingStatus : Ending → Nat
  | .exited code => code % 256
  | .signaled s => 128 + s.number

/-- What a process that has ended leaves to the one that started it. -/
def inherit (before after : Process) : Process :=
  { before with
    disk.tree := after.disk.tree, input := after.input, written := after.written
    piped := after.piped, sentToShell := after.sentToShell }

/-- What is wrong with a text that is no program. -/
def syntaxComplaint (text : String) : String :=
  "Syntax error: " ++
    match tokenize? text with
    | none => "Unterminated quoted string"
    | some _ => "end of file unexpected"

/-! ## Redirections -/

/-- Opens what a redirection names, or says why not. -/
def redirectTo (p : Process) (kind : Redirection) (stream : Nat) (target : String) :
    Except String Process :=
  let attach := fun (p : Process) (sink : Sink) =>
    if stream = 2 then { p with err := sink } else { p with out := sink }
  match kind with
  | .input =>
    match p.disk.readBytes target with
    | .ok bytes => .ok { p with input := bytes }
    | .error (.system e) =>
      .error ("cannot open " ++ target ++ ": " ++
        (if e = .noEntry then "No such file" else e.libraryText))
    | .error _ => .error ("cannot open " ++ target ++ ": No such file")
  | .duplicate =>
    match target with
    | "1" => .ok (attach p p.out)
    | "2" => .ok (attach p p.err)
    | _ => .ok (attach p (.file nullDevice))
  | .output | .append =>
    match p.disk.writeTarget target with
    | .ok (place, _) =>
      let kept := if kind = .append then ((p.disk.readBytes target).toOption).getD ByteArray.empty
        else ByteArray.empty
      if place = nullDevice then .ok (attach p (.file place))
      else
        match p.disk.writeBytes target kept with
        | .ok d => .ok (attach { p with disk := d } (.file place))
        | .error _ => .error ("cannot create " ++ target ++ ": Permission denied")
    | .error (.system e) =>
      .error ("cannot create " ++ target ++ ": " ++
        (if e = .noEntry then "Directory nonexistent" else e.libraryText))
    | .error _ => .error ("cannot create " ++ target ++ ": Directory nonexistent")

/-- Runs something with its streams redirected, and puts the streams back. If a redirection fails
it is not run. -/
def withRedirects (output : String → Run String) (line : Nat) (rs : List Redirect)
    (body : Run Unit) : Run Unit := do
  let before := (← get).process
  let restore : Run Unit := modify fun s =>
    { s with process := { s.process with
        out := before.out, err := before.err
        input := if rs.any (·.kind == .input) then before.input else s.process.input } }
  let mut good := true
  for r in rs do
    if good then
      let target ← expandText output r.target
      match redirectTo (← get).process r.kind r.stream target with
      | .ok p => modify fun s => { s with process := p }
      | .error why => do
        restore
        complain line why
        setStatus 2
        good := false
  if good then
    try body catch stop => do
      restore
      throw stop
    restore

/-! ## Processes apart -/

/-- Runs something on a copy of the state: its effects on files and streams stay, the state does
not. Its end gives the status. -/
def apart (adapt : Process → Process) (body : Run Unit) : Run Process := do
  let s ← get
  let (result, after) := (body.run).run { s with process := adapt s.process, jobs := [] }
  set { s with process := inherit s.process after.process }
  match result with
  | .ok () => setStatus after.status
  | .error (.exited code) => setStatus (code % 256)
  | .error (.signaled g) => throw (.signaled g)
  | .error .exhausted => throw .exhausted
  | .error _ => setStatus after.status
  pure after.process

/-- The bytes that something writes when it runs apart. -/
def captured (body : Run Unit) : Run ByteArray := do
  let before := (← get).process.piped
  let p ← apart (fun p => { p with out := .pipe, piped := ByteArray.empty }) body
  modify fun s => { s with process.piped := before }
  pure p.piped

/-! ## Programs -/

/-- Runs the program with these arguments and gives its ending. Complaints name the built-in command
that asked for it, if one did. -/
def external (nested : Behaviour) (line : Nat) (asked : String) (argv : List String) :
    Run Ending := do
  let s ← get
  let program := argv.head?.getD ""
  let d := s.process.disk
  let missing : Run Ending := do
    complain line (asked ++ program ++ ": not found")
    pure (.exited 127)
  let refused : Run Ending := do
    complain line (asked ++ program ++ ": Permission denied")
    pure (.exited 126)
  let start := fun (u : Utility) (argv : List String) => do
    let p := s.process
    let (ending, after) := Tools.behaviour nested u argv { p with id := p.id + 1, parent := p.id }
    modify fun s => { s with process := inherit s.process after }
    pure ending
  let path? := if isPath program then (if d.pathExists program then some program else none)
    else (find d (s.value? "PATH") program).toOption
  match path? with
  | none => missing
  | some path =>
    match resolveImage d interpreterDepth path argv with
    | .ok (u, argv) => start u argv
    | .error e =>
      if e = .execFormat then start .sh ("sh" :: path :: argv.tail)
      else if e = .noEntry then missing
      else refused

/-! ## Built-in commands -/

/-- A signal by name or number. -/
def signalOf? (text : String) : Option Signal :=
  match text.toNat? with
  | some n => some ⟨n⟩
  | none => Signal.ofName? (text.map Char.toUpper)

/-- Takes a signal that the interpreter sent itself. -/
def receive (runText : String → Run Unit) (g : Signal) : Run Unit := do
  let s ← get
  let trapped := s.traps.find? fun t => signalOf? t.1 == some g
  if g.number = 0 || (g ≠ .kill && (g.action ≠ .terminate || s.process.ignored.contains g)) then
    pure ()
  else
    match trapped with
    | some (_, action) => if g = .kill then throw (.signaled g) else runText action
    | none => throw (.signaled g)

/-- Sends a signal to a process. -/
def send (runText : String → Run Unit) (g : Signal) (target : String) : Run Unit := do
  let s ← get
  if target = toString s.process.id then receive runText g
  else if target = toString shellNumber then
    set { s with process.sentToShell := g :: s.process.sentToShell }

def kill (runText : String → Run Unit) (line : Nat) (args : List String) : Run Unit := do
  let (name, targets) := match args with
    | "-s" :: name :: rest => (name, rest)
    | a :: rest => if a.startsWith "-" then ((a.drop 1).toString, rest) else ("TERM", args)
    | [] => ("TERM", [])
  match signalOf? name with
  | none => do
    complain line ("Illegal option -" ++ name)
    setStatus 2
  | some g => do
    setStatus 0
    for target in targets do
      send runText g target

/-- What an ordinary program of the same name does too. -/
def byTool (tool : Process → Ending × Process) : Run Unit := do
  let s ← get
  let (ending, p) := tool s.process
  set { s with process := p, status := endingStatus ending }

/-- Runs a built-in command; `none` if there is none of this name. -/
def builtin? (runText : String → Run Unit) (start : String → List String → Run Ending) (line : Nat)
    (name : String) (args : List String) : Option (Run Unit) :=
  match name with
  | ":" | "true" | "ulimit" | "umask" => some (setStatus 0)
  | "false" => some (setStatus 1)
  | "echo" => some (byTool fun p => (.exited 0, p.writeTo p.out (Format.echo args)))
  | "printf" =>
    some (match args with
      | [] => do
        complain line "printf: usage: printf format [arg ...]"
        setStatus 2
      | format :: rest => byTool fun p => (.exited 0, p.writeTo p.out (Format.printf format rest)))
  | "test" => some (byTool (Tools.test args))
  | "[" => some (byTool (Tools.test args.dropLast))
  | "pwd" => some (byTool fun p => (.exited 0, p.print (p.disk.directoryPath ++ "\n")))
  | "exit" => some do
    let s ← get
    throw (.exited ((args.head?.bind (·.toNat?)).getD s.status))
  | "break" => some (throw (.leaveLoop ((args.head?.bind (·.toNat?)).getD 1)))
  | "continue" => some (throw (.nextRound ((args.head?.bind (·.toNat?)).getD 1)))
  | "cd" => some do
    let s ← get
    let target := args.head?.getD ((s.value? "HOME").getD "")
    match s.process.disk.changeDirectory target with
    | .ok d => set { s with process.disk := d, status := 0 }
    | .error _ => do
      complain line ("cd: can't cd to " ++ target)
      setStatus 2
  | "kill" => some (kill runText line args)
  | "wait" => some do
    let s ← get
    match args with
    | [] => setStatus 0
    | _ => setStatus ((args.getLast?.bind (·.toNat?)).bind s.job? |>.getD 127)
  | "shift" => some (modify fun s =>
      { s with args := s.args.drop ((args.head?.bind (·.toNat?)).getD 1), status := 0 })
  | "set" => some (modify fun s =>
      match args with
      | "-e" :: _ => { s with exitOnFailure := true, status := 0 }
      | "+e" :: _ => { s with exitOnFailure := false, status := 0 }
      | "--" :: rest => { s with args := rest, status := 0 }
      | a :: _ => if a.startsWith "-" then { s with status := 0 } else { s with args, status := 0 }
      | [] => { s with status := 0 })
  | "export" => some (modify fun s =>
      args.foldl (fun s a =>
        match a.toList.splitOn '=' with
        | [_] => s.share a
        | n :: rest =>
          (s.assign (String.ofList n) (String.ofList ("=".toList.intercalate rest))).share
            (String.ofList n)
        | [] => s) { s with status := 0 })
  | "unset" => some (modify fun s => args.foldl State.unassign { s with status := 0 })
  | "eval" => some (runText (" ".intercalate args))
  | "exec" => some do
    match args with
    | [] => setStatus 0
    | _ =>
      match ← start "exec: " args with
      | .exited code => throw (.exited code)
      | .signaled g => throw (.signaled g)
  | "command" => some do setStatus (endingStatus (← start "" args))
  | "trap" => some (modify fun s =>
      match args with
      | action :: signals =>
        { s with
          traps := signals.map (·, action) ++ s.traps.filter (fun t => !signals.contains t.1)
          status := 0 }
      | [] => { s with status := 0 })
  | _ => none

/-! ## Commands -/

/-- The name and the value of a word that is an assignment. -/
def assignment? : Word → Option (String × Word)
  | .text first false :: rest =>
    let isLetter := fun (p : Part) =>
      match p with
      | .text s false => s.toList.all isNameChar
      | _ => false
    let name := (Part.text first false :: rest).takeWhile isLetter
    match (Part.text first false :: rest).dropWhile isLetter with
    | .text "=" false :: value =>
      if name.isEmpty || !(first.toList.all isNameStart) then none
      else (plainText? name).map fun n => (n, value)
    | _ => none
  | _ => none

/-- Ends the run if a command failed that must not. -/
def checkFailure (checked : Bool) : Run Unit := do
  let s ← get
  if checked && s.exitOnFailure && s.status != 0 then throw (.exited s.status)

/-- How a loop goes on after a round that was stopped: whether there is another round. -/
def afterRound (stop : Stop) : Run Bool :=
  match stop with
  | .leaveLoop n => if n ≤ 1 then pure false else throw (.leaveLoop (n - 1))
  | .nextRound n => if n ≤ 1 then pure true else throw (.nextRound (n - 1))
  | other => throw other

/-- Runs a command. A failure of a command that is `checked` may end the run. -/
def run (nested : Behaviour) : Nat → Bool → Command → Run Unit
  | 0, _, _ => throw .exhausted
  | fuel + 1, checked, c =>
    let runText := fun (text : String) =>
      match Command.ofText? text with
      | some c => run nested fuel true c
      | none => do
        complain 1 (syntaxComplaint text)
        throw (.exited 2)
    let output := fun (text : String) => do
      pure ((String.fromUTF8? (← captured (runText text))).getD "")
    let round := fun (body : Command) => do
      try
        run nested fuel checked body
        pure true
      catch stop => afterRound stop
    match c with
    | .empty => pure ()
    | .simple line words rs => do
      let assignments := (words.map assignment?).takeWhile Option.isSome |>.filterMap id
      unless assignments.isEmpty do setStatus 0
      let args ← expandWords output (words.drop assignments.length)
      let values ← assignments.mapM fun (n, w) => do pure (n, ← expandText output w)
      withRedirects output line rs (do
        match args with
        | [] =>
          if words.isEmpty then setStatus 0
          modify fun s => values.foldl (fun s (n, v) => s.assign n v) s
        | name :: rest =>
          let start := external nested line
          match builtin? runText start line name rest with
          | some body => do
            modify fun s => values.foldl (fun s (n, v) => s.assign n v) s
            body
          | none => do
            let before ← get
            modify fun s => values.foldl (fun s (n, v) => (s.assign n v).share n) s
            let ending ← start "" args
            modify fun s =>
              { s with
                values := before.values
                process.environment := before.process.environment
                status := endingStatus ending })
      checkFailure checked
    | .subshell body rs => do
      withRedirects output 1 rs (do let _ ← apart id (run nested fuel checked body))
      checkFailure checked
    | .group body rs => withRedirects output 1 rs (run nested fuel checked body)
    | .pipe left right => do
      let bytes ← captured (run nested fuel false left)
      let _ ← apart (fun p => { p with input := bytes }) (run nested fuel false right)
      checkFailure checked
    | .not c => do
      run nested fuel false c
      modify fun s => { s with status := if s.status = 0 then 1 else 0 }
    | .and left right => do
      run nested fuel false left
      if (← get).status = 0 then run nested fuel checked right
    | .or left right => do
      run nested fuel false left
      if (← get).status ≠ 0 then run nested fuel checked right
    | .background c => do
      let before := (← get).process.input
      let _ ← apart (fun p => { p with input := ByteArray.empty }) (run nested fuel true c)
      modify fun s =>
        { s with
          jobs := (s.process.id + s.jobs.length + 100, s.status) :: s.jobs
          process.input := before, status := 0 }
    | .sequence first second => do
      run nested fuel checked first
      run nested fuel checked second
    | .conditional test yes no => do
      run nested fuel false test
      if (← get).status = 0 then run nested fuel checked yes
      else
        setStatus 0
        run nested fuel checked no
    | .loop expected test body => do
      run nested fuel false test
      if ((← get).status = 0) = (expected = true) then
        if ← round body then run nested fuel checked (.loop expected test body)
      else setStatus 0
    | .each name words body => do
      let values ← match words with
        | some words => expandWords output words
        | none => do pure (← get).args
      let mut going := true
      for value in values do
        if going then
          modify fun s => s.assign name value
          going := (← round body)

/-! ## The interpreter as a program -/

/-- How many steps deep a run may go. -/
def runLimit : Nat := 100000

/-- Runs a program text to the end of the process. -/
def runProgramText (nested : Behaviour) (text : String) (s : State) : Ending × Process :=
  match Command.ofText? text with
  | none =>
    (Ending.exited 2, s.process.complain (s.name ++ ": 1: " ++ syntaxComplaint text ++ "\n"))
  | some c =>
    let (result, s) := ((run nested runLimit true c).run).run s
    let ending : Ending := match result with
      | .ok () => .exited s.status
      | .error stop => stop.ending s.status
    match ending, (s.traps.find? fun t => t.1 == "EXIT" || t.1 == "0").map (·.2) with
    | .exited code, some action =>
      match Command.ofText? action with
      | some c =>
        let (result, s) := ((run nested runLimit true c).run).run { s with traps := [] }
        match result with
        | .error (.exited code) => (.exited code, s.process)
        | .error (.signaled g) => (.signaled g, s.process)
        | _ => (.exited code, s.process)
      | none => (.exited code, s.process)
    | ending, _ => (ending, s.process)

/-- Splits the options at the start of the arguments off: their letters, and the rest. -/
def options : List String → List Char × List String
  | "--" :: rest => ([], rest)
  | a :: rest =>
    if a.startsWith "-" && a ≠ "-" then
      let (letters, rest) := options rest
      (a.toList.tail ++ letters, rest)
    else ([], a :: rest)
  | [] => ([], [])

/-- The behaviour of the command interpreter, which may start itself to a depth. -/
def behaviour : Nat → Behaviour
  | 0, _, p => (.exited 2, p)
  | depth + 1, argv, p =>
    let own := argv.head?.getD "sh"
    let (letters, operands) := options argv.tail
    let state := fun (name : String) (args : List String) =>
      { process := p, name, args, values := p.environment
        exitOnFailure := letters.contains 'e' : State }
    let refuse := fun (text : String) =>
      ((.exited 2, p.complain (own ++ ": 0: " ++ text ++ "\n")) : Ending × Process)
    if letters.contains 'c' then
      match operands with
      | [] => refuse "-c requires an argument"
      | text :: rest =>
        runProgramText (behaviour depth) text (state (rest.head?.getD own) rest.tail)
    else
      match operands with
      | [] =>
        runProgramText (behaviour depth) ((String.fromUTF8? p.input).getD "") (state own [])
      | file :: rest =>
        match p.disk.readText file with
        | .ok text => runProgramText (behaviour depth) text (state file rest)
        | .error _ => refuse ("cannot open " ++ file ++ ": No such file")

/-- How deep interpreters may start interpreters. -/
def interpreterLimit : Nat := 20

/-- The command interpreter. -/
def interpreter : Behaviour := behaviour interpreterLimit

end ScriptShell.Sh
