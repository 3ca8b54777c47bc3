import ScriptShell.Sh.Word
/-!
# Commands

The commands of a program text: simple commands, and those built from others. Reserved words count
only where a command may start. A text that is no program is refused as a whole.
-/

namespace ScriptShell.Sh

/-- Where a stream of a command goes to or comes from. -/
structure Redirect where
  stream : Nat
  kind : Redirection
  target : Word
deriving Repr, DecidableEq, Inhabited

inductive Command
  | empty
  | simple (line : Nat) (words : List Word) (redirects : List Redirect)
  /-- run apart, so that it changes nothing here -/
  | subshell (body : Command) (redirects : List Redirect)
  | group (body : Command) (redirects : List Redirect)
  | pipe (left right : Command)
  | not (c : Command)
  | and (left right : Command)
  | or (left right : Command)
  | background (c : Command)
  | sequence (first second : Command)
  | conditional (test yes no : Command)
  /-- repeated while the test comes out as `expected` -/
  | loop (expected : Bool) (test body : Command)
  | each (name : String) (words : Option (List Word)) (body : Command)
deriving Inhabited

/-- What a parser leaves: the tokens not yet read, with their lines. -/
abbrev Rest := List (Nat × Token)

/-- The reserved word at the start, if there is one. -/
def reserved? : Rest → Option String
  | (_, .word w) :: _ =>
    match plainText? w with
    | some t =>
      if t = "\x7b" || t = "\x7d" ||
          ["!", "if", "then", "else", "elif", "fi", "while", "until", "do", "done", "for",
            "in", "case", "esac"].contains t then some t
      else none
    | none => none
  | _ => none

/-- Passes over one reserved word. -/
def expectWord (word : String) (ts : Rest) : Option Rest :=
  if reserved? ts = some word then some ts.tail else none

/-- Passes over line ends. -/
def skipLines (ts : Rest) : Rest := ts.dropWhile (fun t => t.2 == .op "\n")

/-- The redirections at the start. -/
def redirects : Rest → List Redirect × Rest
  | (_, .redirect stream kind) :: (_, .word w) :: rest =>
    let (more, rest) := redirects rest
    (⟨stream, kind, w⟩ :: more, rest)
  | ts => ([], ts)

/-- The words and redirections of a simple command. -/
def simpleParts : Rest → List Word × List Redirect × Rest
  | (_, .redirect stream kind) :: (_, .word w) :: rest =>
    let (words, redirects, rest) := simpleParts rest
    (words, ⟨stream, kind, w⟩ :: redirects, rest)
  | (_, .word w) :: rest =>
    let (words, redirects, rest) := simpleParts rest
    (w :: words, redirects, rest)
  | ts => ([], [], ts)

/-- Whether a list of commands ends here. -/
def endsList (ts : Rest) : Bool :=
  match ts with
  | [] => true
  | (_, .op t) :: _ => t = ")"
  | _ =>
    match reserved? ts with
    | some w => w = "\x7d" || ["then", "else", "elif", "fi", "do", "done", "esac"].contains w
    | none => false

/-- The operators between commands, which a parser of commands is asked for. -/
inductive Tier
  | list | chain | pipeline | command
deriving DecidableEq

/-- Reads what a tier of the grammar admits. -/
def parse : Nat → Tier → Rest → Option (Command × Rest)
  | 0, _, _ => none
  | fuel + 1, .list, ts =>
    let ts := skipLines ts
    if endsList ts then some (.empty, ts)
    else do
      let (c, ts) ← parse fuel .chain ts
      match ts with
      | (_, .op "&") :: ts =>
        let (more, ts) ← parse fuel .list ts
        some (.sequence (.background c) more, ts)
      | (_, .op t) :: ts' =>
        if t = ";" || t = "\n" then
          let (more, ts) ← parse fuel .list ts'
          some (.sequence c more, ts)
        else some (c, ts)
      | _ => some (c, ts)
  | fuel + 1, .chain, ts => do
    let (first, ts) ← parse fuel .pipeline ts
    chain fuel first ts
  | fuel + 1, .pipeline, ts => do
    if reserved? ts = some "!" then
      let (c, ts) ← parse fuel .pipeline ts.tail
      some (.not c, ts)
    else
      let (c, ts) ← parse fuel .command ts
      match ts with
      | (_, .op "|") :: ts =>
        let (more, ts) ← parse fuel .pipeline (skipLines ts)
        some (.pipe c more, ts)
      | _ => some (c, ts)
  | fuel + 1, .command, ts =>
    match ts with
    | (_, .op "(") :: ts => do
      let (body, ts) ← parse fuel .list ts
      match ts with
      | (_, .op ")") :: ts =>
        let (rs, ts) := redirects ts
        some (.subshell body rs, ts)
      | _ => none
    | _ =>
      match reserved? ts with
      | some "if" => branch fuel ts.tail
      | some "while" => repeated fuel true ts.tail
      | some "until" => repeated fuel false ts.tail
      | some "for" =>
        match ts.tail with
        | (_, .word w) :: ts => do
          let name ← plainText? w
          let ts := skipLines ts
          let (words, ts) ← match reserved? ts with
            | some "in" =>
              let (words, _, ts) := simpleParts ts.tail
              some (some words, ts)
            | _ => some (none, ts)
          let ts := skipLines (match ts with
            | (_, .op ";") :: ts => ts
            | ts => ts)
          let ts ← expectWord "do" ts
          let (body, ts) ← parse fuel .list ts
          let ts ← expectWord "done" ts
          let (rs, ts) := redirects ts
          some (.group (.each name words body) rs, ts)
        | _ => none
      | some w =>
        if w = "\x7b" then do
          let (body, ts) ← parse fuel .list ts.tail
          let ts ← expectWord "\x7d" ts
          let (rs, ts) := redirects ts
          some (.group body rs, ts)
        else if w = "in" then plain ts
        else none
      | none => plain ts
where
  /-- A simple command, which has a word or a redirection at least. -/
  plain (ts : Rest) : Option (Command × Rest) :=
    let (words, redirects, rest) := simpleParts ts
    if words.isEmpty && redirects.isEmpty then none
    else some (.simple ((ts.head?.map (·.1)).getD 1) words redirects, rest)
  /-- What follows a pipeline in a chain, to the left of it. -/
  chain (fuel : Nat) (first : Command) (ts : Rest) : Option (Command × Rest) :=
    match fuel with
    | 0 => none
    | fuel + 1 =>
      match ts with
      | (_, .op "&&") :: ts => do
        let (c, ts) ← parse fuel .pipeline (skipLines ts)
        chain fuel (.and first c) ts
      | (_, .op "||") :: ts => do
        let (c, ts) ← parse fuel .pipeline (skipLines ts)
        chain fuel (.or first c) ts
      | _ => some (first, ts)
  /-- A conditional, after the word that opens it. -/
  branch (fuel : Nat) (ts : Rest) : Option (Command × Rest) :=
    match fuel with
    | 0 => none
    | fuel + 1 => do
      let (test, ts) ← parse fuel .list ts
      let ts ← expectWord "then" ts
      let (yes, ts) ← parse fuel .list ts
      match reserved? ts with
      | some "elif" =>
        let (no, ts) ← branch fuel ts.tail
        some (.conditional test yes no, ts)
      | some "else" =>
        let (no, ts) ← parse fuel .list ts.tail
        let ts ← expectWord "fi" ts
        let (rs, ts) := redirects ts
        some (.group (.conditional test yes no) rs, ts)
      | _ =>
        let ts ← expectWord "fi" ts
        let (rs, ts) := redirects ts
        some (.group (.conditional test yes .empty) rs, ts)
  /-- A loop, after the word that opens it. -/
  repeated (fuel : Nat) (expected : Bool) (ts : Rest) : Option (Command × Rest) :=
    match fuel with
    | 0 => none
    | fuel + 1 => do
      let (test, ts) ← parse fuel .list ts
      let ts ← expectWord "do" ts
      let (body, ts) ← parse fuel .list ts
      let ts ← expectWord "done" ts
      let (rs, ts) := redirects ts
      some (.group (.loop expected test body) rs, ts)

/-- The command that a program text is; nothing if it is none. -/
def Command.ofText? (text : String) : Option Command := do
  let ts ← tokenize? text
  match parse (8 * (ts.length + 2)) .list ts with
  | some (c, []) => some c
  | _ => none

end ScriptShell.Sh
