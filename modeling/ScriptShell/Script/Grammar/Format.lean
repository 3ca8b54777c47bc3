import ScriptShell.Script.Grammar.Atom
/-!
# Formatted texts

The pieces of a formatted text: text, and expressions between braces, each with a conversion and a
format of its own if it has them.
-/

namespace ScriptShell.Script

namespace Grammar

open Reading

section
variable (g : Grammar)

/-- One expression inside braces, after the brace that opens it, with the text shown before its
value if it asks for that. -/
def formatValue (raw inner : Bool) (cs : List Char) :
    Reading (List FormatPart × List Char) := do
  let invalid {α : Type} : Reading α := throw (.fault .invalid)
  match expressionPart (cs.length + 1) .none [] cs with
  | .none => invalid
  | some (source, rest) =>
    if source.all (fun c => c = ' ' || c = '\t' || c = '\n' || c = '\x0c' || c = '\r') then invalid
    let e ← among (Tokens.ofBracketed source) (do
      let e ← g.starExpressions
      expectMark .newline
      expectMark .endOfText
      pure e)
    let (shown, rest) := match rest with
      | '=' :: r =>
        let blanks := r.takeWhile (fun c => c = ' ' || c = '\t' || c = '\n')
        ([FormatPart.text (String.ofList (source ++ '=' :: blanks))], r.drop blanks.length)
      | r => ([], r)
    let (conversion, rest) ← match rest with
      | '!' :: c :: r =>
        if c = 's' || c = 'r' || c = 'a' then pure (some c, r) else invalid
      | '!' :: [] => invalid
      | r => pure (.none, r)
    let (spec, hasSpec, rest) ← match rest with
      | ':' :: r => do
        if inner then invalid
        let (spec, r) ← g.formatParts raw true r
        pure (spec, true, r)
      | r => pure ([], false, r)
    let conversion := if shown.isEmpty || conversion.isSome || hasSpec then conversion else some 'r'
    match rest with
    | c :: rest =>
      if c = '\x7d' then pure (shown ++ [.value e conversion spec], rest) else invalid
    | [] => invalid

/-- The pieces of a formatted text; inside a format they end before the brace that closes it. -/
def pieces (raw inner : Bool) (cs : List Char) : Reading (List FormatPart × List Char) := do
  let (l, cs, _) ← extend (fun (l, cs, done) => do
    if done then pure .none
    else
      let (text, rest) := literalPart raw inner cs
      let l ← do
        if text.isEmpty then pure l
        else
          match (Quoted.mk false raw false text).text? with
          | some t => pure (FormatPart.text t :: l)
          | .none => throw (.fault .invalid)
      match rest with
      | [] => pure (some (l, [], true))
      | c :: rest =>
        if c = '\x7b' then
          let (parts, rest) ← g.formatValue raw inner rest
          pure (some (parts.reverse ++ l, rest, false))
        else if inner then pure (some (l, c :: rest, true))
        else throw (.fault .invalid)) (cs.length + 1) ([], cs, false)
  pure (l.reverse, cs)

end

end Grammar

end ScriptShell.Script
