import ScriptShell.Script.Attribute
/-!
# Binding arguments

The arguments of a call are given to the parameters of the function: by position, then by name; then
defaults fill what is left. Each way in which this fails has its own complaint.
-/

namespace ScriptShell.Script.Exec

/-- The complaint about arguments that are missing. -/
def missingArguments {α : Type} (path kind : String) (names : List String) : Exec α :=
  typeError (path ++ "() missing " ++ toString names.length ++ " required " ++ kind ++ " argument" ++
    (if names.length = 1 then "" else "s") ++ ": " ++ listedNames names)

/-- The complaint about too many arguments by position. -/
def tooManyArguments {α : Type} (path : String) (positional defaults given nameOnlyGiven : Nat) :
    Exec α :=
  let accepted := if defaults > 0 then
      "from " ++ toString (positional - defaults) ++ " to " ++ toString positional
    else toString positional
  let plural := defaults > 0 || positional ≠ 1
  let extra := if nameOnlyGiven = 0 then ""
    else " positional argument" ++ (if given ≠ 1 then "s" else "") ++ " (and " ++
      toString nameOnlyGiven ++ " keyword-only argument" ++ (if nameOnlyGiven ≠ 1 then "s" else "") ++ ")"
  typeError (path ++ "() takes " ++ accepted ++ " positional argument" ++
    (if plural then "s" else "") ++ " but " ++ toString given ++ extra ++ " " ++
    (if given = 1 && nameOnlyGiven = 0 then "was" else "were") ++ " given")

/-- The values of the parameters of a function for a call. -/
def bindArguments (f : Function) (args : List Value) (named : List (String × Value)) :
    Exec (List (String × Value)) := do
  let ofKind := fun (p : ParamKind → Bool) => (f.params.filter fun x => p x.kind).map Param.name
  let positional := ofKind fun k => k == .positionOnly || k == .ordinary
  let positionOnly := ofKind (· == .positionOnly)
  let nameOnly := ofKind (· == .nameOnly)
  let rest := (ofKind (· == .rest)).head?
  let restNamed := (ofKind (· == .restNamed)).head?
  let byPosition := positional.zip args
  let (bound, extra) ← named.foldlM (fun (bound, extra) (n, v) => do
      if (positional.contains n && !positionOnly.contains n) || nameOnly.contains n then
        if (bound.lookup n).isSome then
          typeError (f.path ++ "() got multiple values for argument '" ++ n ++ "'")
        else pure ((bound ++ [(n, v)] : List (String × Value)), (extra : List (Value × Value)))
      else if restNamed.isSome then pure (bound, extra ++ [(.text n, v)])
      else if positionOnly.contains n then
        let wrong := (named.map (·.1)).filter positionOnly.contains
        typeError (f.path ++ "() got some positional-only arguments passed as keyword arguments: '" ++
          ", ".intercalate wrong ++ "'")
      else typeError (f.path ++ "() got an unexpected keyword argument '" ++ n ++ "'"))
    (byPosition, [])
  if args.length > positional.length && rest.isNone then
    let defaults := (positional.filter fun n => (f.defaults.lookup n).isSome).length
    let given := (nameOnly.filter fun n => (bound.lookup n).isSome).length
    tooManyArguments f.path positional.length defaults args.length given
  let fill := fun (names : List String) (bound : List (String × Value)) =>
    names.foldl (fun b n =>
      if (b.lookup n).isSome then b
      else match f.defaults.lookup n with
        | some v => b ++ [(n, v)]
        | none => b) bound
  let bound := fill positional bound
  let missing := positional.filter fun n => (bound.lookup n).isNone
  unless missing.isEmpty do missingArguments f.path "positional" missing
  let bound := fill nameOnly bound
  let missing := nameOnly.filter fun n => (bound.lookup n).isNone
  unless missing.isEmpty do missingArguments f.path "keyword-only" missing
  let bound ← match rest with
    | some n => do
      let t ← tuple (args.drop positional.length)
      pure (bound ++ [(n, t)])
    | none => pure bound
  match restNamed with
  | some n => do
    let d ← dict extra
    pure (bound ++ [(n, d)])
  | none => pure bound

end ScriptShell.Script.Exec
