import ScriptShell.Script.Scope
/-!
# The rules beyond the grammar

Code that is in the grammar may still be refused as a whole before any of it runs: for statements
out of place, for names that are declared wrongly, for targets and arguments that cannot be.
-/

namespace ScriptShell.Script

/-- Whether a declared name is declared too late: as a parameter or after it was touched. -/
def declaredLate (name? : ScopeEvent → Option String) :
    List ScopeEvent → List ScopeEvent → Bool
  | _, [] => false
  | before, e :: rest =>
    (match name? e with
      | some n =>
        before.any fun b =>
          b.touchedName? == some n || (match b with
            | .param p => p == n
            | _ => false)
      | none => false) || declaredLate name? (e :: before) rest

/-- Whether an annotated name is declared to belong elsewhere. -/
def annotatesForeign (events : List ScopeEvent) : Bool :=
  events.any fun
    | .annotate n =>
      events.any fun e => e.globalName? == some n || e.nonlocalName? == some n
    | _ => false

/-- Whether a scope keeps the rules, and all scopes in it. `around` are the names of the functions
around it, innermost first. -/
def keepsRules : Nat → List (List String) → ScopeKind → List ScopeEvent → Bool
  | 0, _, _, _ => true
  | fuel + 1, around, kind, events =>
    let nonlocals := events.filterMap ScopeEvent.nonlocalName?
    let inside := match kind with
      | .function _ | .comprehension _ => localNames events :: around
      | _ => around
    !events.any (·.isFlaw) &&
      !declaredLate ScopeEvent.globalName? [] events &&
      !declaredLate ScopeEvent.nonlocalName? [] events &&
      (kind == .module || !annotatesForeign events) &&
      (nonlocals.isEmpty || kind != .module) &&
      nonlocals.all (fun n => around.any (·.contains n)) &&
      !nonlocals.any (fun n => events.any fun e => e.globalName? == some n) &&
      events.all fun
        | .inner k es => keepsRules fuel inside k es
        | _ => true

/-- The names that a module may import from the future. -/
def futureFeatures : List String :=
  ["nested_scopes", "generators", "division", "absolute_import", "with_statement",
    "print_function", "unicode_literals", "barry_as_FLUFL", "generator_stop", "annotations"]

/-- Splits the imports from the future at the start of a module off: the names they ask for, and the
rest. Without names they ask for all. -/
def futureImports : List Stmt → List (Option (List ImportName)) × List Stmt
  | .importFrom _ ["__future__"] names :: rest =>
    let (more, rest) := futureImports rest
    (names :: more, rest)
  | body => ([], body)

/-- Whether code that is in the grammar can run at all. -/
def compiles (body : List Stmt) : Bool :=
  let (future, rest) := match body with
    | .expr (.literal (.text _)) :: rest => futureImports rest
    | l => futureImports l
  future.all (fun names =>
    (names.map fun l => l.all fun n => futureFeatures.contains (n.name.headD "")).getD false) &&
    keepsRules nestingLimit [] .module (blockEvents .module rest)

end ScriptShell.Script
