/-
Module: Stepwise.CommandLine.Settled
Purpose: Arguments that are understood one by one, and what they add up to.
Main exports: CommandLine.Invocation, CommandLine.Held, CommandLine.Settled,
  CommandLine.Settled.settle, CommandLine.Settled.complete
-/
import Stepwise.CommandLine.Usage
import Stepwise.Context
import Stepwise.Evaluation

namespace Stepwise.CommandLine

/-!
An option that takes a value, and the path, are *held* when they are met and
*settled* later, when something else is met that is understood or when the
arguments end.  Settling checks the value.  Held arguments that are never
settled are never checked.

The environment may supply a ceiling factor.  It is looked at only if the
arguments give none, and before it is checked that a needed path is there.
-/

/-- A fully understood call of the program. -/
structure Invocation where
  action : Action
  json : Bool
  path : Option String
  ceilingFactor : Nat
  context : Context
deriving Repr, Inhabited

/-- The arguments settled so far. -/
structure Settled where
  json : Bool
  path : Option String
  ceilingFactor : Option Nat
  entries : List (String × Json)
deriving Repr, Inhabited

/-- The argument that is not settled yet. -/
inductive Held where
  | nothing
  | option (option : ValueOption) (value : Option String)
  | path (path : String)
deriving Repr, Inhabited, DecidableEq

/-- The size an option or the environment gives. -/
def factorOf (value : String) : Except UsageFault Nat :=
  (parseSize value).mapError fun why => .invalidValue .ceilingFactor value why.message

namespace Settled

/-- Before any argument. -/
def start : Settled :=
  { json := false
    path := none
    ceilingFactor := none
    entries := [] }

/-- Settles an option that has a value. -/
def setOption (settled : Settled) (option : ValueOption) (value : String) :
    Except UsageFault Settled := do
  match option with
  | .ceilingFactor =>
      if settled.ceilingFactor.isSome then .error (.repeated option.shown)
      else return { settled with ceilingFactor := some (← factorOf value) }
  | .context =>
      let entry ← (parseEntry value).mapError fun why =>
        .invalidValue option value (why.message value)
      return { settled with entries := settled.entries ++ [entry] }

/-- Settles what is held. -/
def settle (settled : Settled) (action : Action) : Held → Except UsageFault Settled
  | .nothing => .ok settled
  | .option option (some value) => settled.setOption option value
  | .option option none => .error (.valueMissing option.shown)
  | .path path =>
      if path.isEmpty then .error (.valueMissing action.pathName)
      else .ok { settled with path := some path }

/-- The ceiling factor of the arguments, or else the one supplied by the
environment, or else the usual one. -/
def factor (settled : Settled) (supplied : Option String) : Except UsageFault Nat :=
  match settled.ceilingFactor, supplied with
  | some factor, _ => .ok factor
  | none, some value => factorOf value
  | none, none => .ok defaultCeilingFactor

/-- Completes the settled arguments of an action, with the ceiling factor that
the environment supplies. -/
def complete (settled : Settled) (action : Action) (supplied : Option String) :
    Except UsageFault Invocation := do
  let factor ← settled.factor supplied
  if action == .validate && settled.path.isNone then .error .pathMissing
  else
    return {
      action := action
      json := settled.json
      path := settled.path
      ceilingFactor := factor
      context := .ofEntries settled.entries }

end Settled

end Stepwise.CommandLine
