/-
Module: Stepwise.Context
Purpose: The data a caller hands to the policies of a walk.
Main exports: Context, Context.get?, Context.insert, Context.ofEntries
-/
import Stepwise.Json.Value

namespace Stepwise

/-!
A context maps keys to JSON values.  The library hands it to the policies and
never reads it itself.  Inserting a key that is already there replaces its
value, so of several entries with one key the last one counts.
-/

/-- Keys with their values; no key occurs twice in a context made by `insert`. -/
structure Context where
  entries : List (String × Json)
deriving Repr, Inhabited

namespace Context

/-- The context without entries. -/
def empty : Context :=
  ⟨[]⟩

/-- The value of a key. -/
def get? (context : Context) (key : String) : Option Json :=
  context.entries.lookup key

/-- The context with one key set. -/
def insert (context : Context) (key : String) (value : Json) : Context :=
  ⟨(key, value) :: context.entries.filter fun entry => entry.1 != key⟩

/-- The context of a list of entries. -/
def ofEntries (entries : List (String × Json)) : Context :=
  entries.foldl (fun context entry => context.insert entry.1 entry.2) empty

end Context

end Stepwise
