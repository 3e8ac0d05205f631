import DynamicBlocks.Modifier.Conversion
import DynamicBlocks.Value.Shape

/-!
# Queries

What a loop asks of the host's content: entries chosen by arguments, a listing of entities such as users, or
the query that the page itself was asked for, with some arguments overridden. Arguments that went through text
get their types back: some have to be whole numbers, some truth values.
-/

set_option autoImplicit false

namespace DynamicBlocks

/-- Which query the host is asked. -/
inductive QueryKind where
  | structured
  | entities
  | ambient
  deriving DecidableEq, Inhabited

/-- The name of a kind of query. -/
def QueryKind.name : QueryKind → String
  | .structured => "structured"
  | .entities => "entities"
  | .ambient => "ambient"

/-- A query to the host. -/
structure Query where
  kind : QueryKind
  args : Entries
  deriving Inhabited

/-- The host's answer to queries. -/
abbrev QueryBackend := Query → Except Failure Value

def wholeNumberArgs : List String :=
  ["posts_per_page", "paged", "offset", "p", "page_id", "attachment_id", "posts_per_archive_page", "nopaging", "number"]

def truthArgs : List String :=
  ["ignore_sticky_posts", "no_found_rows", "cache_results", "update_post_meta_cache", "update_post_term_cache",
    "suppress_filters", "hide_empty"]

/-- A number cut to a whole one, infinities left as they are. -/
def wholeNumber : Number → Except Failure Value
  | .int n => .int <$> inDoubleRange n
  | .double x => .ok (if x.isFinite then .int x.truncate else .double x)

/-- An argument with its type: texts become numbers and truth values where such are wanted. -/
def typedArg (key value : Value) : Except Failure Value :=
  match key, value with
  | .text name, .text s =>
    if wholeNumberArgs.contains name then
      match Number.ofText? s with
      | some n => wholeNumber n
      | none => .ok value
    else .ok (if truthArgs.contains name then .bool (Value.textTruth s) else value)
  | _, value => .ok value

/-- Arguments with their types. -/
def typedArgs (args : Entries) : Except Failure Entries :=
  args.mapM fun arg => do
    let value ← typedArg arg.1 arg.2
    pure (arg.1, value)

/-- The items of what a data source yields: a mapping is a single item. -/
def itemsOf : Value → List Value
  | .list items => items
  | .map entries => [.map entries]
  | _ => []

end DynamicBlocks
