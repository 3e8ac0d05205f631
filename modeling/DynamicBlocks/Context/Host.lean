import DynamicBlocks.Context.Entry

/-!
# Host data

The content system that hosts a page supplies what is known about the request: the entity shown, the user,
the site and so on. What is null is not exposed, except that there always is an environment; a taxonomy is
exposed only together with a term.
-/

set_option autoImplicit false

namespace DynamicBlocks

/-- The data of a request. -/
structure Host where
  entity : Value := .null
  user : Value := .null
  site : Value := .null
  url : Value := .null
  options : Value := .null
  archive : Value := .null
  environment : Value := .null
  term : Value := .null
  taxonomy : Value := .null
  deriving Inhabited

namespace Host

/-- The host that supplies nothing. -/
def silent : Host := {}

/-- The environment where the host names none. -/
def defaultEnvironment : Value := .ofFields [("current", .text "frontend")]

/-- What the host supplies under the names that expressions use, in order. -/
def fields (host : Host) : List (String × Value) :=
  [("this", host.entity), ("user", host.user), ("site", host.site), ("url", host.url), ("options", host.options),
    ("archive", host.archive), ("environment", if host.environment.isNull then defaultEnvironment else host.environment),
    ("term", host.term), ("taxonomy", if host.term.isNull then .null else host.taxonomy)]

/-- The global context: the names that the host supplies a value for. -/
def globals (host : Host) : List (String × Value) :=
  host.fields.filter fun field => !field.2.isNull

def entries (host : Host) : List Entry :=
  host.globals.map fun field => ⟨.globalValue, .text field.1, field.2, []⟩

end Host

end DynamicBlocks
