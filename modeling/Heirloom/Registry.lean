import Heirloom.Error
import Heirloom.Expr.Names
import Heirloom.Grammar
import Heirloom.Log
import Heirloom.Source.Declaration

/-!
# Registries of grammars

A registry keeps grammars in namespaces, each under its own name. A namespace
comes into being when it is first asked for. What happens when a name is
registered twice in one namespace is the policy of the registry. Once a
registry is closed, the namespaces still held go on to work, but none can be
reached from another.

Operations run as tasks on a workspace, which also numbers grammars and keeps
the log. A failing task keeps what it changed before it failed.
-/

namespace Heirloom

/-- What happens when a grammar name is registered twice in one namespace. -/
inductive ConflictPolicy
  /-- The second registration fails. -/
  | reject
  /-- The first grammar stays and the second is passed over. -/
  | keepFirst
  deriving DecidableEq

/-- A named set of grammars, each under a key. -/
structure Namespace where
  /-- The name of the namespace. -/
  name : String
  /-- Its grammars with their keys, in the order of their registration. -/
  entries : List (String × Grammar)

namespace Namespace

/-- Its grammars in the order of their registration. -/
def grammars (space : Namespace) : List Grammar :=
  space.entries.map Prod.snd

/-- The grammar registered under a name. -/
def find? (space : Namespace) (name : String) : Option Grammar :=
  space.entries.lookup name

/-- Whether a grammar is registered under a name. -/
def contains (space : Namespace) (name : String) : Bool :=
  (space.find? name).isSome

end Namespace

/-- A set of namespaces. -/
structure Registry where
  /-- What happens to repeated names. -/
  policy : ConflictPolicy := .reject
  /-- The namespaces in the order of their creation. -/
  spaces : List Namespace := []
  /-- Whether namespaces can be reached through the registry. -/
  isOpen : Bool := true

namespace Registry

/-- The namespace of a name. -/
def space? (registry : Registry) (name : String) : Option Namespace :=
  registry.spaces.find? fun space => space.name == name

/-- What is registered in a namespace, nothing if it does not exist. -/
def entries (registry : Registry) (space : String) : List (String × Grammar) :=
  match registry.space? space with
  | some found => found.entries
  | none => []

/-- The grammars of a namespace, none if it does not exist. -/
def grammars (registry : Registry) (space : String) : List Grammar :=
  (registry.entries space).map Prod.snd

/-- The grammar registered under a name in a namespace. -/
def find? (registry : Registry) (space name : String) : Option Grammar :=
  (registry.space? space).bind fun found => found.find? name

/-- The registry with a namespace of that name. -/
def create (registry : Registry) (name : String) : Registry :=
  match registry.space? name with
  | some _ => registry
  | none => { registry with spaces := registry.spaces ++ [⟨name, []⟩] }

/-- Add a grammar at the end of a namespace, under its own name. -/
def add (registry : Registry) (space : String) (grammar : Grammar) : Registry :=
  { registry with
    spaces := registry.spaces.map fun found =>
      if found.name == space then
        { found with entries := found.entries ++ [(grammar.name, grammar)] }
      else found }

/-- The registry after it has been closed. -/
def close (registry : Registry) : Registry :=
  { registry with isOpen := false }

end Registry

/-- What tasks work on. -/
structure Workspace where
  /-- The registry. -/
  registry : Registry := {}
  /-- The number of the next grammar that is built. -/
  nextSerial : Nat := 1
  /-- What has been recorded, in order. -/
  log : List Log.Record := []

/-- A computation on a workspace that may fail. -/
abbrev WorkspaceM (α : Type) := ExceptT Error (StateM Workspace) α

namespace WorkspaceM

/-- Add records to the log. -/
def record (records : List Log.Record) : WorkspaceM Unit :=
  modify fun workspace => { workspace with log := workspace.log ++ records }

/-- Change the registry. -/
def modifyRegistry (change : Registry → Registry) : WorkspaceM Unit :=
  modify fun workspace => { workspace with registry := change workspace.registry }

/-- Take the next number for a grammar. -/
def freshSerial : WorkspaceM Nat := do
  let serial := (← get).nextSerial
  modify fun workspace => { workspace with nextSerial := serial + 1 }
  return serial

/-- Make sure that a namespace exists. -/
def openSpace (name : String) : WorkspaceM Unit := do
  match (← get).registry.space? name with
  | some _ => return ()
  | none =>
      record [.namespaceCreated name]
      modifyRegistry fun registry => registry.create name

/-- The grammar registered under a name in a namespace. -/
def grammar (space name : String) : WorkspaceM Grammar := do
  match (← get).registry.find? space name with
  | some found => return found
  | none => throw (.unknownGrammar space name)

/-- Whether a grammar is registered under a name in a namespace. -/
def contains (space name : String) : WorkspaceM Bool := do
  return ((← get).registry.space? space).any fun found => found.contains name

/-- The names that are registered in a namespace, in ascending order. -/
def grammarNames (space : String) : WorkspaceM (List String) := do
  return sortedNames (((← get).registry.entries space).map Prod.fst)

/-- Look up a grammar through the registry, which creates the namespace. -/
def qualifiedGrammar (space name : String) : WorkspaceM Grammar := do
  openSpace space
  grammar space name

/-- Another namespace of the same registry, created if it is new; none once the
registry is closed. -/
def sibling (name : String) : WorkspaceM (Option String) := do
  if (← get).registry.isOpen then
    openSpace name
    return some name
  else
    return none

/-- The grammar that a reference means inside a namespace. -/
def resolve (space : String) (reference : GrammarRef) : WorkspaceM Grammar := do
  match reference.space with
  | none => grammar space reference.name
  | some other =>
      if other == space then grammar space reference.name
      else
        match ← sibling other with
        | some found => grammar found reference.name
        | none => throw (.unknownGrammar other reference.name)

/-- Register a grammar under its name, and return the grammar that is registered
under that name afterwards. -/
def register (space : String) (grammar : Grammar) : WorkspaceM Grammar := do
  let registry := (← get).registry
  match registry.find? space grammar.name with
  | some existing =>
      match registry.policy with
      | .reject => throw (.grammarAlreadyRegistered space grammar.name)
      | .keepFirst =>
          record [.keptFirst grammar.name space]
          return existing
  | none =>
      record [.registered grammar.name space]
      modifyRegistry fun registry => registry.add space grammar
      return grammar

/-- Register grammars one after the other. -/
def registerEach (space : String) : List Grammar → WorkspaceM (List Grammar)
  | [] => return []
  | grammar :: grammars => do
      let registered ← register space grammar
      let others ← registerEach space grammars
      return registered :: others

/-- The first name of a batch that is registered already or repeated. -/
def firstConflict? (registry : Registry) (space : String) :
    List String → List Grammar → Option String
  | _, [] => none
  | seen, grammar :: grammars =>
      if (registry.find? space grammar.name).isSome || seen.contains grammar.name then
        some grammar.name
      else
        firstConflict? registry space (grammar.name :: seen) grammars

/-- Register a batch. A registry that rejects repeated names registers all of it
or nothing. -/
def registerAll (space : String) (batch : List Grammar) : WorkspaceM (List Grammar) := do
  let registry := (← get).registry
  match registry.policy, firstConflict? registry space [] batch with
  | .reject, some name => throw (.grammarAlreadyRegistered space name)
  | _, _ => registerEach space batch

end WorkspaceM
end Heirloom
