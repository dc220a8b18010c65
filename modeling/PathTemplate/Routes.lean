import PathTemplate.Store
import PathTemplate.Text

namespace PathTemplate

structure RouteEntry where
  value : String
  params : Value
  deriving Inhabited

/-- How a route is given: a template alone, fields of an entry (a template if given, and
parameters), or an entry. -/
inductive RouteSpec where
  | template (s : String)
  | fields (value : Option String) (params : Value)
  | entry (e : RouteEntry)
  deriving Inhabited

def RouteSpec.toEntry (key : Key) : RouteSpec → Except Error RouteEntry
  | .template s => .ok ⟨s, .none⟩
  | .fields (some v) p => .ok ⟨v, p⟩
  | .fields none _ => .error (Error.naming key (.routeWithoutValue key))
  | .entry e => .ok e

inductive Query where
  | text (s : String)
  | form (m : Mapping)

/-- The form fields of one key and value: one per element of a sequence (per key of a
mapping), else one. The key's text is written first, even for an empty sequence. -/
def formFields (key : Key) (v : Value) : Except Error (List String) := do
  let name ← key.render
  let field (s : String) := Text.encodeFormValue name ++ "=" ++ Text.encodeFormValue s
  match v with
  | .text s => return [field s]
  | .list items | .tuple items => items.mapM fun x => field <$> x.render
  | .map entries => entries.mapM fun e => field <$> e.1.render
  | v => return [field (← v.render)]

def Query.render : Query → Except Error String
  | .text s => .ok s
  | .form m => do
    let fields ← m.mapM fun (k, v) => formFields k v
    return joinWith "&" fields.flatten

def Query.isEmpty : Query → Bool
  | .text s => s.isEmpty
  | .form m => m.isEmpty

/-- A path with a query appended after `?`, unless the query is empty. -/
def joinQuery (path : String) : Option Query → Except Error String
  | some q => if q.isEmpty then .ok path else do return path ++ "?" ++ (← q.render)
  | none => .ok path

/-- A table of named routes, in the order keys were first given. -/
structure RouteTable where
  entries : List (Key × RouteEntry)

namespace RouteTable

def ofSpecs (specs : List (Key × RouteSpec)) : Except Error RouteTable := do
  let merged := specs.foldl (fun (acc : List (Key × RouteSpec)) (k, v) =>
    if acc.any (·.1.same k) then acc.map fun (k', v') => if k'.same k then (k', v) else (k', v')
    else acc ++ [(k, v)]) []
  let entries ← merged.mapM fun (k, spec) => do return (k, ← spec.toEntry k)
  return ⟨entries⟩

def find (t : RouteTable) (key : Key) : Except Error RouteEntry :=
  match t.entries.find? (·.1.same key) with
  | some (_, e) => .ok e
  | none => .error (Error.naming key (.unknownRoute key))

def keys (t : RouteTable) : List Key :=
  t.entries.map (·.1)

def size (t : RouteTable) : Nat :=
  t.entries.length

def contains (t : RouteTable) (key : Key) : Bool :=
  t.entries.any (·.1.same key)

/-- The path of a route filled with parameters, or its template when they do not fit it or
it has a syntax error; other failures are passed on. -/
def pathWith (t : RouteTable) (key : Key) (params : Mapping) (q : Option Query) :
    Except Error String := do
  let e ← t.find key
  match generatePath e.value (some params) with
  | .ok p => joinQuery p q
  | .error (.invalid _) | .error (.template _) => joinQuery e.value q
  | .error err => .error err

/-- The path of a route: filled in when parameters are given, else its template. -/
def path (t : RouteTable) (key : Key) (params : Option Mapping) (q : Option Query) :
    Except Error String :=
  match params with
  | some p => t.pathWith key p q
  | none => do joinQuery (← t.find key).value q

def rootPath (t : RouteTable) (key : Key) : Except Error String := do
  PathTemplate.rootPath (← t.find key).value

end RouteTable

end PathTemplate
