import PathTemplate.Builder

namespace PathTemplate

structure Issued where
  serial : Nat
  builder : Builder

/-- A store of builders: its limit, the kept entries in the order they were added, and the
number of builders handed out so far. -/
structure Store where
  limit : Int
  entries : List (String × Issued)
  issued : Nat

namespace Store

def defaultLimit : Int := 10000

def empty (limit : Int) : Store :=
  ⟨limit, [], 0⟩

def size (s : Store) : Nat :=
  s.entries.length

def full (s : Store) : Bool :=
  decide (s.limit ≤ s.size)

def contains (s : Store) (template : String) : Bool :=
  s.entries.any (·.1 == template)

/-- The builder for a template: the kept one, or a new one, kept if the store is not full.
A template that does not compile leaves the store as it was. -/
def get (s : Store) (template : String) : Except Error (Issued × Store) :=
  match s.entries.lookup template with
  | some i => .ok (i, s)
  | none => do
    let b ← Builder.ofTemplate Options.standard template
    let i : Issued := ⟨s.issued, b⟩
    if s.full then .ok (i, { s with issued := s.issued + 1 })
    else .ok (i, { s with entries := s.entries ++ [(template, i)], issued := s.issued + 1 })

def generatePath (s : Store) (template : String) (params : Option Mapping) :
    Except Error String × Store :=
  if template == "/" then (.ok "/", s)
  else
    match s.get template with
    | .error e => (.error e, s)
    | .ok (i, s) => (i.builder.generate (some (params.getD [])) Encoder.segment, s)

/-- A request to a store: the builder of a template (and, if values are given, the path it
builds from them), the number of kept entries, whether the store is full, its limit, or whether
a template is kept. -/
inductive Request where
  | get (template : String) (values : Option (Option Mapping))
  | size
  | isFull
  | limit
  | contains (template : String)

structure Handout where
  sameAs : Option Nat
  size : Nat
  contains : Bool
  full : Bool
  built : Option (Except Error String)

inductive Reply where
  | handout (h : Handout)
  | failed (e : Error)
  | count (n : Nat)
  | flag (b : Bool)
  | bound (n : Int)

def serveFrom (s : Store) (seen : List (Nat × Nat)) (i : Nat) : List Request → List Reply
  | [] => []
  | .get template values :: rest =>
    match s.get template with
    | .error e => .failed e :: serveFrom s seen (i + 1) rest
    | .ok (issued, s') =>
      let sameAs := (seen.find? (·.2 == issued.serial)).map (·.1)
      let built := values.map fun v => issued.builder.generate v Encoder.segment
      .handout ⟨sameAs, s'.size, s'.contains template, s'.full, built⟩ ::
        serveFrom s' (seen ++ [(i, issued.serial)]) (i + 1) rest
  | .size :: rest => .count s.size :: serveFrom s seen (i + 1) rest
  | .isFull :: rest => .flag s.full :: serveFrom s seen (i + 1) rest
  | .limit :: rest => .bound s.limit :: serveFrom s seen (i + 1) rest
  | .contains template :: rest => .flag (s.contains template) :: serveFrom s seen (i + 1) rest

/-- Answer requests in order, starting from the store `s`. -/
def serve (s : Store) (requests : List Request) : List Reply :=
  s.serveFrom [] 0 requests

end Store

def generatePath (template : String) (params : Option Mapping) : Except Error String :=
  if template == "/" then .ok "/"
  else do
    let b ← Builder.ofTemplate Options.standard template
    b.generate (some (params.getD [])) Encoder.segment

def rootPath (template : String) : Except Error String :=
  match Template.parse Options.standard template with
  | .ok (.literal text :: _) => .ok text
  | .ok _ => .ok template
  | .error (.template _) => .ok template
  | .error e => .error e

end PathTemplate
