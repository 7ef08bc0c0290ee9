import Perimeter.Resource.Basic

/-!
Stacks: resources that are deployed together. Within a stack every resource has a name of its own;
a stack lists the stacks that must be complete before it starts, and the values it offers to
others.
-/

namespace Perimeter

structure Stack where
  name : String
  region : String
  /-- Stacks to be deployed before this one, in the order in which they were named. -/
  dependsOn : List String
  resources : List Resource
  /-- Values offered to others, by ascending key. -/
  outputs : List (String × String)

namespace Stack

/-- A stack with nothing in it. -/
def empty (name region : String) : Stack := ⟨name, region, [], [], []⟩

/-- The first resource of the given name. -/
def find? (s : Stack) (id : String) : Option Resource :=
  s.resources.find? fun r => r.id.text == id

/-- The resources of the given kind, in order. -/
def ofKind (s : Stack) (kind : String) : List Resource :=
  s.resources.filter fun r => r.kind == kind

/-- The failure to give a second resource a name that is taken. -/
def nameTaken (s : Stack) (id : LogicalId) : Error :=
  .constraint ("stack '" ++ s.name ++ "' already has a resource named '" ++ id.text ++ "'")

/-- A stack with one more resource, whose name must be new. -/
def add (s : Stack) (r : Resource) : Except Error Stack :=
  match s.find? r.id.text with
  | some _ => .error (s.nameTaken r.id)
  | none => .ok { s with resources := s.resources ++ [r] }

/-- Adds resources up to the first one whose name is taken; those before it stay. -/
def extend (s : Stack) : List Resource → Except Error Unit × Stack
  | [] => (.ok (), s)
  | r :: rs =>
    match s.add r with
    | .error e => (.error e, s)
    | .ok s => extend s rs

/-- A stack with several more resources, all of whose names must be new. -/
def addAll (s : Stack) (rs : List Resource) : Except Error Stack :=
  match s.extend rs with
  | (.ok (), s) => .ok s
  | (.error e, _) => .error e

/-- A stack that waits for another one; naming it again changes nothing. -/
def dependOn (s : Stack) (other : String) : Stack :=
  if s.dependsOn.contains other then s else { s with dependsOn := s.dependsOn ++ [other] }

/-- An ascending list of keys and values with one key set anew. -/
def setKey (key value : String) : List (String × String) → List (String × String)
  | [] => [(key, value)]
  | (k, v) :: rest =>
    if key = k then (key, value) :: rest
    else if key < k then (key, value) :: (k, v) :: rest
    else (k, v) :: setKey key value rest

/-- A stack that offers a value under a key, in place of what it offered under it before. -/
def output (s : Stack) (key value : String) : Stack :=
  { s with outputs := setKey key value s.outputs }

/-- What is waited for, if a stack must wait: the stacks that it names and that are not among the
completed ones. -/
def pending (s : Stack) (completed : List String) : List String :=
  s.dependsOn.filter fun other => !completed.contains other

/-- The failure to start a stack too early. -/
def blocked (s : Stack) (pending : List String) : Error :=
  .crossRegion ("stack '" ++ s.name ++ "' is blocked until " ++ ", ".intercalate pending ++
    " completes")

/-- Lets a stack start once all that it waits for is complete. -/
def ready (s : Stack) (completed : List String) : Except Error Unit :=
  if (s.pending completed).isEmpty then .ok () else .error (s.blocked (s.pending completed))

end Stack

end Perimeter
