/-
This file models the files that a run can see.
-/
import ScriptHost.File.Pathname

namespace ScriptHost.File

/-- A directory that cannot be listed still resolves. -/
inductive Node where
  | file (content : List UInt8)
  | directory (listable : Bool)
  | link (target : Pathname)
  deriving DecidableEq, Repr

/-- A location is the list of names from the root directory. -/
abbrev Location := List String

/-- The root directory always exists, and relative paths start at the working directory. -/
structure Tree where
  entries : List (Location × Node)
  working : Location
  deriving Repr, Inhabited

namespace Tree

def node? (tree : Tree) (location : Location) : Option Node :=
  if location = [] then some (.directory true)
  else (tree.entries.find? fun entry => entry.1 == location).map Prod.snd

def put (tree : Tree) (location : Location) (node : Node) : Tree :=
  { tree with entries := (tree.entries.filter fun entry => entry.1 != location) ++ [(location, node)] }

def isDirectory (tree : Tree) (location : Location) : Bool :=
  match tree.node? location with
  | some (.directory _) => true
  | _ => false

/-- Longer chains of links count as loops. -/
def stepLimit : Nat := 4096

/-- This walks the segments from a location, and every segment but the last must name a directory. -/
def walk (tree : Tree) : Nat → Location → List String → Option Location
  | 0, _, _ => none
  | _ + 1, location, [] => some location
  | fuel + 1, location, segment :: rest =>
      if ¬ tree.isDirectory location then none
      else if segment = "" ∨ segment = "." then walk tree fuel location rest
      else if segment = ".." then walk tree fuel location.dropLast rest
      else
        match tree.node? (location ++ [segment]) with
        | none => none
        | some (.link target) =>
            walk tree fuel (if target.isAbsolute then [] else location)
              (segments target.text ++ rest)
        | some _ => walk tree fuel (location ++ [segment]) rest

/-- This is the location that a path leads to, if every step of it exists. -/
def resolve (tree : Tree) (path : Pathname) : Option Location :=
  if path.text = "" then none
  else walk tree stepLimit (if path.isAbsolute then [] else tree.working) (segments path.text)

def exists? (tree : Tree) (path : Pathname) : Bool :=
  (tree.resolve path).isSome

def canonical (tree : Tree) (path : Pathname) : Option Pathname :=
  (tree.resolve path).map Pathname.ofLocation

def read? (tree : Tree) (path : Pathname) : Option (List UInt8) := do
  let location ← tree.resolve path
  match ← tree.node? location with
  | .file content => some content
  | _ => none

def isBelow (location other : Location) : Bool :=
  location.isPrefixOf other && location.length < other.length

/-- These are the plain files below a location, by their names from there. -/
def filesBelow (tree : Tree) (location : Location) : List (Location × List UInt8) :=
  tree.entries.filterMap fun (place, node) =>
    match node with
    | .file content =>
        if isBelow location place then some (place.drop location.length, content) else none
    | _ => none

def isListable : Node → Bool
  | .directory listable => listable
  | _ => true

/-- A directory and all directories below it must allow listing. -/
def listable (tree : Tree) (location : Location) : Bool :=
  (match tree.node? location with
    | some (.directory listable) => listable
    | _ => false) &&
  tree.entries.all fun (place, node) => !isBelow location place || isListable node

/-- This lists the plain files below a directory. -/
def list? (tree : Tree) (path : Pathname) : Option (List (Location × List UInt8)) := do
  let location ← tree.resolve path
  if tree.listable location then some (tree.filesBelow location) else none

/-- This makes a directory and the directories that lead to it, up to anything else in the way. -/
def makeDirectories (tree : Tree) : Location → Location → Tree
  | _, [] => tree
  | done, name :: rest =>
      let here := done ++ [name]
      match tree.node? here with
      | some (.directory _) => makeDirectories tree here rest
      | some _ => tree
      | none => makeDirectories (tree.put here (.directory true)) here rest

def writeFile (tree : Tree) (location : Location) (content : List UInt8) : Tree :=
  (tree.makeDirectories [] location.dropLast).put location (.file content)

/-- A path of more bytes is not taken by the system. -/
def pathLimit : Nat := 4095

def fits (path : Pathname) : Bool :=
  path.text.utf8ByteSize ≤ pathLimit

/-- These are all locations that go when one of them is removed. -/
def locationsFrom (tree : Tree) (location : Location) : List Location :=
  (tree.entries.map Prod.fst).filter location.isPrefixOf

/-- A directory goes with all that stands below it. -/
def remove (tree : Tree) (location : Location) : Tree :=
  { tree with entries := tree.entries.filter fun entry => !location.isPrefixOf entry.1 }

end Tree

end ScriptHost.File
