/-
This file tells which script root a path belongs to.
-/
import ScriptHost.File.Tree

namespace ScriptHost.File

inductive RootKind where
  | scripts
  | behaviours
  | quests
  | encounters
  deriving DecidableEq, Repr

namespace RootKind

def all : List RootKind :=
  [.scripts, .behaviours, .quests, .encounters]

def label : RootKind → String
  | .scripts => "scripts"
  | .behaviours => "behaviours"
  | .quests => "quests"
  | .encounters => "encounters"

end RootKind

/-- A path that does not resolve is resolved through its parent, and failing that keeps its spelling. -/
def Tree.normalize (tree : Tree) (path : Pathname) : Pathname :=
  let absolute := path.resolveAgainst (Pathname.ofLocation tree.working)
  match tree.canonical absolute with
  | some canonical => canonical
  | none =>
      match absolute.parent.bind tree.canonical, absolute.fileName with
      | some parent, some name => parent.joinName name
      | some parent, none => parent
      | none, _ => absolute

structure RootTable where
  roots : List (Pathname × RootKind)
  deriving DecidableEq, Repr

namespace RootTable

def empty : RootTable := ⟨[]⟩

def holds (table : RootTable) (root : Pathname) : Bool :=
  table.roots.any fun entry => entry.1.same root

/-- The first kind of a root stays. -/
def insertNormal (table : RootTable) (root : Pathname) (kind : RootKind) : RootTable × Bool :=
  if table.holds root then (table, false) else (⟨table.roots ++ [(root, kind)]⟩, true)

def insert (table : RootTable) (tree : Tree) (root : Pathname) (kind : RootKind) : RootTable × Bool :=
  table.insertNormal (tree.normalize root) kind

def depth (root : Pathname) : Nat :=
  root.components.length

def deeper (best : Option (Pathname × RootKind)) (entry : Pathname × RootKind) : Option (Pathname × RootKind) :=
  match best with
  | none => some entry
  | some held => if depth held.1 ≤ depth entry.1 then some entry else some held

/-- The deepest root that the path starts with decides. -/
def classifyNormal (table : RootTable) (path : Pathname) : Option RootKind :=
  ((table.roots.filter fun entry => path.startsWith entry.1).foldl deeper none).map Prod.snd

def classify (table : RootTable) (tree : Tree) (path : Pathname) : Option RootKind :=
  table.classifyNormal (tree.normalize path)

end RootTable

/-- The native watches in force are kept beside the table that decides about repeated calls. -/
structure Watcher where
  table : RootTable
  watched : List Pathname
  deriving DecidableEq, Repr

inductive WatchError where
  | missing (path : Pathname)
  | refused (path : Pathname) (reason : String)
  deriving DecidableEq, Repr

def WatchError.message : WatchError → String
  | .missing path => s!"path '{path.text}' does not exist"
  | .refused path _ => s!"watch {path.text}"

/-- The cause of an error follows it after a colon. -/
def WatchError.chain (error : WatchError) : String :=
  match error with
  | .missing _ => error.message
  | .refused _ reason => s!"{error.message}: {reason}"

namespace Watcher

def empty : Watcher := ⟨.empty, []⟩

/-- The system watches everything that it can name. -/
def refusal (path : Pathname) : Option String :=
  if Tree.fits path then none else some "File name too long (os error 36)"

/-- The root enters the table before the native watch is asked for. -/
def watchRoot (watcher : Watcher) (tree : Tree) (native : Pathname → Option String) (root : Pathname)
    (kind : RootKind) : Watcher × Except WatchError Unit :=
  if ¬ tree.exists? root then (watcher, .error (.missing root))
  else
    let normal := tree.normalize root
    match watcher.table.insert tree normal kind with
    | (_, false) => (watcher, .ok ())
    | (table, true) =>
        match native normal with
        | some reason => ({ watcher with table }, .error (.refused normal reason))
        | none => (⟨table, watcher.watched ++ [normal]⟩, .ok ())

end Watcher

end ScriptHost.File
