/-
This file compiles the scripts below a root. A set of units is built anew each time, and units whose
text has not changed are taken over from the set before.
-/
import ScriptHost.File.Tree
import ScriptHost.Script.Parser
import ScriptHost.Trace

namespace ScriptHost.Script

open File (Pathname)

inductive Error where
  | unreadableRoot (path : Pathname)
  | unreadable (path : Pathname)
  | malformed (path : Pathname)
  | failed (name : String) (reason : String)
  deriving DecidableEq, Repr

def Error.message : Error → String
  | .unreadableRoot path => s!"script root '{path.text}' is not readable"
  | .unreadable path => s!"reading '{path.text}'"
  | .malformed path => s!"compiling '{path.text}'"
  | .failed name reason => s!"evaluating '{name}': {reason}"

/-- A compiled file keeps the text that it was compiled from. -/
structure CompiledUnit where
  name : String
  path : Pathname
  text : List Char
  program : Program

structure UnitSet where
  root : Pathname
  generation : Nat
  units : List CompiledUnit

namespace UnitSet

def empty (root : Pathname) : UnitSet := ⟨root, 0, []⟩

def names (set : UnitSet) : List String :=
  set.units.map CompiledUnit.name

def find? (set : UnitSet) (name : String) : Option CompiledUnit :=
  set.units.find? fun unit => unit.name == name

/-- A later unit of the same path wins. -/
def unitAt? (set : UnitSet) (path : Pathname) : Option CompiledUnit :=
  set.units.reverse.find? fun unit => unit.path.same path

end UnitSet

/-- A source file is known by the names that lead to it from the root. -/
structure Source where
  names : List String
  content : List UInt8
  deriving DecidableEq, Repr

namespace Source

def path (root : Pathname) (source : Source) : Pathname :=
  source.names.foldl Pathname.joinName root

def fileName (source : Source) : String :=
  source.names.getLast?.getD ""

/-- A unit is called by its path from the root without the extension. -/
def unitName (source : Source) : String :=
  File.slash (source.names.dropLast ++ [Pathname.bareName source.fileName])

def comesBefore : List String → List String → Bool
  | [], _ => true
  | _ :: _, [] => false
  | left :: lefts, right :: rights =>
      if left = right then comesBefore lefts rights else left < right

/-- Paths are put in order name by name. -/
def sort (sources : List Source) : List Source :=
  sources.mergeSort fun left right => comesBefore left.names right.names

def discover? (tree : File.Tree) (root : Pathname) (extension : String) : Option (List Source) := do
  let files ← tree.list? root
  let sources := files.map fun (names, content) => Source.mk names content
  return sort (sources.filter fun source => Pathname.nameExtension source.fileName == some extension)

end Source

/-- The result of one file is a unit, which may be an old one, or the reason that there is none. -/
inductive Compiled where
  | fresh (unit : CompiledUnit)
  | reused (unit : CompiledUnit)
  | refused (error : Error)

namespace Compiled

def ofText (root : Pathname) (source : Source) (text : List Char) : Compiled :=
  match compile? text with
  | some program => .fresh ⟨source.unitName, source.path root, text, program⟩
  | none => .refused (.malformed (source.path root))

def ofSource (previous : Option UnitSet) (root : Pathname) (source : Source) : Compiled :=
  match Text.Utf8.decode? source.content with
  | none => .refused (.unreadable (source.path root))
  | some text =>
      match previous.bind fun set => set.unitAt? (source.path root) with
      | some unit =>
          if unit.text = text.toList then .reused unit else ofText root source text.toList
      | none => ofText root source text.toList

def unit? : Compiled → Option CompiledUnit
  | .fresh unit => some unit
  | .reused unit => some unit
  | .refused _ => none

def error? : Compiled → Option Error
  | .refused error => some error
  | _ => none

def isReused : Compiled → Bool
  | .reused _ => true
  | _ => false

end Compiled

structure Compilation where
  set : UnitSet
  failures : List Error
  reused : Nat

/-- Dots before an extension are dropped. -/
def bareExtension (extension : String) : String :=
  String.ofList (extension.toList.dropWhile (· = '.'))

/-- Only an unreadable root stops a compilation; a file that fails costs only its own unit. -/
def compileAll (tree : File.Tree) (extension : String) (root : Pathname) (previous : Option UnitSet) :
    Except Error Compilation :=
  match Source.discover? tree root extension with
  | none => .error (.unreadableRoot root)
  | some sources =>
      let results := sources.map (Compiled.ofSource previous root)
      .ok {
        set := ⟨root, (previous.map UnitSet.generation).getD 0 + 1, results.filterMap Compiled.unit?⟩
        failures := results.filterMap Compiled.error?
        reused := results.countP Compiled.isReused }

/-- A cache holds the set that was compiled last. -/
structure UnitCache where
  label : String
  root : Pathname
  extension : String
  active : UnitSet
  reloads : Nat

namespace UnitCache

def create (label : String) (root : Pathname) (extension : String) : UnitCache :=
  ⟨label, root, bareExtension extension, .empty root, 0⟩

def find? (cache : UnitCache) (name : String) : Option CompiledUnit :=
  cache.active.find? name

def keepingRecord (cache : UnitCache) (error : Error) : TraceRecord :=
  failure "script"
    s!"recompile failed, keeping {cache.active.units.length} units: {error.message}"
    [("cache", cache.label)]

def failureRecord (cache : UnitCache) (error : Error) : TraceRecord :=
  failure "script" error.message [("cache", cache.label)]

/-- The new set replaces the active one as a whole, and an unreadable root changes nothing. -/
def reload (tree : File.Tree) (cache : UnitCache) :
    UnitCache × List TraceRecord × Except Error UnitSet :=
  match compileAll tree cache.extension cache.root (some cache.active) with
  | .error error => (cache, [cache.keepingRecord error], .error error)
  | .ok compilation =>
      ({ cache with active := compilation.set, reloads := cache.reloads + 1 },
        compilation.failures.map cache.failureRecord, .ok compilation.set)

end UnitCache

end ScriptHost.Script
