/-
This file runs the program from a command line. It reads the files that a run needs into a tree, runs the
tree, and prints the report.
-/
import ScriptHost.Scene.Run

namespace ScriptHost.Main

open File (Pathname Location Tree)

/-- The names of a path from the root directory, with the steps back taken. -/
def locate (working : Location) (path : Pathname) : Location :=
  let step (location : Location) (segment : String) : Location :=
    if segment = "" ∨ segment = "." then location
    else if segment = ".." then location.dropLast
    else location ++ [segment]
  (File.segments path.text).foldl step (if path.isAbsolute then [] else working)

def addFile (tree : Tree) (path : Pathname) : IO Tree := do
  try
    let content ← IO.FS.readBinFile path.text
    return tree.writeFile (locate tree.working path) content.toList
  catch _ => return tree

def addFiles (tree : Tree) : List Pathname → IO Tree
  | [] => return tree
  | path :: rest => do addFiles (← addFile tree path) rest

/-- What cannot be listed is left out. -/
partial def addDirectory (tree : Tree) (path : Pathname) : IO Tree := do
  try
    let root ← IO.FS.realPath path.text
    let mut tree := tree.makeDirectories [] (locate tree.working path)
    for entry in ← root.readDir do
      let inner := path.joinName entry.fileName
      if ← entry.path.isDir then tree ← addDirectory tree inner
      else tree ← addFile tree inner
    return tree
  catch _ => return tree

def roots (config : Config) : List Pathname :=
  [config.scriptRoot, config.behaviourRoot, config.questRoot, config.encounterRoot]

def addDirectories (tree : Tree) : List Pathname → IO Tree
  | [] => return tree
  | path :: rest => do addDirectories (← addDirectory tree path) rest

def startTree : IO Tree := do
  let working := locate [] ⟨(← IO.currentDir).toString⟩
  return Tree.makeDirectories ⟨[], working⟩ [] working

/-- This mixes the bits of a number until each of them depends on all others. -/
def mixed (number : UInt64) : UInt64 :=
  let number := (number ^^^ (number >>> 30)) * 0xbf58476d1ce4e5b9
  let number := (number ^^^ (number >>> 27)) * 0x94d049bb133111eb
  number ^^^ (number >>> 31)

/-- All draws of a run come from one seed. Bounds that are too far apart are not drawn between. -/
def seeded (seed : UInt64) : Script.Draws := fun place low high =>
  let step := mixed (seed + UInt64.ofNat (place + 1) * 0x9e3779b97f4a7c15)
  let value := low + (step >>> 11).toFloat / 9007199254740992.0 * (high - low)
  if ¬ (high - low).isFinite then .error "UniformSampler::sample_single: range overflow"
  else .ok (if value < high then value else low)

def newSeed : IO UInt64 := do
  let bytes ← IO.getRandomBytes 8
  return bytes.foldl (fun seed byte => seed * 256 + byte.toUInt64) 0

def report (options : CommandLine.Options) : IO (Except Scene.Error Scene.Report) := do
  let tree ← addFiles (← startTree) (options.config.toList ++ options.fixture.toList)
  match Scene.prepare tree options with
  | .error error => return .error error
  | .ok (scene, config) => do
      let tree ← addDirectories tree (roots config)
      return Scene.runWith tree (seeded (← newSeed)) scene config

end ScriptHost.Main

def main (arguments : List String) : IO UInt32 := do
  match ScriptHost.CommandLine.parse ("script-host" :: arguments) with
  | .error error => do
      IO.eprintln s!"[cli] {error.message}"
      return 2
  | .ok options =>
      match ← ScriptHost.Main.report options with
      | .error error => do
          IO.eprintln s!"Harness error: {error.message}"
          return 1
      | .ok report => do
          IO.println report.json.pretty
          return 0
