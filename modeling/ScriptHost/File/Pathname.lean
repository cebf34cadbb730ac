/-
This file reads paths. A path keeps its spelling, and two spellings are compared by components.
-/

namespace ScriptHost.File

structure Pathname where
  text : String
  deriving DecidableEq, Repr, Inhabited

inductive Component where
  | root
  | current
  | parent
  | normal (name : String)
  deriving DecidableEq, Repr

/-- This cuts a text at every slash. -/
def cut : List Char → List (List Char)
  | [] => [[]]
  | value :: rest =>
      if value = '/' then [] :: cut rest
      else
        match cut rest with
        | [] => [[value]]
        | piece :: pieces => (value :: piece) :: pieces

def segments (text : String) : List String :=
  (cut text.toList).map String.ofList

def slash (segments : List String) : String :=
  String.intercalate "/" segments

def component? (segment : String) : Option Component :=
  if segment = "" ∨ segment = "." then none
  else if segment = ".." then some .parent
  else some (.normal segment)

namespace Pathname

def isAbsolute (path : Pathname) : Bool :=
  path.text.toList.head? == some '/'

/-- A dot counts only at the start of a relative path, and empty segments never count. -/
def components (path : Pathname) : List Component :=
  let inner := (segments path.text).filterMap component?
  if path.isAbsolute then .root :: inner
  else if (segments path.text).head? = some "." then .current :: inner
  else inner

/-- An absolute second path replaces the first. -/
def join (base other : Pathname) : Pathname :=
  if other.isAbsolute then other
  else if base.text = "" ∨ base.text.toList.getLast? = some '/' then ⟨base.text ++ other.text⟩
  else ⟨base.text ++ "/" ++ other.text⟩

def joinName (base : Pathname) (name : String) : Pathname :=
  base.join ⟨name⟩

def resolveAgainst (path base : Pathname) : Pathname :=
  if path.isAbsolute then path else base.join path

/-- Segments that do not count are dropped from the end of the reversed list. -/
def dropIdle : List String → List String
  | segment :: before :: rest =>
      if segment = "" ∨ segment = "." then dropIdle (before :: rest)
      else segment :: before :: rest
  | short => short

def ofReversed (absolute : Bool) (segments : List String) : Pathname :=
  if absolute ∧ segments.length ≤ 1 then ⟨"/"⟩ else ⟨slash segments.reverse⟩

/-- This is the spelling up to the last component; a root and an empty path have none. -/
def parent (path : Pathname) : Option Pathname :=
  match dropIdle (segments path.text).reverse with
  | [] => none
  | [only] =>
      if only = "" then none else some ⟨""⟩
  | _ :: rest => some (ofReversed path.isAbsolute (dropIdle rest))

def fileName (path : Pathname) : Option String :=
  match path.components.getLast? with
  | some (.normal name) => some name
  | _ => none

/-- These are the parts of a name before and after its last dot. -/
def splitAtLastDot (name : List Char) : Option (List Char × List Char) :=
  let after := name.reverse.takeWhile (· ≠ '.')
  match name.reverse.dropWhile (· ≠ '.') with
  | _ :: before => some (before.reverse, after.reverse)
  | [] => none

/-- A dot that opens the name does not begin an extension. -/
def splitName (name : String) : String × Option String :=
  match splitAtLastDot name.toList with
  | some (before, after) =>
      if before.isEmpty then (name, none) else (String.ofList before, some (String.ofList after))
  | none => (name, none)

/-- The extension goes with the dot before it, but two dots stay where one alone would be left. -/
def bareName (name : String) : String :=
  match splitName name with
  | (".", some _) => ".."
  | (stem, _) => stem

def nameExtension (name : String) : Option String :=
  (splitName name).2

def startsWith (path root : Pathname) : Bool :=
  root.components.isPrefixOf path.components

/-- Two spellings of the same components are the same path. -/
def same (path other : Pathname) : Bool :=
  path.components == other.components

def ofLocation (location : List String) : Pathname :=
  ⟨"/" ++ slash location⟩

end Pathname

end ScriptHost.File
