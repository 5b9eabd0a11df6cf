import LatencyChart.Fault
import LatencyChart.Raster.Bitmap

/-!
# File stores

A store is a tree of directories and files with a working directory. A path is followed
from the root or from the working directory, and every component but the last must lead to
a directory.
-/

namespace LatencyChart

/-- What a file holds. -/
inductive Content
  | bytes (bytes : Bytes)
  | picture (bitmap : Bitmap)

/-- What a name stands for. -/
inductive Entry
  | directory
  | file (content : Content)

/-- A place in a store: the names on the way from the root. -/
abbrev Place := List Bytes

/-- A tree of directories and files. -/
structure Store where
  /-- All entries but the root, each with its place. -/
  entries : List (Place × Entry)
  /-- The place from which paths without a leading slash start. -/
  working : Place

namespace Store

/-- The store with an empty working directory. -/
def empty : Store :=
  let working := [Text.Utf8.encode "work"]
  ⟨[(working, .directory)], working⟩

/-- What stands at a place. The root is a directory. -/
def entry? (store : Store) (place : Place) : Option Entry :=
  if place = [] then some .directory else store.entries.lookup place

/-- Put an entry at a place, replacing what was there. -/
def put (store : Store) (place : Place) (entry : Entry) : Store :=
  { store with entries := (place, entry) :: store.entries.filter fun known => known.1 != place }

/-- Take away the entry at a place and everything below it. -/
def eraseBelow (store : Store) (place : Place) : Store :=
  { store with entries := store.entries.filter fun known => !place.isPrefixOf known.1 }

/-- The greatest length of a name. -/
def longestName : Nat := 255

/-- The greatest length of a path. -/
def longestPath : Nat := 4095

/-- The place that one component leads to. Empty components and single dots stay, and
double dots lead upwards. -/
def enter (place : Place) (component : Bytes) : Place :=
  if component = [] ∨ component = [PathName.dot] then place
  else if component = [PathName.dot, PathName.dot] then place.dropLast
  else place ++ [component]

/-- Follow one component from a place, which must be a directory. -/
def step
    (store : Store)
    (place : Place)
    (component : Bytes) : Except SystemFault Place :=
  match store.entry? place with
  | none => .error .missing
  | some (.file _) => .error .notDirectory
  | some .directory =>
      if longestName < component.length then .error .nameTooLong
      else .ok (enter place component)

/-- The place where a path starts. -/
def start (store : Store) (path : PathName) : Place :=
  if path.head? = some PathName.slash then [] else store.working

/-- Follow components in order. -/
def follow
    (store : Store)
    (place : Place)
    (components : List Bytes) : Except SystemFault Place :=
  components.foldlM store.step place

/-- Refuse paths that name nothing: those with a NUL byte, empty ones and too long ones. -/
def checkPath (path : PathName) : Except IoFault Unit :=
  if path.contains 0 then .error .nulInName
  else if path = [] then .error (.system .missing)
  else if longestPath < path.length then .error (.system .nameTooLong)
  else .ok ()

/-- The place that a path leads to, whether or not something stands there. -/
def locate (store : Store) (path : PathName) : Except IoFault Place := do
  checkPath path
  (store.follow (store.start path) (path.splitOn PathName.slash)).mapError .system

/-- Open what stands at a path. -/
def open? (store : Store) (path : PathName) : Except IoFault Entry := do
  match store.entry? (← store.locate path) with
  | some entry => .ok entry
  | none => .error (.system .missing)

/-- The place at which a path lets a file be created. A path that ends with a slash or a
dot component names a directory. -/
def locateNew (store : Store) (path : PathName) : Except IoFault Place := do
  checkPath path
  let components := (path.splitOn PathName.slash).filter (· != [])
  match components.getLast? with
  | none => .error (.system .isDirectory)
  | some name =>
      let place ← (store.follow (store.start path) components.dropLast).mapError .system
      match store.entry? place with
      | none => .error (.system .missing)
      | some (.file _) => .error (.system .notDirectory)
      | some .directory =>
          if path.getLast? = some PathName.slash ∨ name = [PathName.dot] ∨
              name = [PathName.dot, PathName.dot] then
            .error (.system .isDirectory)
          else if longestName < name.length then .error (.system .nameTooLong)
          else
            match store.entry? (place ++ [name]) with
            | some .directory => .error (.system .isDirectory)
            | _ => .ok (place ++ [name])

/-- Write a file, replacing what it held. -/
def write
    (store : Store)
    (path : PathName)
    (content : Content) : Except IoFault Store :=
  (store.locateNew path).map fun place => store.put place (.file content)

/-- Make a directory at a place where nothing stands. -/
def ensureDirectory (store : Store) (place : Place) : Store :=
  if (store.entry? place).isSome then store else store.put place .directory

/-- Make a directory, and the directories on the way to it. -/
def makeDirectory (store : Store) (path : PathName) : Store :=
  let reached :=
    (path.splitOn PathName.slash).foldl
      (fun (reached : Store × Place) component =>
        let place := enter reached.2 component
        (reached.1.ensureDirectory place, place))
      (store, store.start path)
  reached.1

/-- Remove what stands at a path. -/
def remove (store : Store) (path : PathName) : Store :=
  match store.locate path with
  | .ok place => store.eraseBelow place
  | .error _ => store

/-- The entries below the working directory, with their paths from there. -/
def below (store : Store) : List (PathName × Entry) :=
  store.entries.filterMap fun known =>
    if store.working.isPrefixOf known.1 ∧ known.1 ≠ store.working then
      some ((known.1.drop store.working.length).intersperse [PathName.slash] |>.flatten, known.2)
    else
      none

end Store
end LatencyChart
