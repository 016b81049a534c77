import StaticAtoms.Text.Utf8
import StaticAtoms.Files.Error

/-!
# Stores of files

A `Store` is a working directory with everything below it, as a value.  Paths are walked component by
component, so that a missing name, or a file where a directory is wanted, is noticed where it occurs.
Of what lies outside, only that is known which every system has.

* `Store.node?` is the view: what stands at a location.
* `Barrier` is what can stand in the way of writing: a location that is closed, or a file that has no
  room for all of a content.  A file that is there can always be read.
* `Store.read`, `Store.write` and `Store.createDirAll` are the operations that commands use.
* `Store.patch`, `Store.truncate`, `Store.copy`, `Store.remove`, `Store.bar` and `Store.files` set a
  scene and look at it.
-/

namespace StaticAtoms

/-- The names on the way from the working directory to a node.  A way that leads above the working
directory begins with the name `..`, and one from the root with the name `/`. -/
abbrev Location := List String

/-- What stands at a location. -/
inductive Node where
  | file (content : Bytes)
  | directory
deriving DecidableEq

/-- What stands in the way of writing at a location. -/
inductive Barrier where
  /-- No file can be opened for writing there, and nothing can be created. -/
  | closed (cause : FileError)
  /-- A file can be opened for writing, which empties it, but it takes so many bytes only. -/
  | room (length : Nat) (cause : FileError)
deriving DecidableEq

/-- The nodes that were created, each at its location, and what stands in the way of writing. -/
structure Store where
  nodes : List (Location × Node)
  barriers : Location → Option Barrier

/-! ## Paths -/

namespace Path

/-- Splits a list of characters at every slash. -/
def splitSlashes : List Char → List (List Char)
  | [] => [[]]
  | c :: rest =>
      match splitSlashes rest with
      | [] => [[c]]
      | part :: parts => if c = '/' then [] :: part :: parts else (c :: part) :: parts

/-- The names of a path, without the empty ones between adjacent slashes. -/
def parts (path : String) : List String :=
  ((splitSlashes path.toList).filter fun part => !part.isEmpty).map String.ofList

/-- The names of a path that lead anywhere. -/
def steps (path : String) : List String :=
  (parts path).filter fun part => part ≠ "."

/-- Whether the last name of a path is `.`, so that it leads to a directory that is there. -/
def endsInDot (path : String) : Bool :=
  (parts path).getLast? = some "."

/-- The paths of the directories on the way to what a path names, the nearest first. -/
def ancestors (path : String) : List String :=
  let names := (steps path).dropLast
  let root := if path.toList.head? = some '/' then "/" else ""
  (List.range names.length).reverse.map fun count =>
    root ++ "/".intercalate (names.take (count + 1))

/-- The names of the directory that holds what a path names.  It has to be one. -/
def around (path : String) : List String :=
  (parts path).dropLast ++ ["."]

/-- Whether a path ends in a slash, and so can only name a directory. -/
def endsInSlash (path : String) : Bool :=
  path.toList.getLast? = some '/'

/-- Whether a name has more bytes than a name may have. -/
def isLongName (name : String) : Bool :=
  255 < name.utf8ByteSize

/-- Why a path leads nowhere, whatever stands in the store: it has a NUL character, or more bytes than
a path may have. -/
def fault? (path : String) : Option FileError :=
  if path.toList.contains '\x00' then some .nulInPath
  else if 4095 < path.utf8ByteSize then some .nameTooLong
  else none

/-- Where the walk along a path starts: at the root, or in the working directory. -/
def start (path : String) : Location :=
  if path.toList.head? = some '/' then ["/"] else []

/-- The path of a name in a directory. -/
def join (directory name : String) : String :=
  if directory.isEmpty || endsInSlash directory then directory ++ name
  else s!"{directory}/{name}"

end Path

namespace Store

/-- A store in which nothing stands in the way of writing. -/
def ofNodes (nodes : List (Location × Node)) : Store := ⟨nodes, fun _ => none⟩

/-- The empty working directory. -/
def empty : Store := ofNodes []

/-! ## Nodes -/

/-- Whether a location is the working directory or a directory around it. -/
def isAround (location : Location) : Bool :=
  location.all (· = "..")

/-- The devices that every system has.  What is written to them does not stand in the store, and what
some of them have to be read without an end is not told: all of them count as empty. -/
def devices : List Location :=
  ["null", "zero", "full", "random", "urandom", "stdin", "stdout", "stderr"].map fun name =>
    ["/", "dev", name]

/-- What always stands at a location, whatever is written there: the working directory and those
around it, the root, and the devices. -/
def fixed? (location : Location) : Option Node :=
  if isAround location || [["/"], ["/", "dev"], ["/", "tmp"]].contains location then some .directory
  else if devices.contains location then some (.file [])
  else none

/-- What stands at a location. -/
def node? (store : Store) (location : Location) : Option Node :=
  fixed? location <|> store.nodes.lookup location

/-- What stands in the way of writing at a location.  One device is full at all times. -/
def barrier? (store : Store) (location : Location) : Option Barrier :=
  if location = ["/", "dev", "full"] then some (.room 0 .noSpace) else store.barriers location

/-- Why a location is closed, if it is. -/
def closed? (store : Store) (location : Location) : Option FileError :=
  match store.barrier? location with
  | some (.closed cause) => some cause
  | _ => none

/-- The directory around a location.  The root is its own. -/
def parent (location : Location) : Location :=
  if isAround location then ".." :: location
  else if location = ["/"] then ["/"]
  else location.dropLast

/-- Puts a node at a location. -/
def put (store : Store) (location : Location) (node : Node) : Store :=
  { store with nodes := (location, node) :: store.nodes.filter fun entry => entry.1 ≠ location }

/-- Takes everything away that stands at a location or below it. -/
def drop (store : Store) (location : Location) : Store :=
  { store with nodes := store.nodes.filter fun entry => !location.isPrefixOf entry.1 }

/-! ## Walking -/

/-- Where a walk ends: at a node, or at a free name in a directory. -/
inductive Target where
  | present (location : Location) (node : Node)
  | vacant (location : Location)

/-- Walks from the directory `here`. -/
def walk (store : Store) (here : Location) : List String → Except FileError Target
  | [] => .ok (.present here .directory)
  | part :: rest =>
      if part = "." then store.walk here rest
      else if part = ".." then store.walk (parent here) rest
      else if Path.isLongName part then .error .nameTooLong
      else
        let there := here ++ [part]
        match store.node? there with
        | some .directory => store.walk there rest
        | some (.file content) =>
            if rest.isEmpty then .ok (.present there (.file content)) else .error .notDirectory
        | none => if rest.isEmpty then .ok (.vacant there) else .error .notFound

/-- Walks along a path.  The empty path leads nowhere. -/
def resolve (store : Store) (path : String) : Except FileError Target :=
  match Path.fault? path with
  | some failure => .error failure
  | none =>
      if path.isEmpty then .error .notFound
      else store.walk (Path.start path) (Path.parts path)

/-! ## Operations of commands -/

/-- The content of a file. -/
def read (store : Store) (path : String) : Except FileError Bytes :=
  match store.resolve path with
  | .error failure => .error failure
  | .ok (.vacant _) => .error .notFound
  | .ok (.present _ .directory) => .error .isDirectory
  | .ok (.present _ (.file content)) =>
      if Path.endsInSlash path then .error .notDirectory else .ok content

/-- A location, unless it is closed. -/
def opened (store : Store) (location : Location) : Except FileError Location :=
  match store.closed? location with
  | some cause => .error cause
  | none => .ok location

/-- Where the last name of a path is opened for writing.  A path that ends in a slash names a
directory, whatever stands there. -/
def writable (store : Store) (path : String) : Except FileError Location :=
  if Path.endsInSlash path then
    match store.walk (Path.start path) (Path.around path) with
    | .error failure => .error failure
    | .ok _ => .error .isDirectory
  else
    match store.resolve path with
    | .error failure => .error failure
    | .ok (.present _ .directory) => .error .isDirectory
    | .ok (.present location (.file _)) => store.opened location
    | .ok (.vacant location) => store.opened location

/-- Where a file is opened for writing. -/
def destination (store : Store) (path : String) : Except FileError Location :=
  match Path.fault? path with
  | some failure => .error failure
  | none => store.writable path

/-- Empties the file at a location and fills it with a content, as far as it takes that. -/
def fill (store : Store) (location : Location) (content : Bytes) : Store × Except FileError Unit :=
  match store.barrier? location with
  | some (.room length cause) =>
      if content.length ≤ length then (store.put location (.file content), .ok ())
      else (store.put location (.file (content.take length)), .error cause)
  | _ => (store.put location (.file content), .ok ())

/-- Creates a file with a content, or replaces its content.  The old content is lost as soon as the file
is opened, also when it does not take all of the new one. -/
def write (store : Store) (path : String) (content : Bytes) : Store × Except FileError Unit :=
  match store.destination path with
  | .error failure => (store, .error failure)
  | .ok location => store.fill location content

/-- Walks from the directory `here` and creates the directories that are missing; `made` tells whether
one was.  What is created stays even when something is in the way later.  Once a directory was created
the others are created one by one, so that the file is found where it stands. -/
def createFrom (store : Store) (made : Bool) (here : Location) :
    List String → Store × Except FileError Unit
  | [] => (store, .ok ())
  | part :: rest =>
      if part = "." then store.createFrom made here rest
      else if part = ".." then store.createFrom made (parent here) rest
      else if Path.isLongName part then (store, .error .nameTooLong)
      else
        let there := here ++ [part]
        match store.node? there with
        | some .directory => store.createFrom made there rest
        | some (.file _) =>
            (store, .error (if made || rest.isEmpty then .occupied else .notDirectory))
        | none =>
            match store.closed? there with
            | some cause => (store, .error cause)
            | none => (store.put there .directory).createFrom true there rest

/-- Looks for a directory whose path ends in `.`.  It is never created, but the directories around it
are, if it is missing. -/
def findDir (store : Store) (path : String) : Store × Except FileError Unit :=
  let find (store : Store) : Except FileError Unit := (store.resolve path).map fun _ => ()
  match find store with
  | .error .notFound =>
      match store.createFrom false (Path.start path) (Path.steps path).dropLast with
      | (prepared, .ok ()) => (prepared, find prepared)
      | (prepared, .error failure) => (prepared, .error failure)
  | result => (store, result)

/-- Creates a directory and the directories around it, as far as they are missing. -/
def createDirAll (store : Store) (path : String) : Store × Except FileError Unit :=
  match Path.fault? path with
  | some failure => (store, .error failure)
  | none =>
      if Path.endsInDot path then store.findDir path
      else store.createFrom false (Path.start path) (Path.parts path)

/-! ## Setting a scene -/

/-- Writes a file after creating the directories around it, which stay when it cannot be written. -/
def place (store : Store) (path : String) (content : Bytes) : Store :=
  let (prepared, _) := store.createFrom false (Path.start path) (Path.steps path).dropLast
  (prepared.write path content).1

/-- Puts something in the way of writing at a location. -/
def bar (store : Store) (location : Location) (barrier : Barrier) : Store :=
  ⟨store.nodes, fun other => if other = location then some barrier else store.barriers other⟩

/-- Changes the content of a file that can be read. -/
def modify (store : Store) (path : String) (change : Bytes → Bytes) : Store :=
  match store.read path with
  | .error _ => store
  | .ok content => (store.write path (change content)).1

/-- Replaces the bytes of a file from an offset on, which zeros fill up if it lies behind the end. -/
def patch (store : Store) (path : String) (offset : Nat) (bytes : Bytes) : Store :=
  store.modify path fun content =>
    content.take offset ++ List.replicate (offset - content.length) 0 ++ bytes
      ++ content.drop (offset + bytes.length)

/-- Cuts a file off behind a number of bytes. -/
def truncate (store : Store) (path : String) (length : Nat) : Store :=
  store.modify path (List.take length)

/-- Writes the content of one file into another. -/
def copy (store : Store) (source target : String) : Store :=
  match store.read source with
  | .error _ => store
  | .ok content => (store.write target content).1

/-- Removes a file, or a directory with everything in it. -/
def remove (store : Store) (path : String) : Store :=
  match store.resolve path with
  | .ok (.present location _) => store.drop location
  | _ => store

/-- The path of a location. -/
def pathOf (location : Location) : String :=
  "/".intercalate location

/-- Whether a location is in the working directory. -/
def isInside (location : Location) : Bool :=
  location.head? ≠ some ".." && location.head? ≠ some "/"

/-- The paths of all files in the working directory, in ascending order. -/
def files (store : Store) : List String :=
  let paths := store.nodes.filterMap fun
    | (location, .file _) => if isInside location then some (pathOf location) else none
    | (_, .directory) => none
  paths.mergeSort fun left right => decide (left ≤ right)

end Store

end StaticAtoms
