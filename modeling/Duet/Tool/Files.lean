import Duet.SystemError
import Duet.Text.Utf8

/-!
# Files

The files a process can reach: those below its working directory, and the devices and directories
that a system has outside of it. Opening a file follows its path name by name, from the root or
from the working directory. A file that is there is emptied; a directory in its place, a missing
directory on the way, a file on the way, or an overlong name is an error of the system.

**Creating a file touches no other path** (`Files.find?_put_of_ne`), and **a file holds what was
last written to it** (`Files.content?_write`).

What this does not establish: outside the working directory only what every system has is
described, so that a file that is made there is taken to be new.
-/

namespace Duet.Tool

/-- What stands at a path below the working directory. -/
inductive Item where
  | file (content : List UInt8)
  | directory
  deriving DecidableEq, Repr

/-- A path, name by name. -/
abbrev Path := List (List Char)

/-- The items below the working directory, and the contents of the files that were made outside of
it, by their paths from the root. -/
structure Files where
  items : List (Path × Item) := []
  made : List (Path × List UInt8) := []
  deriving DecidableEq, Repr

/-- Something other than a file that a path can lead to. -/
inductive Device where
  /-- Swallows everything. -/
  | null
  /-- Refuses everything. -/
  | full
  | stdout
  | stderr
  /-- The terminal, which a process without one cannot open. -/
  | terminal
  /-- The program itself, which cannot be written to while it runs. -/
  | program
  deriving DecidableEq, Repr

/-- Why a device cannot be opened for writing. -/
def Device.refusal? : Device → Option SystemError
  | .terminal => some .noDevice
  | .program => some .programBusy
  | _ => none

/-- A place for a directory or a file. -/
inductive Place where
  /-- Outside the working directory, by the path from the root. -/
  | outside (path : Path)
  /-- The working directory or below it, by the path from there. -/
  | inside (path : Path)
  deriving DecidableEq, Repr

/-- Whether files can be made in a directory: not among the descriptions of processes. -/
def Place.takesFiles : Place → Bool
  | .outside path => path.head? ≠ some "proc".toList
  | .inside _ => true

/-- The place of a name in a directory. -/
def Place.add : Place → List Char → Place
  | .outside path, name => .outside (path ++ [name])
  | .inside path, name => .inside (path ++ [name])

/-- What a path was opened as. -/
inductive Target where
  | file (place : Place)
  | device (device : Device)
  deriving DecidableEq, Repr

/-- What a name in a directory leads to. -/
inductive Node where
  | directory (place : Place)
  | file (place : Place)
  | device (device : Device)
  deriving DecidableEq, Repr

namespace Files

/-! ## Items -/

/-- What stands at a path; the working directory is a directory. -/
def find? (f : Files) (path : Path) : Option Item :=
  if path.isEmpty then some .directory else f.items.lookup path

/-- Puts an item at a path, in place of what was there. -/
def put (f : Files) (path : Path) (item : Item) : Files :=
  { f with items := f.items.filter (·.1 ≠ path) ++ [(path, item)] }

/-- What a file holds. -/
def content? (f : Files) : Place → Option (List UInt8)
  | .inside path =>
    match f.find? path with
    | some (.file content) => some content
    | _ => none
  | .outside path => f.made.lookup path

/-- Makes a file hold something, in place of what it held. -/
def write (f : Files) (place : Place) (content : List UInt8) : Files :=
  match place with
  | .inside path => f.put path (.file content)
  | .outside path => { f with made := f.made.filter (·.1 ≠ path) ++ [(path, content)] }

/-- Adds bytes to the end of a file. -/
def append (f : Files) (place : Place) (data : List UInt8) : Files :=
  match f.content? place with
  | some content => f.write place (content ++ data)
  | none => f

/-! ## Paths -/

/-- The longest name, in bytes. -/
def longestName : Nat := 255

/-- The longest path, in bytes. -/
def longestPath : Nat := 4095

/-- Cuts a path at its slashes; the name under way is held in reverse. -/
def splitFrom (name : List Char) : List Char → List (List Char)
  | [] => [name.reverse]
  | c :: rest => if c = '/' then name.reverse :: splitFrom [] rest else splitFrom (c :: name) rest

/-- The names of a path. -/
def names (text : List Char) : Path :=
  (splitFrom [] text).filter (!·.isEmpty)

/-! ## Outside the working directory -/

/-- Where the working directory is. -/
def home : Place := .outside (names "/tmp".toList)

/-- The directories that a system has. -/
def directories : List String :=
  ["/bin", "/boot", "/dev", "/dev/pts", "/dev/shm", "/etc", "/home", "/lib", "/media", "/mnt",
    "/opt", "/proc", "/proc/self", "/proc/self/fd", "/root", "/run", "/sbin", "/srv", "/sys",
    "/tmp", "/usr", "/usr/bin", "/usr/lib", "/usr/local", "/usr/share", "/var", "/var/lib",
    "/var/log", "/var/tmp"]

/-- The directories that have another name as well. -/
def otherNames : List (String × Place) :=
  [("/dev/fd", .outside (names "/proc/self/fd".toList)), ("/proc/self/cwd", .inside []),
    ("/proc/self/root", .outside [])]

/-- The devices that a system has. The standard input takes what is written to it. -/
def devices : List (String × Device) :=
  [("/dev/null", .null), ("/dev/zero", .null), ("/dev/random", .null), ("/dev/urandom", .null),
    ("/dev/full", .full), ("/dev/tty", .terminal), ("/dev/stdin", .null),
    ("/dev/stdout", .stdout), ("/dev/stderr", .stderr), ("/proc/self/fd/0", .null),
    ("/proc/self/fd/1", .stdout), ("/proc/self/fd/2", .stderr), ("/proc/self/exe", .program)]

/-- What a table has for a path. -/
def listed? {α : Type} (table : List (String × α)) (path : Path) : Option α :=
  (table.find? fun entry => names entry.1.toList = path).map (·.2)

/-- What a path from the root leads to, if it is one that a system has. -/
def outsideNode? (path : Path) : Option Node :=
  match listed? devices path, listed? otherNames path with
  | some device, _ => some (.device device)
  | none, some place => some (.directory place)
  | none, none =>
    if directories.any fun d => names d.toList = path then some (.directory (.outside path))
    else none

/-! ## Following a path -/

/-- The directory above; the root is above itself. -/
def parent : Place → Place
  | .outside path => .outside path.dropLast
  | .inside [] => home
  | .inside path => .inside path.dropLast

/-- What a name in a directory leads to. -/
def child? (f : Files) (here : Place) (name : List Char) : Option Node :=
  match here with
  | .outside path =>
    (outsideNode? (path ++ [name])).or
      ((f.content? (here.add name)).map fun _ => .file (here.add name))
  | .inside path =>
    (f.find? (path ++ [name])).map fun
      | .file _ => .file (here.add name)
      | .directory => .directory (here.add name)

/-- Whether a name stands for the directory itself or the one above. -/
def isDots (name : List Char) : Bool :=
  name = ['.'] || name = ['.', '.']

/-- Follows a name that has to lead to a directory. -/
def enter (f : Files) (here : Place) (name : List Char) : Except SystemError Place :=
  if name = ['.'] then .ok here
  else if name = ['.', '.'] then .ok (parent here)
  else if longestName < Text.Utf8.size name then .error .nameTooLong
  else
    match f.child? here name with
    | some (.directory place) => .ok place
    | some _ => .error .notDirectory
    | none => .error .noEntry

/-- Follows names that have to lead to directories. -/
def walk (f : Files) (here : Place) : List (List Char) → Except SystemError Place
  | [] => .ok here
  | name :: more => do
    let next ← f.enter here name
    f.walk next more

/-- Makes a file in a directory that has none of its name. -/
def make (f : Files) (here : Place) (name : List Char) : Except SystemError (Files × Target) :=
  if here.takesFiles then .ok (f.write (here.add name) [], .file (here.add name))
  else .error .noEntry

/-- Opens a name in a directory for writing: a file is emptied if it is there, else made. -/
def openAt (f : Files) (here : Place) (name : List Char) : Except SystemError (Files × Target) :=
  if longestName < Text.Utf8.size name then .error .nameTooLong
  else
    match f.child? here name with
    | some (.directory _) => .error .isDirectory
    | some (.file place) => .ok (f.write place [], .file place)
    | some (.device device) =>
      match device.refusal? with
      | some e => .error e
      | none => .ok (f, .device device)
    | none => f.make here name

/-- Creates a file for writing, or empties it. A path that ends in a slash is one of a directory. -/
def create (f : Files) (text : List Char) : Except SystemError (Files × Target) :=
  if text.isEmpty then .error .noEntry
  else if longestPath < Text.Utf8.size text then .error .nameTooLong
  else do
    let path := names text
    let start := if text.head? = some '/' then Place.outside [] else .inside []
    let here ← f.walk start path.dropLast
    match path.getLast? with
    | none => .error .isDirectory
    | some last =>
      if isDots last ∨ text.getLast? = some '/' then .error .isDirectory else f.openAt here last

/-! ## Laws -/

theorem lookup_filter_ne {α : Type} {a b : Path} (ne : a ≠ b) (entries : List (Path × α)) :
    (entries.filter (·.1 ≠ a)).lookup b = entries.lookup b := by
  induction entries with
  | nil => rfl
  | cons head tail ih =>
    obtain ⟨path, entry⟩ := head
    by_cases isA : path = a
    · have isNotB : (b == path) = false := by
        rw [isA]
        exact beq_eq_false_iff_ne.2 ne.symm
      rw [List.filter_cons_of_neg (by simp [isA]), List.lookup_cons, isNotB, ih]
    · rw [List.filter_cons_of_pos (by simp [isA]), List.lookup_cons, List.lookup_cons, ih]

theorem lookup_append_single_ne {α : Type} {a b : Path} (ne : a ≠ b) (entries : List (Path × α))
    (entry : α) : (entries ++ [(a, entry)]).lookup b = entries.lookup b := by
  induction entries with
  | nil => rw [List.nil_append, List.lookup_cons, beq_eq_false_iff_ne.2 ne.symm]
  | cons head tail ih =>
    obtain ⟨path, other⟩ := head
    rw [List.cons_append, List.lookup_cons, List.lookup_cons, ih]

theorem lookup_filter_append_self {α : Type} (a : Path) (entries : List (Path × α)) (entry : α) :
    (entries.filter (·.1 ≠ a) ++ [(a, entry)]).lookup a = some entry := by
  induction entries with
  | nil => simp
  | cons head tail ih =>
    obtain ⟨path, other⟩ := head
    by_cases isA : path = a
    · rw [List.filter_cons_of_neg (by simp [isA]), ih]
    · have isNot : (a == path) = false := beq_eq_false_iff_ne.2 (Ne.symm isA)
      rw [List.filter_cons_of_pos (by simp [isA]), List.cons_append, List.lookup_cons, isNot, ih]

theorem find?_put_of_ne (f : Files) {a b : Path} (ne : a ≠ b) (item : Item) :
    (f.put a item).find? b = f.find? b := by
  simp only [find?, put, lookup_append_single_ne ne, lookup_filter_ne ne]

theorem find?_put_self (f : Files) {path : Path} (ne : path ≠ []) (item : Item) :
    (f.put path item).find? path = some item := by
  simp only [find?, put, lookup_filter_append_self, List.isEmpty_iff, ne, if_false]

theorem content?_write (f : Files) {place : Place} (named : place ≠ .inside [])
    (content : List UInt8) : (f.write place content).content? place = some content := by
  cases place with
  | inside path =>
    have ne : path ≠ [] := fun isEmpty => named (congrArg Place.inside isEmpty)
    simp only [content?, write, find?_put_self f ne]
  | outside path => exact lookup_filter_append_self path f.made content

end Files

end Duet.Tool
