import PackageLint.File.Path
import PackageLint.Text.Lines
import PackageLint.Text.Quoted
import PackageLint.Text.Utf8

/-!
# Trees of files

The files that a run can see, as a tree: a file is its bytes, unless it may not be opened, and a
directory holds entries by name. A path is followed from the root part by part; a double dot goes
back to the directory above.

## Main results

* `FileEntry.lookup_setEntry_self`: an entry that was just set is found.
-/

namespace PackageLint

/-- A file or a directory. -/
inductive FileEntry
  /-- A file with its bytes. -/
  | file (bytes : List UInt8)
  /-- A file that may not be opened. -/
  | locked
  /-- A directory with its entries. -/
  | directory (entries : List (String × FileEntry))
  deriving Repr

/-- Why there is no file to read at a path. -/
inductive FileFault
  /-- There is nothing at the path. -/
  | missing
  /-- The path goes through a file. -/
  | notDirectory
  /-- There is a directory at the path. -/
  | isDirectory
  /-- The file at the path may not be opened. -/
  | denied
  deriving DecidableEq, Repr

/-- The wording of a fault at a path. -/
def FileFault.message (path : Path) (fault : FileFault) : String :=
  let reason := match fault with
    | missing => "[Errno 2] No such file or directory"
    | notDirectory => "[Errno 20] Not a directory"
    | isDirectory => "[Errno 21] Is a directory"
    | denied => "[Errno 13] Permission denied"
  s!"{reason}: {Text.quoted path.text}"

namespace FileEntry

/-- The entry is a file. -/
def isFile : FileEntry → Bool
  | file _ | locked => true
  | directory _ => false

/-- The entries of a directory; a file has none. -/
def entries : FileEntry → List (String × FileEntry)
  | file _ | locked => []
  | directory entries => entries

/-- Follows parts from an entry that stands below the directories `above`, the nearest first. -/
def follow (above : List FileEntry) (entry : FileEntry) :
    List String → Except FileFault FileEntry
  | [] => .ok entry
  | part :: rest =>
    match entry with
    | file _ | locked => .error .notDirectory
    | directory entries =>
      if part = ".." then
        match above with
        | [] => follow [] entry rest
        | parent :: others => follow others parent rest
      else match entries.lookup part with
        | some next => follow (entry :: above) next rest
        | none => .error .missing

/-- Entries in which one has been replaced or added. -/
def setEntry (name : String) (entry : FileEntry) : List (String × FileEntry) →
    List (String × FileEntry)
  | [] => [(name, entry)]
  | (other, old) :: rest =>
    if other = name then (name, entry) :: rest else (other, old) :: setEntry name entry rest

/-- The tree with an entry at a path; the directories on the way are made. -/
def put (new : FileEntry) : (parts : List String) → FileEntry → FileEntry
  | [], _ => new
  | part :: rest, entry =>
    let inner := (entry.entries.lookup part).getD (directory [])
    directory (setEntry part (put new rest inner) entry.entries)

/-- The tree without what is at a path. -/
def remove : (parts : List String) → FileEntry → FileEntry
  | [], entry => entry
  | [part], entry => directory (entry.entries.filter (·.1 ≠ part))
  | part :: rest, entry =>
    match entry.entries.lookup part with
    | some inner => directory (setEntry part (remove rest inner) entry.entries)
    | none => entry

end FileEntry

/-- Why a file gives no text. -/
inductive ReadFault
  /-- The path leads to no file. -/
  | unreachable (path : Path) (fault : FileFault)
  /-- The bytes are no text. -/
  | undecodable (failure : Text.Utf8Failure)
  deriving DecidableEq, Repr

/-- The wording of a failure to decode. -/
def decodingMessage (failure : Text.Utf8Failure) : String :=
  let reason := match failure.flaw with
    | .startByte => "invalid start byte"
    | .continuationByte => "invalid continuation byte"
    | .truncated => "unexpected end of data"
  let subject :=
    if failure.width = 1 then
      let digits := String.ofList (Text.hexDigits 2 failure.byte.toNat)
      s!"byte 0x{digits} in position {failure.position}"
    else
      s!"bytes in position {failure.position}-{failure.position + failure.width - 1}"
  s!"'utf-8' codec can't decode {subject}: {reason}"

/-- The wording of a fault. -/
def ReadFault.message : ReadFault → String
  | unreachable path fault => fault.message path
  | undecodable failure => decodingMessage failure

/-- The files that a run can see, and the directory it works in. -/
structure Disk where
  /-- Everything below the root. -/
  root : FileEntry := .directory []
  /-- The directory that relative paths start from. -/
  workingDirectory : Path := { root := "/" }
  deriving Repr

namespace Disk

/-- What is at a path. -/
def find (disk : Disk) (path : Path) : Except FileFault FileEntry :=
  disk.root.follow [] (disk.workingDirectory ++ path).parts

/-- There is something at a path. -/
def has (disk : Disk) (path : Path) : Bool := (disk.find path).isOk

/-- There is a file at a path. -/
def isFile (disk : Disk) (path : Path) : Bool :=
  match disk.find path with
  | .ok entry => entry.isFile
  | .error _ => false

/-- There is a directory at a path. -/
def isDirectory (disk : Disk) (path : Path) : Bool :=
  match disk.find path with
  | .ok entry => !entry.isFile
  | .error _ => false

/-- The names in the directory at a path. -/
def names (disk : Disk) (path : Path) : List String :=
  match disk.find path with
  | .ok entry => entry.entries.map (·.1)
  | .error _ => []

/-- The bytes of the file at a path. -/
def readBytes (disk : Disk) (path : Path) : Except FileFault (List UInt8) :=
  match disk.find path with
  | .ok (.file bytes) => .ok bytes
  | .ok .locked => .error .denied
  | .ok (.directory _) => .error .isDirectory
  | .error fault => .error fault

/-- The text of the file at a path, with line feeds for all line ends. -/
def readText (disk : Disk) (path : Path) : Except ReadFault (List Char) :=
  match disk.readBytes path with
  | .error fault => .error (.unreachable path fault)
  | .ok bytes =>
    match Text.decodeUtf8 bytes with
    | .error failure => .error (.undecodable failure)
    | .ok text => .ok (Text.normalizeNewlines text)

/-- The text of the file at a path, if there is one. -/
def readText? (disk : Disk) (path : Path) : Option (List Char) := (disk.readText path).toOption

/-- The absolute path without double dots that a path means here. -/
def resolve (disk : Disk) (path : Path) : Path := Path.resolve disk.workingDirectory path

/-- The disk with an entry at a path. -/
def put (disk : Disk) (path : Path) (entry : FileEntry) : Disk :=
  { disk with root := FileEntry.put entry (disk.workingDirectory ++ path).parts disk.root }

/-- The disk without what is at a path. -/
def remove (disk : Disk) (path : Path) : Disk :=
  { disk with root := FileEntry.remove (disk.workingDirectory ++ path).parts disk.root }

end Disk

/-- An entry that was just set is found. -/
@[simp] theorem FileEntry.lookup_setEntry_self (name : String) (entry : FileEntry)
    (entries : List (String × FileEntry)) :
    (setEntry name entry entries).lookup name = some entry := by
  induction entries with
  | nil => simp [setEntry]
  | cons head rest ih =>
    obtain ⟨other, old⟩ := head
    by_cases h : other = name
    · simp [setEntry, h]
    · have h' : name ≠ other := fun e => h e.symm
      simp [setEntry, h, List.lookup_cons, beq_eq_false_iff_ne.2 h', ih]

end PackageLint
