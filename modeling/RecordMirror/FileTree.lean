import RecordMirror.Path
import RecordMirror.Text.Blank
import RecordMirror.Text.Utf8
/-!
A tree of files and directories with a working directory.  A path is followed part by part, so a
step up from a directory that is not there leads nowhere, and names and paths have a greatest
length.  Every operation says how it fails and leaves the tree as it is when it does.
-/

namespace RecordMirror

/-- What stands at a place of a tree. -/
inductive FileEntry
  | file (bytes : List UInt8)
  | directory
deriving DecidableEq, Repr, Inhabited

/-- Whether a text can name a file or a directory: it is a part of a path, but no step up. -/
def isFileName (name : String) : Bool :=
  isPathPart name && name ≠ Path.up

/-- A place of a tree: the names that lead to it from the root. -/
structure Place where
  names : List String
  proper : ∀ name ∈ names, isFileName name = true
deriving DecidableEq, Repr

namespace Place

/-- The root. -/
def root : Place := ⟨[], List.forall_mem_nil _⟩

instance : Inhabited Place := ⟨root⟩

/-- The place above.  The root is above itself. -/
def above (place : Place) : Place where
  names := place.names.dropLast
  proper name hname := place.proper name ((List.dropLast_sublist _).mem hname)

/-- The place of a name in a directory. -/
def child (place : Place) (name : String) (h : isFileName name = true) : Place where
  names := place.names ++ [name]
  proper other hother := by
    rcases List.mem_append.1 hother with hother | hother
    · exact place.proper other hother
    · exact List.mem_singleton.1 hother ▸ h

/-- The place that a part of a path leads to.  What is neither a name nor a step up leads to where
it stands. -/
def step (place : Place) (part : String) : Place :=
  if part = Path.up then place.above
  else if h : isFileName part = true then place.child part h
  else place

/-- The place that the parts of a path lead to. -/
def steps (place : Place) (parts : List String) : Place :=
  parts.foldl step place

instance : Coe (List String) Place := ⟨root.steps⟩

/-- The path of a place. -/
def path (place : Place) : Path where
  anchor := .root
  parts := place.names
  proper name hname := (Bool.and_eq_true_iff.1 (place.proper name hname)).1

end Place

/-- No place has two entries. -/
class DistinctPlaces (entries : List (Place × FileEntry)) : Prop where
  nodup : (entries.map (·.1)).Nodup

instance : DistinctPlaces [] := ⟨List.nodup_nil⟩

/-- A tree of files. -/
structure FileTree where
  /-- The place that paths begin at if they do not begin at the root. -/
  workingDirectory : Place
  /-- What stands at the places below the root. -/
  entries : List (Place × FileEntry)
  [distinct : DistinctPlaces entries]
deriving DecidableEq, Repr

instance : Inhabited FileTree := ⟨⟨.root, []⟩⟩

/-- Why a path cannot be used. -/
inductive AccessFault
  | missing
  | alreadyThere
  | notADirectory
  | isADirectory
  | nameTooLong
  | nullCharacter
deriving DecidableEq, Repr

/-- A path that cannot be used. -/
structure AccessError where
  fault : AccessFault
  path : Path
deriving DecidableEq, Repr

/-- The number that systems give a fault, unless it is none of theirs. -/
def AccessFault.number? : AccessFault → Option Nat
  | missing => some 2
  | alreadyThere => some 17
  | notADirectory => some 20
  | isADirectory => some 21
  | nameTooLong => some 36
  | nullCharacter => none

/-- The wording of a fault. -/
def AccessFault.message : AccessFault → String
  | missing => "No such file or directory"
  | alreadyThere => "File exists"
  | notADirectory => "Not a directory"
  | isADirectory => "Is a directory"
  | nameTooLong => "File name too long"
  | nullCharacter => "embedded null byte"

/-- The wording of the error. -/
def AccessError.message (e : AccessError) : String :=
  match e.fault.number? with
  | some number => s!"[Errno {number}] {e.fault.message}: {quoted e.path.text}"
  | none => e.fault.message

/-- Why a text cannot be read from a file. -/
inductive ReadError
  | access (cause : AccessError)
  | decoding (cause : Utf8Error)
deriving DecidableEq, Repr

namespace FileTree

/-- What stands at a place.  The root is a directory. -/
def get? (t : FileTree) (place : Place) : Option FileEntry :=
  if place = .root then some .directory else (t.entries.find? (·.1 = place)).map (·.2)

/-- Puts something at a place. -/
def put (t : FileTree) (place : Place) (entry : FileEntry) : FileTree where
  workingDirectory := t.workingDirectory
  entries := (place, entry) :: t.entries.filter (·.1 ≠ place)
  distinct := by
    refine ⟨List.nodup_cons.2 ⟨?_, ?_⟩⟩
    · simp
    · exact t.distinct.nodup.sublist (List.filter_sublist.map _)

@[simp] theorem get?_put_self (t : FileTree) {place : Place} (h : place ≠ .root)
    (entry : FileEntry) : (t.put place entry).get? place = some entry := by
  simp [get?, put, h]

@[simp] theorem get?_put_of_ne (t : FileTree) {place other : Place} (h : other ≠ place)
    (entry : FileEntry) : (t.put place entry).get? other = t.get? other := by
  unfold get? put
  split
  · rfl
  · have hne : ¬place = other := fun heq => h heq.symm
    simp only [List.find?_cons, hne, decide_false, List.find?_filter]
    congr 2
    funext e
    by_cases he : e.1 = other <;> simp [he, h]

/-- The most bytes of a name. -/
def longestName : Nat := 255

/-- The most bytes of a path. -/
def longestPath : Nat := 4095

/-- Follows parts from a place.  What they are followed from must be a directory. -/
def follow (t : FileTree) : Place → List String → Except AccessFault Place
  | place, [] => .ok place
  | place, part :: rest =>
    match t.get? place with
    | some .directory =>
      if longestName < part.utf8ByteSize then .error .nameTooLong
      else t.follow (place.step part) rest
    | some (.file _) => .error .notADirectory
    | none => .error .missing

/-- The place that a path begins at. -/
def start (t : FileTree) (path : Path) : Place :=
  match path.anchor with
  | .none => t.workingDirectory
  | _ => .root

/-- The place that a path leads to.  Nothing need stand there. -/
def place (t : FileTree) (path : Path) : Except AccessFault Place :=
  if path.hasNull then .error .nullCharacter
  else if longestPath < path.text.utf8ByteSize then .error .nameTooLong
  else t.follow (t.start path) path.parts

/-- The place that a path names, as a path from the root.  A step up takes back the part before it,
whatever stands there. -/
def resolve (t : FileTree) (path : Path) : Path :=
  ((t.start path).steps path.parts).path

/-- The place that a path names, if the path can name one. -/
def absolute (t : FileTree) (path : Path) : Except AccessError Path :=
  if path.hasNull then .error ⟨.nullCharacter, path⟩ else .ok (t.resolve path)

/-- What stands where a path leads to, if it leads anywhere. -/
def at? (t : FileTree) (path : Path) : Option FileEntry :=
  match t.place path with
  | .ok place => t.get? place
  | .error _ => none

/-- What stands where a path leads to, if it leads anywhere.  That a name is too long is an error
even where one only asks. -/
def status (t : FileTree) (path : Path) : Except AccessError (Option FileEntry) :=
  match t.place path with
  | .ok place => .ok (t.get? place)
  | .error .nameTooLong => .error ⟨.nameTooLong, path⟩
  | .error _ => .ok none

/-- Whether a path leads to something. -/
def contains (t : FileTree) (path : Path) : Except AccessError Bool :=
  (t.status path).map Option.isSome

/-- Whether a path leads to a directory. -/
def hasDirectory (t : FileTree) (path : Path) : Bool :=
  t.at? path == some .directory

/-- Whether a path leads to a file. -/
def hasFile (t : FileTree) (path : Path) : Except AccessError Bool :=
  (t.status path).map fun
    | some (.file _) => true
    | _ => false

/-- The bytes of a file. -/
def read (t : FileTree) (path : Path) : Except AccessError (List UInt8) :=
  match t.place path with
  | .error fault => .error ⟨fault, path⟩
  | .ok place =>
    match t.get? place with
    | none => .error ⟨.missing, path⟩
    | some .directory => .error ⟨.isADirectory, path⟩
    | some (.file bytes) => .ok bytes

/-- The text of a file.  Every kind of line end is read as a line feed. -/
def readText (t : FileTree) (path : Path) : Except ReadError String :=
  match t.read path with
  | .error cause => .error (.access cause)
  | .ok bytes =>
    match textOfUtf8 bytes with
    | .error cause => .error (.decoding cause)
    | .ok text => .ok (String.ofList (unifyLineEnds text.toList))

/-- Writes a text to a file, in the place of what the file held. -/
def writeText (t : FileTree) (path : Path) (text : String) : Except AccessError FileTree :=
  match t.place path with
  | .error fault => .error ⟨fault, path⟩
  | .ok place =>
    if t.get? place = some .directory then .error ⟨.isADirectory, path⟩
    else .ok (t.put place (.file (utf8OfText text)))

/-- Makes a directory in one that is there. -/
def makeDirectory (t : FileTree) (path : Path) : Except AccessError FileTree :=
  match t.place path with
  | .error fault => .error ⟨fault, path⟩
  | .ok place =>
    if (t.get? place).isSome then .error ⟨.alreadyThere, path⟩
    else .ok (t.put place .directory)

/-- Makes a directory, unless it is there, in one that is there. -/
def ensureLast (t : FileTree) (path : Path) : Except AccessError FileTree :=
  match t.makeDirectory path with
  | .ok made => .ok made
  | .error cause => if t.hasDirectory path then .ok t else .error cause

/-- Makes a directory, unless it is there, and all that are missing above it.  The directories
above it stay when the last one cannot be made. -/
def ensureDirectory (t : FileTree) (path : Path) : FileTree × Except AccessError Unit :=
  match t.makeDirectory path with
  | .ok made => (made, .ok ())
  | .error cause =>
    if t.hasDirectory path then (t, .ok ())
    else if cause.fault ≠ .missing ∨ path.parts = [] then (t, .error cause)
    else
      match t.ensureDirectory path.parent with
      | (made, .error cause) => (made, .error cause)
      | (made, .ok ()) =>
        match made.ensureLast path with
        | .ok made => (made, .ok ())
        | .error cause => (made, .error cause)
termination_by path.parts.length
decreasing_by
  have := List.length_pos_iff.2 (fun h : path.parts = [] => by simp_all)
  simp only [Path.parent, List.length_dropLast]
  omega

/-- The paths of all that lies below a directory, at any depth. -/
def descendants (t : FileTree) (path : Path) : List Path :=
  match t.place path with
  | .error _ => []
  | .ok place =>
    if t.get? place = some .directory then
      t.entries.filterMap fun (other, _) =>
        if place.names.isPrefixOf other.names && place.names.length < other.names.length then
          some (path.append (other.path.drop place.names.length))
        else none
    else []

/-- The entries that are new or different since an earlier tree, by the names of their places. -/
def changesSince (t earlier : FileTree) : List (List String × FileEntry) :=
  (t.entries.filter fun (place, entry) => earlier.get? place ≠ some entry).map
    fun (place, entry) => (place.names, entry)

end FileTree

end RecordMirror
