import CompilerTest.Path

/-!
# File trees

The files that a run can see: directories, regular files, symbolic links, and the programs that are
at hand. A tree is a list of entries under their places; a place is the list of names that lead to
the entry from the root. A text that names a file is followed from the working directory or from the
root, through links and through parents, to a place.

Two things are left out. Beyond the mark of files that may be run, nothing is said about
permissions: every file can be read and replaced, and every directory can be listed and written to.
And there are no hard links: a file has one place, so what is written under one name never shows
under another one, symbolic links apart.
-/

namespace CompilerTest

/-- Where an entry of a file tree is: the names that lead to it from the root. -/
abbrev Place := List String

/-- What is at a place. -/
inductive Entry where
  /-- A regular file. -/
  | file (content : Bytes) (executable : Bool)
  /-- A directory. -/
  | directory
  /-- A symbolic link. -/
  | link (target : String)
  /-- A program that comes with the system. -/
  | program (name : String)
  deriving DecidableEq, Repr

/-- The files that a run can see. -/
structure FileTree where
  /-- The entries under their places. The root itself is not listed. -/
  entries : List (Place × Entry)
  /-- The working directory. -/
  workingPlace : Place
  deriving DecidableEq, Inhabited

/-- Why the system refuses to do something with a file. -/
inductive FileProblem where
  | notFound
  | alreadyThere
  | notDirectory
  | isDirectory
  | denied
  | notEmpty
  | tooManyLinks
  | nameTooLong
  | badFormat
  | sameFile
  | hasNull
  deriving DecidableEq, Repr

namespace FileProblem

/-- The number of a problem. -/
def number : FileProblem → Nat
  | notFound => 2
  | alreadyThere => 17
  | notDirectory => 20
  | isDirectory => 21
  | denied => 13
  | notEmpty => 39
  | tooManyLinks => 40
  | nameTooLong => 36
  | badFormat => 8
  | sameFile => 22
  | hasNull => 22

/-- The wording of a problem. -/
def description : FileProblem → String
  | notFound => "No such file or directory"
  | alreadyThere => "File exists"
  | notDirectory => "Not a directory"
  | isDirectory => "Is a directory"
  | denied => "Permission denied"
  | notEmpty => "Directory not empty"
  | tooManyLinks => "Too many levels of symbolic links"
  | nameTooLong => "File name too long"
  | badFormat => "Exec format error"
  | sameFile => "Invalid argument"
  | hasNull => "embedded null byte"

end FileProblem

/-- A refusal of the system, with the file that it is about as messages show it. -/
structure FileError where
  /-- Why it refuses. -/
  problem : FileProblem
  /-- The file, as shown. -/
  shown : String
  deriving DecidableEq, Repr

/-- The message of a refusal. -/
def FileError.message (e : FileError) : String :=
  s!"[Errno {e.problem.number}] {e.problem.description}: " ++ e.shown

namespace FileTree

/-! ## Entries -/

/-- What is at a place. -/
def at? (t : FileTree) (place : Place) : Option Entry :=
  if place.isEmpty then some .directory else t.entries.lookup place

/-- Puts an entry at a place: an entry that is there keeps its position in the list. -/
def putEntry (place : Place) (entry : Entry) : List (Place × Entry) → List (Place × Entry)
  | [] => [(place, entry)]
  | (q, e) :: rest =>
    if q = place then (q, entry) :: rest else (q, e) :: putEntry place entry rest

/-- The tree with an entry put at a place. -/
def put (t : FileTree) (place : Place) (entry : Entry) : FileTree :=
  { t with entries := putEntry place entry t.entries }

/-- The tree with the entry at a place taken away. -/
def erase (t : FileTree) (place : Place) : FileTree :=
  { t with entries := t.entries.filter fun (q, _) => q ≠ place }

/-! ## Following names -/

/-- What following names leads to: a place, at which there may be nothing yet, or a link in the
middle, with the names that come after it. -/
inductive Walked where
  /-- The names are used up. -/
  | arrived (place : Place)
  /-- A link stands in the directory at `place`. -/
  | met (place : Place) (target : String) (rest : List String)

/-- The greatest number of bytes of a name. -/
def nameLimit : Nat := 255

/-- Follows names from a place up to the next link. If `follow` is not set, a link at the very end
is not a link to follow. -/
def walkNames (t : FileTree) (follow : Bool) : Place → List String → Except FileProblem Walked
  | place, [] => .ok (.arrived place)
  | place, name :: rest =>
    match t.at? place with
    | none => .error .notFound
    | some .directory =>
      if name = ".." then walkNames t follow place.dropLast rest
      else if (Bytes.ofText name).length > nameLimit then .error .nameTooLong
      else
        let here := place ++ [name]
        match t.at? here with
        | some (.link target) =>
          if rest.isEmpty && !follow then .ok (.arrived here) else .ok (.met place target rest)
        | none => if rest.isEmpty then .ok (.arrived here) else .error .notFound
        | some _ => walkNames t follow here rest
    | some _ => .error .notDirectory

/-- The names in a text. -/
def namesOf (text : String) : List String := (Path.split text).filter Path.isName

/-- The place from which a text is followed, when names are followed from `place`. -/
def startOf (text : String) (place : Place) : Place :=
  if text.startsWith "/" then [] else place

/-- Follows names from a place, through at most `links` links. -/
def walk (t : FileTree) (follow : Bool) : Nat → Place → List String → Except FileProblem Place
  | links, place, names => do
    match ← t.walkNames follow place names with
    | .arrived place => return place
    | .met place target rest =>
      match links with
      | 0 => .error .tooManyLinks
      | links + 1 => walk t follow links (startOf target place) (namesOf target ++ rest)

/-- The greatest number of links that are followed. -/
def linkLimit : Nat := 40

/-- The place that a text leads to, however long it is. There may be nothing yet at the place. -/
def trace (t : FileTree) (follow : Bool) (text : String) : Except FileProblem Place :=
  if text.toList.contains '\x00' then .error .hasNull
  else if text = "" then .error .notFound
  else t.walk follow linkLimit (startOf text t.workingPlace) (namesOf text)

/-- The greatest number of bytes of a text that names a file. -/
def textLimit : Nat := 4095

/-- Whether the system refuses a text for its length. That there is a zero byte in it is noticed
first. -/
def isTooLong (text : String) : Bool :=
  !text.toList.contains '\x00' && decide ((Bytes.ofText text).length > textLimit)

theorem not_mem_of_isTooLong {text : String} (h : isTooLong text = true) :
    '\x00' ∉ text.toList := by
  rw [isTooLong, Bool.and_eq_true] at h
  simpa using h.1

/-- The place that a text leads to for the system, at which there may be nothing yet. -/
def locate (t : FileTree) (follow : Bool) (text : String) : Except FileProblem Place :=
  if isTooLong text then .error .nameTooLong else t.trace follow text

/-- A place that has been looked for, with the entry there. -/
def withEntry (t : FileTree) (found : Except FileProblem Place) :
    Except FileProblem (Place × Entry) := do
  let place ← found
  match t.at? place with
  | some entry => return (place, entry)
  | none => .error .notFound

/-- The place and the entry that a text leads to for the system. -/
def find (t : FileTree) (follow : Bool) (text : String) : Except FileProblem (Place × Entry) :=
  t.withEntry (t.locate follow text)

/-! ## Questions -/

/-- Whether asking about a missing or unreachable file simply means that it is not there. -/
def isAbsence : FileProblem → Bool
  | .notFound => true
  | .notDirectory => true
  | .tooManyLinks => true
  | .hasNull => true
  | _ => false

/-- The entry that a text leads to, or nothing if there is none. -/
def entry? (t : FileTree) (text : String) : Except FileError (Option Entry) :=
  match t.find true text with
  | .ok (_, entry) => .ok (some entry)
  | .error problem =>
    if isAbsence problem then .ok none else .error ⟨problem, Text.quote text⟩

/-- Whether there is something at a path. -/
def exists? (t : FileTree) (p : Path) : Except FileError Bool := do
  return (← t.entry? p.text).isSome

/-- Whether an entry is a regular file. -/
def isRegular : Entry → Bool
  | .file _ _ => true
  | .program _ => true
  | _ => false

/-- Whether there is a regular file at a path. -/
def isFile? (t : FileTree) (p : Path) : Except FileError Bool := do
  return ((← t.entry? p.text).map isRegular).getD false

/-! ## Operations -/

/-- Names the file in a refusal. -/
def about {α : Type} (text : String) : Except FileProblem α → Except FileError α
  | .ok a => .ok a
  | .error problem => .error ⟨problem, Text.quote text⟩

/-- The content of the file that a text leads to. -/
def content (t : FileTree) (text : String) : Except FileProblem Bytes := do
  match (← t.find true text).2 with
  | .file content _ => return content
  | .program _ => return []
  | _ => .error .isDirectory

/-- Reads a file. -/
def read (t : FileTree) (p : Path) : Except FileError Bytes := about p.text (t.content p.text)

/-- The tree in which the file that a text leads to holds `change` of what it held; a new file holds
`change` of nothing. -/
def update (t : FileTree) (text : String) (change : Bytes → Bytes) :
    Except FileProblem FileTree := do
  let place ← t.locate true text
  match t.at? place with
  | some (.file content executable) => return t.put place (.file (change content) executable)
  | some .directory => .error .isDirectory
  | some (.program _) => .error .denied
  | _ => return t.put place (.file (change []) false)

/-- Writes a file. -/
def write (t : FileTree) (p : Path) (content : Bytes) : Except FileError FileTree :=
  about p.text (t.update p.text fun _ => content)

/-- Takes away the file or the link that a text names. -/
def unlink (t : FileTree) (text : String) : Except FileProblem FileTree := do
  match ← t.find false text with
  | (_, .directory) => .error .isDirectory
  | (place, _) => return t.erase place

/-- Takes away a file or a link, if there is one. -/
def remove (t : FileTree) (p : Path) : Except FileError FileTree :=
  match t.unlink p.text with
  | .error .notFound => .ok t
  | result => about p.text result

/-- Makes a directory. -/
def makeDirectory (t : FileTree) (text : String) : Except FileProblem FileTree := do
  let place ← t.locate false text
  match t.at? place with
  | some _ => .error .alreadyThere
  | none => return t.put place .directory

/-- Whether a text leads to a directory. -/
def isDirectory (t : FileTree) (text : String) : Bool :=
  match t.find true text with
  | .ok (_, .directory) => true
  | _ => false

/-- Makes a directory that may be there already, together with those above it. `depth` bounds the
number of directories above. -/
def makeDirectories (t : FileTree) : Nat → Path → Except FileError FileTree
  | depth, p =>
    match t.makeDirectory p.text with
    | .ok t => .ok t
    | .error .notFound =>
      match depth with
      | 0 => .error ⟨.notFound, Text.quote p.text⟩
      | depth + 1 => do
        if p.parent = p then .error ⟨.notFound, Text.quote p.text⟩
        else
          let t ← makeDirectories t depth p.parent
          match t.makeDirectory p.text with
          | .ok t => .ok t
          | .error problem =>
            if problem ≠ .notFound && t.isDirectory p.text then .ok t
            else .error ⟨problem, Text.quote p.text⟩
    | .error problem =>
      if problem ≠ .hasNull && t.isDirectory p.text then .ok t
      else .error ⟨problem, Text.quote p.text⟩

/-- Makes a directory, if it is not there, together with those above it. -/
def ensureDirectory (t : FileTree) (p : Path) : Except FileError FileTree :=
  t.makeDirectories (p.names.length + 1) p

end FileTree

end CompilerTest
