import CompilerTest.FileTree.Basic

/-!
# Real paths

The real path of a path names the same file without links and without parents. It is found by
following the names one by one and replacing each link by what it leads to. In strict mode every
part has to be there; otherwise the parts that are not there are kept as they are written.

Two limits are left out here, so that a real path depends on where the links lead and not on how the
path is spelled. The system refuses a text that is too long; only in strict mode this is a problem
here as well, while otherwise a link behind such a text would be kept as it is written. And a chain
of links is followed to its end, however many links lead to one another in it and however much of
the stack this takes.
-/

namespace CompilerTest

/-- Why a path has no real path. -/
inductive ResolveError where
  /-- A part of it cannot be followed. -/
  | file (error : FileError)
  /-- Its links lead in a circle. -/
  | loop (shown : String)
  deriving DecidableEq, Repr

namespace FileTree

/-- The links that have been met, with the real path that each leads to; none while it is being
followed. -/
abbrev Links := List (Path × Option Path)

/-- How far following has come: a path, whether all names could be followed, and the links met. -/
structure Progress where
  /-- The path so far. -/
  path : Path
  /-- Whether no circle of links was met. -/
  complete : Bool
  /-- The links that have been met. -/
  links : Links

/-- The path without its last name; a path that leads up leads up further. -/
def ascend (p : Path) : Path :=
  match p.names.getLast? with
  | none => if p.isAbsolute then p else ⟨p.root, [".."]⟩
  | some ".." => p.below [".."]
  | some _ => p.parent

/-- The place and the entry that a text leads to: for the system in strict mode, and otherwise
however long the text is. -/
def seek (t : FileTree) (strict follow : Bool) (text : String) :
    Except FileProblem (Place × Entry) :=
  t.withEntry (if strict then t.locate follow text else t.trace follow text)

theorem seek_false (t : FileTree) (follow : Bool) (text : String) :
    t.seek false follow text = t.withEntry (t.trace follow text) :=
  rfl

/-- Follows names, with `follow` for the target of a link. -/
def realNames (t : FileTree) (strict : Bool)
    (follow : Path → List String → Links → Except ResolveError Progress) :
    Path → List String → Links → Except ResolveError Progress
  | path, [], links => .ok ⟨path, true, links⟩
  | path, name :: rest, links =>
    if name = ".." then realNames t strict follow (ascend path) rest links
    else
      let here := path.below [name]
      match t.seek strict false here.text with
      | .error .hasNull => .error (.file ⟨.hasNull, Text.quote here.text⟩)
      | .error problem =>
        if strict then .error (.file ⟨problem, Text.quote here.text⟩)
        else realNames t strict follow here rest links
      | .ok (_, .link target) =>
        match links.lookup here with
        | some (some real) => realNames t strict follow real rest links
        | some none =>
          if strict then .error (.loop (Text.quote here.text))
          else .ok ⟨here.below rest, false, links⟩
        | none => do
          let start := if target.startsWith "/" then ⟨.single, []⟩ else path
          let inner ← follow start (namesOf target) ((here, none) :: links)
          if inner.complete then
            realNames t strict follow inner.path rest ((here, some inner.path) :: inner.links)
          else .ok ⟨inner.path.below rest, false, inner.links⟩
      | .ok _ => realNames t strict follow here rest links

/-- The number of entries at whose places there is a link. -/
def linkCount (t : FileTree) : Nat :=
  t.entries.countP fun (place, _) => match t.at? place with
    | some (.link _) => true
    | _ => false

/-- Follows names through links that lead to one another, at most `depth` deep. -/
def realFrom (t : FileTree) (strict : Bool) :
    Nat → Path → List String → Links → Except ResolveError Progress
  | 0 => fun path names links => .ok ⟨path.below names, false, links⟩
  | depth + 1 => t.realNames strict (t.realFrom strict depth)

/-- The names that are left when every parent takes away the name before it. -/
def collapse (names : List String) : List String :=
  names.foldl (fun acc name => if name = ".." then acc.dropLast else acc ++ [name]) []

/-- The working directory as a path. -/
def workingDirectory (t : FileTree) : Path := ⟨.single, t.workingPlace⟩

/-- The absolute path that a path spells, with parents taken away by their names alone. -/
def absolute (t : FileTree) (p : Path) : Path :=
  let whole := t.workingDirectory.join p
  ⟨whole.root, collapse whole.names⟩

/-- The real path of a path. -/
def realPath (t : FileTree) (strict : Bool) (p : Path) : Except ResolveError Path := do
  let start : Path := if p.isAbsolute then ⟨.single, []⟩ else ⟨.relative, []⟩
  let progress ← t.realFrom strict (2 * t.linkCount + 2) start p.names []
  let real := t.absolute progress.path
  if strict then return real
  else match t.seek false true real.text with
    | .error .tooManyLinks => .error (.loop (Text.quote real.text))
    | .error .hasNull => .error (.file ⟨.hasNull, Text.quote real.text⟩)
    | _ => return real

end FileTree

end CompilerTest
