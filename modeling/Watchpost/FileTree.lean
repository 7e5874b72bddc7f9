import Watchpost.Text.Split

set_option autoImplicit false

/-! # Directory trees

A tree of directories and files with their contents. Entries stand in the order in which a directory
lists them. A name is a row of bytes, as file systems have it, and need not be a text. Paths are
lists of names, relative to the tree. -/

namespace Watchpost

/-! ## Names -/

/-- The name of an entry in a directory. -/
structure FileTree.Name where
  bytes : List UInt8
deriving DecidableEq, Repr, Inhabited

namespace FileTree.Name

/-- The name that is written as a text. -/
def ofText (s : String) : Name :=
  ⟨s.toUTF8.data.toList⟩

instance : Coe String Name := ⟨ofText⟩

/-- The text that a name is in UTF-8; `none` if it is no text. -/
def text? (name : Name) : Option String :=
  String.fromUTF8? ⟨name.bytes.toArray⟩

/-- A name for reports. Of one that is no text, every byte is shown as a character. -/
def shown (name : Name) : String :=
  name.text?.getD (String.ofList (name.bytes.map fun b => Char.ofNat b.toNat))

/-- The byte of a dot. -/
def dot : UInt8 := 0x2e

/-- The extension of a name: what follows its last dot, if anything stands in front of that dot. -/
def extension? (name : Name) : Option Name :=
  match name.bytes.reverse.dropWhile (· != dot) with
  | _ :: _ :: _ => some ⟨(name.bytes.reverse.takeWhile (· != dot)).reverse⟩
  | _ => none

end FileTree.Name

/-! ## Trees and paths -/

/-- A file with its bytes, or a directory with its entries. -/
inductive FileTree where
  | file (content : ByteArray)
  | directory (entries : List (FileTree.Name × FileTree))
deriving Inhabited

namespace FileTree

/-- A path as a list of names. -/
abbrev Path := List Name

instance : Coe (List String) Path := ⟨List.map Name.ofText⟩

/-- Paths in the order of their names, the first that differs deciding. Names are in the order of
    their bytes. -/
def pathAtMost : Path → Path → Bool
  | [], _ => true
  | _ :: _, [] => false
  | a :: p, b :: q => if a = b then pathAtMost p q else decide (a.bytes ≤ b.bytes)

/-- A path as a text, with slashes between its names. -/
def pathText (p : Path) : String :=
  "/".intercalate (p.map Name.shown)

/-- What stands at a path. -/
def at? (t : FileTree) : Path → Option FileTree
  | [] => some t
  | name :: rest =>
    match t with
    | .directory entries => (entries.lookup name).bind fun child => child.at? rest
    | .file _ => none

/-- Go down the names of a written path from a directory, whose path is given from its last name to
    its first. An empty name and a dot stay where they are, two dots go up. Every other name is one
    that is written as a text. -/
def walk (t : FileTree) : Path → List String → Option Path
  | here, [] => some here
  | here, name :: rest =>
    match t.at? here.reverse with
    | some (.directory _) =>
      if name = "" || name = "." then walk t here rest
      else if name = ".." then
        match here with
        | [] => none
        | _ :: up => walk t up rest
      else walk t (name :: here) rest
    | _ => none

/-- What stands at a written path. Paths that leave the tree lead nowhere. -/
def find? (t : FileTree) (path : String) : Option FileTree :=
  if path = "" || path.toList.head? == some '/' then none
  else (t.walk [] (Text.splitString '/' path)).bind fun here => t.at? here.reverse

/-- Put an entry into a list of entries, in place of one with the same name. -/
def putEntry (name : Name) (child : FileTree) :
    List (Name × FileTree) → List (Name × FileTree)
  | [] => [(name, child)]
  | (n, old) :: rest =>
    if n = name then (name, child) :: rest else (n, old) :: putEntry name child rest

/-- Change what stands at a path, making directories on the way where there are none. -/
def update (t : FileTree) (path : Path) (change : Option FileTree → FileTree) : FileTree :=
  match path with
  | [] => change (some t)
  | name :: rest =>
    let entries := match t with
      | .directory entries => entries
      | .file _ => []
    let child := match rest with
      | [] => change (entries.lookup name)
      | _ => ((entries.lookup name).getD (.directory [])).update rest change
    .directory (putEntry name child entries)

/-- Write a file. -/
def write (t : FileTree) (path : Path) (content : ByteArray) : FileTree :=
  t.update path fun _ => .file content

/-- Make a directory, unless there is one. -/
def makeDirectory (t : FileTree) (path : Path) : FileTree :=
  t.update path fun
    | some (.directory entries) => .directory entries
    | _ => .directory []

/-- The text of a file; `none` for anything that is not a file of valid text. -/
def text? : FileTree → Option String
  | .file content => String.fromUTF8? content
  | .directory _ => none

end FileTree

end Watchpost
