import SqlGateway.Engine.Table
import SqlGateway.Text.Percent

/-! Files: database files and texts in folders.

    A path is read from the root if it begins with a slash, else from the home folder. Its parts are
    resolved one after another:

        "a"    one step down        ""  "."  nothing        ".."   one step up, at most to the root

    A file can be made in any folder that exists; an empty text is also an empty database. -/

namespace SqlGateway.Site

/-- Steps from the root. -/
abbrev Path := List String

/-- Follow one part of a path; the steps so far stand with the last one first. -/
def pushPart (above : List String) (part : String) : List String :=
  if part = "" ∨ part = "." then above
  else if part = ".." then above.drop 1
  else part :: above

/-- The steps of a written path. -/
def Path.resolve (home : Path) (written : String) : Path :=
  let parts := (Text.splitChars '/' written.toList).map String.ofList
  let start := if written.startsWith "/" then [] else home.reverse
  (parts.foldl pushPart start).reverse

/-- What a file holds. -/
inductive File where
  | database (content : Engine.Database)
  | text (content : String)
  deriving DecidableEq, Repr

/-- All folders and files. -/
structure Files where
  home : Path := []
  folders : List Path := [[]]
  files : List (Path × File) := []
  deriving DecidableEq, Repr

namespace Files

def isFolder (fs : Files) (p : Path) : Bool := fs.folders.contains p

def file? (fs : Files) (p : Path) : Option File := fs.files.lookup p

/-- Write a file. -/
def put (fs : Files) (p : Path) (f : File) : Files :=
  { fs with files := (p, f) :: fs.files.filter fun (q, _) => q != p }

/-- The database in a file; a file that holds none has no tables. -/
def database (fs : Files) (p : Path) : Engine.Database :=
  match fs.file? p with
  | some (.database db) => db
  | _ => {}

/-- Can the path name a file that is or could be there? -/
def isFilePath (fs : Files) (written : String) : Bool :=
  let p := Path.resolve fs.home written
  !written.endsWith "/" && !fs.isFolder p && fs.isFolder p.dropLast

/-- The file holds a text that is no database. -/
def notDatabase : Fault := Engine.fault 26 "file is not a database"

/-- Open the database at a path, perhaps a new one. -/
def openDatabase (fs : Files) (written : String) (creates : Bool) : Except Fault (Path × Files) :=
  let p := Path.resolve fs.home written
  if !fs.isFilePath written then .error Engine.cannotOpen
  else match fs.file? p with
    | some (.database _) => .ok (p, fs)
    | some (.text s) => if s.isEmpty then .ok (p, fs.put p (.database {})) else .error notDatabase
    | none => if creates then .ok (p, fs.put p (.database {})) else .error Engine.cannotOpen

/-- Read the text at a path, or say why that is impossible. -/
def readText (fs : Files) (written : String) : Except String String :=
  let p := Path.resolve fs.home written
  if written.contains '\x00' then .error "file name contained an unexpected NUL byte"
  else if written.isEmpty then .error "No such file or directory (os error 2)"
  else if fs.isFolder p then .error "Is a directory (os error 21)"
  else match fs.file? p, fs.file? p.dropLast with
    | some (.text s), _ =>
      if written.endsWith "/" then .error "Not a directory (os error 20)" else .ok s
    | some (.database db), _ =>
      if db.tables.isEmpty then .ok "" else .error "stream did not contain valid UTF-8"
    | none, some _ => .error "Not a directory (os error 20)"
    | none, none => .error "No such file or directory (os error 2)"

end Files

end SqlGateway.Site
