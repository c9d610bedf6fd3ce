import Facade.Files.Path
import Facade.Table

/-!
# Trees of files

* `Tree`: files with the bytes in them, and directories. Not all of what lies in a file need be a text.
* `Tree.isFile`, `Tree.isDirectory`, `Tree.exists`: what stands under a path. A directory exists
  because it was made or because something lies in it.
-/

namespace Facade

/-- Files and directories, by their paths. -/
structure Tree where
  /-- The bytes in the files. -/
  files : Table String ByteArray := {}
  /-- The directories that were made. -/
  directories : List String := []
  deriving Inhabited

namespace Tree

/-- The tree of files that are texts. -/
def ofTexts (files : Table String String) (directories : List String) : Tree :=
  { files := ⟨files.entries.map fun e => (e.1, e.2.toUTF8)⟩, directories }

/-- Whether there is a file under a path. -/
def isFile (t : Tree) (path : String) : Bool := t.files.contains path

/-- Whether there is a directory under a path. -/
def isDirectory (t : Tree) (path : String) : Bool :=
  t.directories.any (fun d => Path.isBelow d path) ||
    t.files.keys.any fun f => Path.isBelow (Path.parent f) path

/-- Whether there is anything under a path. -/
def exists? (t : Tree) (path : String) : Bool := t.isFile path || t.isDirectory path

/-- The bytes in a file. -/
def read? (t : Tree) (path : String) : Option ByteArray := t.files.get? path

/-- The tree with a text in a file. -/
def write (t : Tree) (path content : String) : Tree :=
  { t with files := t.files.set path content.toUTF8 }

theorem read?_write (t : Tree) (path other content : String) :
    (t.write path content).read? other =
      if path = other then some content.toUTF8 else t.read? other :=
  Table.get?_set t.files path other content.toUTF8

end Tree

end Facade
