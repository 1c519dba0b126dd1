import FlashRescue.Files.Path

/-!
# A tree of files

* `Entry`, `Folder`  files, and folders that hold them by name;
* `Place`            a folder in the tree;
* `Place.follow`     the content of the file that steps lead to;
* `Place.read`       the content of the file at a path.
-/

namespace FlashRescue

inductive Entry where
  | file (content : ByteArray)
  | folder (entries : List (String × Entry))

abbrev Folder : Type := List (String × Entry)

structure Place where
  here : Folder
  around : List Folder := []

namespace Place

/-- the folder that this one lies in; the root lies in itself -/
def up (p : Place) : Place :=
  match p.around with
  | [] => p
  | outer :: around => ⟨outer, around⟩

def root (p : Place) : Place := ⟨p.around.getLastD p.here, []⟩

def down (p : Place) (entries : Folder) : Place := ⟨entries, p.here :: p.around⟩

def follow : Place → List Step → Except PathError ByteArray
  | _, [] => .error .isFolder
  | p, .stay :: rest => p.follow rest
  | p, .up :: rest => p.up.follow rest
  | p, .to name :: rest =>
    if name.utf8ByteSize > Path.maxNameBytes then .error .tooLong
    else match p.here.lookup name with
      | none => .error .missing
      | some (.folder entries) => (p.down entries).follow rest
      | some (.file content) => if rest.isEmpty then .ok content else .error .notFolder

def read (p : Place) (path : String) : Except PathError ByteArray := do
  let path ← Path.parse path
  (if path.fromRoot then p.root else p).follow path.steps

end Place

end FlashRescue
