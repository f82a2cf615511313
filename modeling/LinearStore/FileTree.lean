
set_option autoImplicit false

namespace LinearStore

inductive FileFault where
  | missing
  | denied
  | isDirectory
  | notDirectory
  | nameTooLong
  | notText
deriving DecidableEq, Repr

def FileFault.message : FileFault → String
  | missing => "No such file or directory (os error 2)"
  | denied => "Permission denied (os error 13)"
  | isDirectory => "Is a directory (os error 21)"
  | notDirectory => "Not a directory (os error 20)"
  | nameTooLong => "File name too long (os error 36)"
  | notText => "stream did not contain valid UTF-8"

-- A directory may refuse to list its entries. An entry that is listed may still hide what it is, when
-- its directory refuses to be searched or its path is too long.
inductive FileTree where
  | file (contents : Except FileFault String)
  | directory (entries : List (String × FileTree))
  | unlisted (fault : FileFault)
  | unseen (fault : FileFault) (hidden : FileTree)

namespace FileTree

def child? (name : String) : FileTree → Option FileTree
  | directory entries => (entries.find? fun entry => entry.1 = name).map Prod.snd
  | _ => none

def insert (tree : FileTree) : List String → FileTree → FileTree
  | [], _ => tree
  | name :: path, parent =>
      let inner := tree.insert path ((parent.child? name).getD (directory []))
      let others := match parent with
        | directory entries => entries.filter fun entry => entry.1 ≠ name
        | _ => []
      directory (others ++ [(name, inner)])

def nameLimit : Nat := 255

def pathLimit : Nat := 4095

-- Follows names from a tree; the directories above it, nearest first, are there to go back. Above
-- the root is the root. Only a directory can be gone through, even if the name is empty.
def follow (above : List FileTree) (here : FileTree) : List String → Except FileFault FileTree
  | [] => .ok here
  | name :: path =>
      match here with
      | file _ => .error .notDirectory
      | unlisted fault | unseen fault _ => .error fault
      | directory entries =>
          if name = "" ∨ name = "." then follow above (directory entries) path
          else if name = ".." then
            match above with
            | [] => follow [] (directory entries) path
            | parent :: above => follow above parent path
          else if nameLimit < name.utf8ByteSize then .error .nameTooLong
          else
            match (directory entries).child? name with
            | none => .error .missing
            | some child => follow (directory entries :: above) child path

def textAt (root : FileTree) (current : List String) (path : String) : Except FileFault String :=
  if path.isEmpty then .error .missing
  else if pathLimit < path.utf8ByteSize then .error .nameTooLong
  else
    let names := path.splitOn "/"
    match follow [] root (if names.head? = some "" then names else current ++ names) with
    | .error fault => .error fault
    | .ok (file contents) => contents
    | .ok (directory _) => .error .isDirectory
    | .ok (unlisted fault) | .ok (unseen fault _) => .error fault

end FileTree

end LinearStore
