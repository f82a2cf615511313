import LinearStore.FileTree

set_option autoImplicit false

namespace LinearStore.Tasks

def marker : List Char := "INVARIANT:".toList

def splitLines : List Char → List (List Char)
  | [] => [[]]
  | c :: rest =>
      match c == '\n', splitLines rest with
      | true, lines => [] :: lines
      | false, line :: lines => (c :: line) :: lines
      | false, [] => [[c]]

def containsPart (part : List Char) : List Char → Bool
  | [] => part.isEmpty
  | c :: rest => part.isPrefixOf (c :: rest) || containsPart part rest

def countLines (text : String) : Nat :=
  (splitLines text.toList).countP (containsPart marker)

-- Source files end in `.rs`; a name that is nothing else has no ending.
def isSource (name : String) : Bool :=
  let chars := name.toList
  ['.', 'r', 's'].isSuffixOf chars && decide (3 < chars.length)

structure Unreadable where
  path : String
  fault : FileFault
deriving DecidableEq, Repr

def countFile (path name : String) (contents : Except FileFault String) :
    Except Unreadable Nat :=
  if isSource name then
    match contents with
    | .ok text => .ok (countLines text)
    | .error fault => .error ⟨path, fault⟩
  else .ok 0

mutual

def countMarkers (path : String) : FileTree → Except Unreadable Nat
  | .file _ => .error ⟨path, .notDirectory⟩
  | .unlisted fault | .unseen fault _ => .error ⟨path, fault⟩
  | .directory entries => countEntries path entries

def countEntry (path name : String) : FileTree → Except Unreadable Nat
  | .file contents => countFile path name contents
  | .unlisted fault => .error ⟨path, fault⟩
  -- What is not seen to be a directory is taken for a file.
  | .unseen fault _ => countFile path name (.error fault)
  | .directory entries => countEntries path entries

def countEntries (path : String) : List (String × FileTree) → Except Unreadable Nat
  | [] => .ok 0
  | (name, node) :: rest => do
      let here ← countEntry (path ++ "/" ++ name) name node
      let others ← countEntries path rest
      return here + others

end

end LinearStore.Tasks
