set_option autoImplicit false

namespace LinearStore

inductive Kind where
  | seq
  | lseq
  | maybe
  | sequence
deriving DecidableEq, Repr

namespace Kind

def text : Kind → String
  | .seq => "linear seq"
  | .lseq => "lseq"
  | .maybe => "maybe"
  | .sequence => "sequence"

-- A linear value has to be consumed; a sequence may be dropped or shadowed freely.
def isLinear : Kind → Bool
  | .sequence => false
  | _ => true

end Kind

inductive Op where
  | alloc
  | allocInit
  | get
  | set
  | length
  | free
  | unleash
  | select
  | give
  | empty
  | peek
  | unwrap
  | discard
  | allocRaw
  | lengthRaw
  | swapRaw
  | shareRaw
  | take
  | put
  | freeRaw
  | freeLseq
deriving DecidableEq, Repr

inductive FieldType where
  | binding
  | word
  | payload
deriving DecidableEq, Repr

namespace Op

def all : List Op :=
  [alloc, allocInit, get, set, length, free, unleash, select, give, empty, peek, unwrap, discard,
    allocRaw, lengthRaw, swapRaw, shareRaw, take, put, freeRaw, freeLseq]

def text : Op → String
  | alloc => "alloc"
  | allocInit => "alloc_init"
  | get => "get"
  | set => "set"
  | length => "length"
  | free => "free"
  | unleash => "unleash"
  | select => "select"
  | give => "give"
  | empty => "empty"
  | peek => "peek"
  | unwrap => "unwrap"
  | discard => "discard"
  | allocRaw => "alloc_raw"
  | lengthRaw => "length_raw"
  | swapRaw => "swap_raw"
  | shareRaw => "share_raw"
  | take => "take"
  | put => "put"
  | freeRaw => "free_raw"
  | freeLseq => "free_lseq"

def title : Op → String
  | alloc => "Alloc"
  | allocInit => "AllocInit"
  | get => "Get"
  | set => "Set"
  | length => "Length"
  | free => "Free"
  | unleash => "Unleash"
  | select => "Select"
  | give => "Give"
  | empty => "Empty"
  | peek => "Peek"
  | unwrap => "Unwrap"
  | discard => "Discard"
  | allocRaw => "AllocRaw"
  | lengthRaw => "LengthRaw"
  | swapRaw => "SwapRaw"
  | shareRaw => "ShareRaw"
  | take => "Take"
  | put => "Put"
  | freeRaw => "FreeRaw"
  | freeLseq => "FreeLseq"

def fields : Op → List (String × FieldType)
  | alloc => [("name", .binding), ("length", .word)]
  | allocInit => [("name", .binding), ("length", .word), ("value", .payload)]
  | get => [("seq", .binding), ("index", .word)]
  | set => [("seq", .binding), ("index", .word), ("value", .payload)]
  | length => [("seq", .binding)]
  | free => [("seq", .binding)]
  | unleash => [("seq", .binding), ("into", .binding)]
  | select => [("sequence", .binding), ("index", .word)]
  | give => [("name", .binding), ("value", .payload)]
  | empty => [("name", .binding)]
  | peek => [("maybe", .binding)]
  | unwrap => [("maybe", .binding)]
  | discard => [("maybe", .binding)]
  | allocRaw => [("name", .binding), ("length", .word)]
  | lengthRaw => [("lseq", .binding)]
  | swapRaw => [("lseq", .binding), ("index", .word), ("from", .binding), ("into", .binding)]
  | shareRaw => [("lseq", .binding), ("index", .word)]
  | take => [("lseq", .binding), ("index", .word)]
  | put => [("lseq", .binding), ("index", .word), ("value", .payload)]
  | freeRaw => [("lseq", .binding)]
  | freeLseq => [("lseq", .binding)]

def ofText? (name : String) : Option Op := all.find? fun op => op.text = name

theorem of_text_text (op : Op) : ofText? op.text = some op := by
  cases op <;> decide

theorem text_of_of_text {name : String} {op : Op} (found : ofText? name = some op) :
    op.text = name := by
  simpa using List.find?_some found

end Op

end LinearStore
