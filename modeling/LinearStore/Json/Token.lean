import LinearStore.Json.Failure

set_option autoImplicit false

namespace LinearStore

inductive Enclosure where
  | list
  | object
deriving DecidableEq, Repr

namespace Enclosure

def cutShort : Enclosure → SyntaxError
  | list => .endInList
  | object => .endInObject

def unseparated : Enclosure → SyntaxError
  | list => .expectedListCommaOrEnd
  | object => .expectedObjectCommaOrEnd

end Enclosure

inductive Token where
  | opening (enclosure : Enclosure)
  | closing (enclosure : Enclosure)
  | comma
  | colon
  | scalar (value : Scalar)
  -- A malformed scalar. Reading it fails; skipping over it may succeed.
  | faulty (isText : Bool) (onRead : SyntaxError) (onSkip : Option SyntaxError)
  | stray
deriving DecidableEq, Repr

namespace Token

def isImpassable : Token → Bool
  | faulty _ _ onSkip => onSkip.isSome
  | stray => true
  | _ => false

end Token

namespace Json

mutual

def withTokens : Json → List Token → List Token
  | null, rest => .scalar .null :: rest
  | bool value, rest => .scalar (.bool value) :: rest
  | number value, rest => .scalar (.number value) :: rest
  | string value, rest => .scalar (.string value) :: rest
  | array items, rest => .opening .list :: itemTokens items rest
  | object members, rest => .opening .object :: memberTokens members rest

def itemTokens : List Json → List Token → List Token
  | [], rest => .closing .list :: rest
  | [item], rest => item.withTokens (.closing .list :: rest)
  | item :: next :: items, rest => item.withTokens (.comma :: itemTokens (next :: items) rest)

def memberTokens : List (String × Json) → List Token → List Token
  | [], rest => .closing .object :: rest
  | [(name, value)], rest =>
      .scalar (.string name) :: .colon :: value.withTokens (.closing .object :: rest)
  | (name, value) :: next :: members, rest =>
      .scalar (.string name) :: .colon ::
        value.withTokens (.comma :: memberTokens (next :: members) rest)

end

def tokens (value : Json) : List Token := value.withTokens []

end Json

end LinearStore
