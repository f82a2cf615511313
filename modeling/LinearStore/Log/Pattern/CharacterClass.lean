import LinearStore.Log.Pattern.Atom

set_option autoImplicit false

namespace LinearStore.Log.Pattern

-- No text is ever compared with a pattern here, so of a class only what decides whether it can be used
-- is kept.
structure CharacterClass where
  depth : Nat := 0
  hasMembers : Bool := false
  hasShorthands : Bool := false
  hasNegations : Bool := false
  isWide : Bool := false
deriving DecidableEq, Repr

namespace CharacterClass

def join (a b : CharacterClass) : CharacterClass where
  depth := max a.depth b.depth
  hasMembers := a.hasMembers || b.hasMembers
  hasShorthands := a.hasShorthands || b.hasShorthands
  hasNegations := a.hasNegations || b.hasNegations
  isWide := a.isWide || b.isWide

def enclose (inner : CharacterClass) : CharacterClass := { inner with depth := inner.depth + 1 }

def union : List CharacterClass → CharacterClass
  | [] => {}
  | [member] => member
  | members => enclose (members.foldl join {})

def operand (left : Option CharacterClass) (members : List CharacterClass) : CharacterClass :=
  match left with
  | none => union members
  | some left => enclose (left.join (union members))

def bracketed (negated : Bool) (content : CharacterClass) : CharacterClass :=
  enclose { content with hasNegations := negated || content.hasNegations }

def ofChar (c : Char) : CharacterClass := { hasMembers := true, isWide := 0x80 ≤ c.toNat }

def ofAtom? : Atom → Option CharacterClass
  | .literal c _ => some (ofChar c)
  | .shorthand negated =>
      some { hasMembers := true, hasShorthands := true, hasNegations := negated }
  | .textEdge | .wordEdge => none

def ofRange? : Atom → Atom → Option CharacterClass
  | .literal first _, .literal last _ =>
      if first ≤ last then some ((ofChar first).join (ofChar last)) else none
  | _, _ => none

-- The character after a dash. In a comment it is the first that is no blank.
def afterDash (modes : Modes) (text : List Char) : Option Char :=
  if modes.isSpaced then
    match text.dropWhile Text.isBlank with
    | '#' :: rest => (rest.dropWhile Text.isBlank).head?
    | rest => rest.head?
  else text.head?

def member? (modes : Modes) (text : List Char) : Option (CharacterClass × List Char) := do
  let (first, rest) ← Atom.read? modes text
  match modes.skip rest with
  | '-' :: afterwards =>
      if [some ']', some '-'].contains (afterDash modes afterwards) then
        return (← ofAtom? first, '-' :: afterwards)
      else
        let (last, rest) ← Atom.read? modes (modes.skip afterwards)
        return (← ofRange? first last, rest)
  | rest => return (← ofAtom? first, rest)

def classNames : List String :=
  ["alnum", "alpha", "ascii", "blank", "cntrl", "digit", "graph", "lower", "print", "punct",
   "space", "upper", "word", "xdigit"]

def named? : List Char → Option (CharacterClass × List Char)
  | ':' :: text =>
      let negated := text.head? == some '^'
      let name := if negated then text.drop 1 else text
      match name.dropWhile (· != ':') with
      | ':' :: ']' :: rest =>
          if classNames.contains (String.ofList (name.takeWhile (· != ':'))) then
            some ({ hasMembers := true, hasNegations := negated }, rest)
          else none
      | _ => none
  | _ => none

def dashes (modes : Modes) : Nat → List Char → List CharacterClass × List Char
  | 0, text => ([], text)
  | fuel + 1, text =>
      match modes.skip text with
      | '-' :: rest =>
          let (members, rest) := dashes modes fuel rest
          (ofChar '-' :: members, rest)
      | rest => ([], rest)

-- What stands after an opening bracket: whether the class is negated, and the dashes or the closing
-- bracket that stand for themselves there.
def opening (modes : Modes) (text : List Char) : Bool × List CharacterClass × List Char :=
  let text := modes.skip text
  let negated := text.head? == some '^'
  let (members, rest) := dashes modes text.length (if negated then text.drop 1 else text)
  match members, rest with
  | [], ']' :: rest => (negated, [ofChar ']'], rest)
  | members, rest => (negated, members, rest)

def content? (modes : Modes) : Nat → Option CharacterClass → List CharacterClass → List Char →
    Option (CharacterClass × List Char)
  | 0, _, _, _ => none
  | fuel + 1, left, members, text =>
      match modes.skip text with
      | ']' :: rest => some (operand left members, rest)
      | '&' :: '&' :: rest | '-' :: '-' :: rest | '~' :: '~' :: rest =>
          content? modes fuel (some (operand left members)) [] rest
      | '[' :: rest =>
          match named? rest with
          | some (member, rest) => content? modes fuel left (member :: members) rest
          | none => do
              let (negated, first, rest) := opening modes rest
              let (inner, rest) ← content? modes fuel none first rest
              content? modes fuel left (bracketed negated inner :: members) rest
      | text => do
          let (member, rest) ← member? modes text
          content? modes fuel left (member :: members) rest

def read? (modes : Modes) (text : List Char) : Option (CharacterClass × List Char) := do
  let (negated, first, rest) := opening modes text
  let (content, rest) ← content? modes (text.length + 1) none first rest
  return (bracketed negated content, rest)

def isUsable (modes : Modes) (found : CharacterClass) : Bool :=
  if modes.allScripts then !found.hasShorthands && !(modes.ignoresCase && found.hasMembers)
  else !found.hasNegations && !found.isWide

end CharacterClass

end LinearStore.Log.Pattern
