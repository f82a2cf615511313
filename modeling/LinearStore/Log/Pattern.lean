import LinearStore.Log.Pattern.CharacterClass
import LinearStore.Text.WordChar

set_option autoImplicit false

namespace LinearStore.Log.Pattern

def depthLimit : Nat := 250

structure Part where
  depth : Nat
  isRepeatable : Bool := true
deriving DecidableEq, Repr

-- The depth of parts side by side. A single one is not enclosed.
def sideBySide : List Nat → Nat
  | [] => 0
  | [depth] => depth
  | depths => depths.foldl max 0 + 1

-- What has been read of a group: the depths of its branches, and the parts of the latest, last part
-- first.
structure Group where
  branches : List Nat := []
  parts : List Part := []
deriving DecidableEq, Repr

namespace Group

def add (group : Group) (part : Part) : Group := { group with parts := part :: group.parts }

def endBranch (group : Group) : Group where
  branches := sideBySide (group.parts.map Part.depth) :: group.branches

def depth (group : Group) : Nat := sideBySide group.endBranch.branches

def repeatLast? (group : Group) : Option Group :=
  match group.parts with
  | [] => none
  | part :: parts =>
      if part.isRepeatable then some { group with parts := ⟨part.depth + 1, true⟩ :: parts }
      else none

end Group

-- Sets the mode of a letter. Four of the letters change nothing that matters here.
def Modes.set? (modes : Modes) (value : Bool) (letter : Char) : Option Modes :=
  if letter = 'i' then some { modes with ignoresCase := value }
  else if letter = 'u' then some { modes with allScripts := value }
  else if letter = 'x' then some { modes with isSpaced := value }
  else if ['m', 's', 'U', 'R'].contains letter then some modes
  else none

def Modes.switch? (modes : Modes) (value : Bool) : List Char → Option Modes
  | [] => some modes
  | c :: rest =>
      if rest.contains c then none
      else if c = '-' then if rest.isEmpty then none else modes.switch? false rest
      else (modes.set? value c).bind fun modes => modes.switch? value rest

inductive Opening where
  | switch (modes : Modes)
  | group (modes : Modes) (name : Option (List Char))
deriving DecidableEq, Repr

namespace Opening

def isNameStart (c : Char) : Bool := c == '_' || Text.isAlphabetic c

def isNameChar (c : Char) : Bool := ['_', '.', '[', ']'].contains c || Text.isWordChar c

def named? (modes : Modes) (text : List Char) : Option (Opening × List Char) :=
  let name := text.takeWhile (· != '>')
  match name, text.dropWhile (· != '>') with
  | c :: others, '>' :: rest =>
      if isNameStart c && others.all isNameChar then some (group modes (some name), rest) else none
  | _, _ => none

def switching? (modes : Modes) (text : List Char) : Option (Opening × List Char) := do
  let isLetter (c : Char) := c != ':' && c != ')'
  let letters := text.takeWhile isLetter
  let switched ← modes.switch? true letters
  match text.dropWhile isLetter with
  | ':' :: rest => return (group switched none, rest)
  | ')' :: rest => if letters.isEmpty then none else return (switch switched, rest)
  | _ => none

def read? (modes : Modes) (text : List Char) : Option (Opening × List Char) :=
  match modes.skip text with
  | '?' :: '=' :: _ | '?' :: '!' :: _ | '?' :: '<' :: '=' :: _ | '?' :: '<' :: '!' :: _ => none
  | '?' :: 'P' :: '<' :: rest | '?' :: '<' :: rest => named? modes rest
  | '?' :: rest => switching? modes rest
  | rest => some (group modes none, rest)

end Opening

structure Stop where
  depth : Nat
  names : List (List Char)
  rest : List Char

def single? (modes : Modes) : List Char → Option (List Char)
  | '.' :: rest => if modes.allScripts then some rest else none
  | '^' :: rest | '$' :: rest => some rest
  | text => (Atom.read? modes text).bind fun found =>
      if found.1.isUsable modes then some found.2 else none

def group? : Nat → Modes → List (List Char) → Group → List Char → Option Stop
  | 0, _, _, _, _ => none
  | fuel + 1, modes, names, group, text =>
      match modes.skip text with
      | [] => some ⟨group.depth, names, []⟩
      | ')' :: rest => some ⟨group.depth, names, ')' :: rest⟩
      | '|' :: rest => group? fuel modes names group.endBranch rest
      | '(' :: rest => do
          match ← Opening.read? modes rest with
          | (.switch modes, rest) => group? fuel modes names (group.add ⟨0, false⟩) rest
          | (.group inner name, rest) =>
              if name.any names.contains then none
              else
                let stop ← group? fuel inner (name.toList ++ names) {} rest
                match stop.rest with
                | ')' :: rest =>
                    group? fuel modes stop.names (group.add ⟨stop.depth + 1, true⟩) rest
                | _ => none
      | '[' :: rest => do
          let (found, rest) ← CharacterClass.read? modes rest
          if found.isUsable modes then
            group? fuel modes names (group.add ⟨found.depth, true⟩) rest
          else none
      | '?' :: rest | '*' :: rest | '+' :: rest => do
          let repeated ← group.repeatLast?
          group? fuel modes names repeated (if rest.head? == some '?' then rest.drop 1 else rest)
      | '\x7b' :: _ => none
      | text => do
          let rest ← single? modes text
          group? fuel modes names (group.add ⟨0, true⟩) rest

end Pattern

-- Whether a text without closing braces is a pattern. A count of repetitions, which stands in
-- braces, is never complete in such a text.
def isPattern (text : List Char) : Bool :=
  match Pattern.group? (text.length + 1) {} [] {} text with
  | some stop => stop.rest.isEmpty && stop.depth ≤ Pattern.depthLimit
  | none => false

end LinearStore.Log
