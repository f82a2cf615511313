import LinearStore.Text.Basic

set_option autoImplicit false

namespace LinearStore.Log.Pattern

structure Modes where
  ignoresCase : Bool := false
  allScripts : Bool := true
  isSpaced : Bool := false
deriving DecidableEq, Repr

def skipFrom (inComment : Bool) : List Char → List Char
  | [] => []
  | c :: rest =>
      if inComment then skipFrom (c != '\n') rest
      else if Text.isBlank c then skipFrom false rest
      else if c = '#' then skipFrom true rest
      else c :: rest

def Modes.skip (modes : Modes) (text : List Char) : List Char :=
  if modes.isSpaced then skipFrom false text else text

inductive Atom where
  -- A character, and whether it is written as a byte in two digits.
  | literal (char : Char) (isByte : Bool)
  | shorthand (negated : Bool)
  | textEdge
  | wordEdge
deriving DecidableEq, Repr

namespace Atom

def hexNumber? (modes : Modes) : Nat → Nat → List Char → Option (Nat × List Char)
  | 0, value, text => some (value, text)
  | count + 1, value, text =>
      match modes.skip text with
      | [] => none
      | c :: rest =>
          (Text.hexValue? c).bind fun digit => hexNumber? modes count (value * 16 + digit) rest

def ofNumber? (modes : Modes) (digits : Nat) (text : List Char) : Option (Atom × List Char) :=
  (hexNumber? modes digits 0 text).bind fun found =>
    if found.1.isValidChar then some (literal (Char.ofNat found.1) (digits == 2), found.2) else none

def controls : List (Char × Char) :=
  [('a', '\x07'), ('f', '\x0c'), ('t', '\t'), ('n', '\n'), ('r', '\r'), ('v', '\x0b')]

def ofEscape? (c : Char) : Option Atom :=
  if ['d', 's', 'w'].contains c then some (shorthand false)
  else if ['D', 'S', 'W'].contains c then some (shorthand true)
  else if ['A', 'z'].contains c then some textEdge
  else if ['b', 'B', '<', '>'].contains c then some wordEdge
  else if c.toNat < 0x80 && !c.isAlphanum then some (literal c false)
  else (controls.lookup c).map fun control => literal control false

def read? (modes : Modes) : List Char → Option (Atom × List Char)
  | [] => none
  | '\\' :: 'x' :: rest => ofNumber? modes 2 rest
  | '\\' :: 'u' :: rest => ofNumber? modes 4 rest
  | '\\' :: 'U' :: rest => ofNumber? modes 8 rest
  | '\\' :: c :: rest => (ofEscape? c).map fun atom => (atom, rest)
  | ['\\'] => none
  | c :: rest => some (literal c false, rest)

-- Outside classes. Case and classes of all scripts are not known here, and without all scripts what
-- is matched still has to be text.
def isUsable (modes : Modes) : Atom → Bool
  | literal c isByte =>
      if modes.allScripts then !modes.ignoresCase else !(isByte && 0x80 ≤ c.toNat)
  | shorthand negated => !modes.allScripts && !negated
  | textEdge => true
  | wordEdge => !modes.allScripts

end Atom

end LinearStore.Log.Pattern
