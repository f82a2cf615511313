import LinearStore.Table

set_option autoImplicit false

namespace LinearStore

inductive Number where
  | int (value : Int)
  | float (value : Float)
deriving DecidableEq, Repr

inductive Json where
  | null
  | bool (value : Bool)
  | number (value : Number)
  | string (value : String)
  | array (items : List Json)
  | object (members : List (String × Json))
deriving Repr, Inhabited

namespace Json

mutual

def decEq : (a b : Json) → Decidable (a = b)
  | null, null => isTrue rfl
  | bool a, bool b =>
      if h : a = b then isTrue (h ▸ rfl) else isFalse fun same => h (by cases same; rfl)
  | number a, number b =>
      if h : a = b then isTrue (h ▸ rfl) else isFalse fun same => h (by cases same; rfl)
  | string a, string b =>
      if h : a = b then isTrue (h ▸ rfl) else isFalse fun same => h (by cases same; rfl)
  | array a, array b =>
      match decEqItems a b with
      | isTrue h => isTrue (h ▸ rfl)
      | isFalse h => isFalse fun same => h (by cases same; rfl)
  | object a, object b =>
      match decEqMembers a b with
      | isTrue h => isTrue (h ▸ rfl)
      | isFalse h => isFalse fun same => h (by cases same; rfl)
  | null, bool _ | null, number _ | null, string _ | null, array _ | null, object _
  | bool _, null | bool _, number _ | bool _, string _ | bool _, array _ | bool _, object _
  | number _, null | number _, bool _ | number _, string _ | number _, array _
  | number _, object _
  | string _, null | string _, bool _ | string _, number _ | string _, array _
  | string _, object _
  | array _, null | array _, bool _ | array _, number _ | array _, string _ | array _, object _
  | object _, null | object _, bool _ | object _, number _ | object _, string _
  | object _, array _ => isFalse fun same => by cases same

def decEqItems : (a b : List Json) → Decidable (a = b)
  | [], [] => isTrue rfl
  | [], _ :: _ | _ :: _, [] => isFalse fun same => by cases same
  | a :: s, b :: t =>
      match decEq a b, decEqItems s t with
      | isTrue h, isTrue k => isTrue (h ▸ k ▸ rfl)
      | isFalse h, _ => isFalse fun same => h (by cases same; rfl)
      | _, isFalse k => isFalse fun same => k (by cases same; rfl)

def decEqMembers : (a b : List (String × Json)) → Decidable (a = b)
  | [], [] => isTrue rfl
  | [], _ :: _ | _ :: _, [] => isFalse fun same => by cases same
  | (n, a) :: s, (m, b) :: t =>
      if name : n = m then
        match decEq a b, decEqMembers s t with
        | isTrue h, isTrue k => isTrue (name ▸ h ▸ k ▸ rfl)
        | isFalse h, _ => isFalse fun same => h (by cases same; rfl)
        | _, isFalse k => isFalse fun same => k (by cases same; rfl)
      else isFalse fun same => name (by cases same; rfl)

end

instance : DecidableEq Json := decEq

def nat (n : Nat) : Json := .number (.int n)

def ofMembers (members : List (String × Json)) : Json :=
  .object (members.foldl (fun sorted member => insertOrdered member.1 member.2 sorted) [])

end Json

end LinearStore
