import LinearStore.Json.Printer

set_option autoImplicit false

namespace LinearStore.Json

theorem write_string_append (text : String) (rest later : List Char) :
    writeString text (rest ++ later) = writeString text rest ++ later := by
  rw [writeString, writeString, List.cons_append]
  congr 1
  induction text.toList with
  | nil => rfl
  | cons c chars step => rw [List.foldr_cons, List.foldr_cons, step, List.append_assoc]

theorem new_line_append (depth : Nat) (rest later : List Char) :
    newLine depth (rest ++ later) = newLine depth rest ++ later := by
  rw [newLine, newLine, List.cons_append, List.append_assoc]

mutual

theorem write_append (value : Json) (rest later : List Char) :
    value.write (rest ++ later) = value.write rest ++ later := by
  cases value with
  | null => rfl
  | bool value => cases value <;> rfl
  | number n => exact (List.append_assoc _ _ _).symm
  | string text => exact write_string_append text rest later
  | array items => exact congrArg ('[' :: ·) (write_items_append items rest later)
  | object members => exact congrArg ('\x7b' :: ·) (write_members_append members rest later)

theorem write_items_append (items : List Json) (rest later : List Char) :
    writeItems items (rest ++ later) = writeItems items rest ++ later := by
  match items with
  | [] => rfl
  | [item] => exact write_append item (']' :: rest) later
  | item :: next :: items =>
      rw [writeItems, writeItems, write_items_append (next :: items)]
      exact write_append item (',' :: writeItems (next :: items) rest) later

theorem write_members_append (members : List (String × Json)) (rest later : List Char) :
    writeMembers members (rest ++ later) = writeMembers members rest ++ later := by
  match members with
  | [] => rfl
  | [(name, value)] =>
      have written := write_append value ('\x7d' :: rest) later
      rw [List.cons_append] at written
      rw [writeMembers, writeMembers, written]
      exact write_string_append name (':' :: value.write ('\x7d' :: rest)) later
  | (name, value) :: next :: members =>
      have written := write_append value (',' :: writeMembers (next :: members) rest) later
      rw [List.cons_append] at written
      rw [writeMembers, writeMembers, write_members_append (next :: members), written]
      exact write_string_append name (':' :: value.write (',' :: writeMembers (next :: members) rest)) later

end

mutual

theorem write_indented_append (depth : Nat) (value : Json) (rest later : List Char) :
    value.writeIndented depth (rest ++ later) = value.writeIndented depth rest ++ later := by
  match value with
  | .null | .bool _ | .number _ | .string _ => exact write_append _ rest later
  | .array [] | .object [] => rfl
  | .array (item :: items) =>
      rw [writeIndented, writeIndented, write_items_indented_append, write_indented_append,
        new_line_append, List.cons_append]
  | .object ((name, value) :: members) =>
      rw [writeIndented, writeIndented, write_members_indented_append, write_indented_append,
        ← List.cons_append, ← List.cons_append, write_string_append, new_line_append, List.cons_append]

theorem write_items_indented_append (depth : Nat) (items : List Json) (rest later : List Char) :
    writeItemsIndented depth items (rest ++ later) = writeItemsIndented depth items rest ++ later := by
  match items with
  | [] => exact new_line_append depth (']' :: rest) later
  | item :: items =>
      rw [writeItemsIndented, writeItemsIndented, write_items_indented_append, write_indented_append,
        new_line_append, List.cons_append]

theorem write_members_indented_append (depth : Nat) (members : List (String × Json))
    (rest later : List Char) :
    writeMembersIndented depth members (rest ++ later) =
      writeMembersIndented depth members rest ++ later := by
  match members with
  | [] => exact new_line_append depth ('\x7d' :: rest) later
  | (name, value) :: members =>
      rw [writeMembersIndented, writeMembersIndented, write_members_indented_append,
        write_indented_append, ← List.cons_append, ← List.cons_append, write_string_append,
        new_line_append, List.cons_append]

end

end LinearStore.Json
