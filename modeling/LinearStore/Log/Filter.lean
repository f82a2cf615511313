import LinearStore.Log.Directive

set_option autoImplicit false

namespace LinearStore.Log

structure Rule where
  target : Option String
  fields : List String
  threshold : Threshold
deriving DecidableEq, Repr

namespace Rule

-- No span is ever open, so a directive that asks for one makes no rule.
def ofDirective? (directive : Directive) : Option Rule :=
  if directive.span.isSome || directive.fields.any FieldTest.hasValue then none
  else some ⟨directive.target, directive.fields.map FieldTest.name, directive.threshold⟩

def appliesTo (rule : Rule) (record : Record) : Bool :=
  (match rule.target with
    | none => true
    | some target => target.toList.isPrefixOf record.origin.toList) &&
  rule.fields.all fun name =>
    name == "message" || record.fields.any fun field => field.1 == name

def targetSize (rule : Rule) : Nat :=
  match rule.target with
  | none => 0
  | some target => target.utf8ByteSize + 1

-- A longer target is more specific, then more fields; the texts themselves decide between rules
-- that are equally specific.
def specificity (a b : Rule) : Ordering :=
  (compare a.targetSize b.targetSize).then <|
    (compare a.fields.length b.fields.length).then <|
      (compare (a.target.getD "") (b.target.getD "")).then <|
        compareFields a.fields b.fields
where
  compareFields : List String → List String → Ordering
    | [], [] => .eq
    | [], _ :: _ => .lt
    | _ :: _, [] => .gt
    | a :: s, b :: t => (compare a b).then (compareFields s t)

def prefer (best : Option Rule) (rule : Rule) : Option Rule :=
  match best with
  | none => some rule
  | some other => if (rule.specificity other).isGE then some rule else some other

end Rule

structure Filter where
  rules : List Rule
deriving DecidableEq, Repr

namespace Filter

def upTo (level : Level) : Filter := ⟨[⟨none, [], level.detail⟩]⟩

def ofDirectives (directives : List Directive) : Filter :=
  let (dependent, plain) := directives.partition Directive.dependsOnSpan
  if directives.isEmpty then upTo .error
  else ⟨(plain ++ dependent).filterMap Rule.ofDirective?⟩

-- A filter is a list of directives between commas; one that is malformed spoils the filter.
def ofText? (text : String) : Option Filter :=
  let parts := (text.splitOn ",").filter fun part => !part.isEmpty
  (parts.mapM Directive.ofText?).map ofDirectives

def admits (filter : Filter) (record : Record) : Bool :=
  let applicable := filter.rules.filter fun rule => rule.appliesTo record
  match applicable.foldl Rule.prefer none with
  | some rule => record.level.detail ≤ rule.threshold
  | none => false

end Filter

def valueText : FieldValue → String
  | .number value => toString value
  | .word value => Text.quoted value
  | .display value => value

def line (record : Record) : String :=
  record.level.text ++ " " ++ record.origin ++ ": " ++
    " ".intercalate (record.message ::
      record.fields.map fun field => field.1 ++ "=" ++ valueText field.2) ++ "\n"

def render (filter : Filter) (records : List Record) : String :=
  String.join ((records.filter filter.admits).map line)

end LinearStore.Log
