import GuardedUi.Json.Literal
import GuardedUi.Json.Token

/-!
# `Json/Tree` — the grammar of JSON

A `Tree` is a text that obeys the grammar, with all that the grammar leaves open still open: the
fields of a record stand in the order of the text, repeated names included, numbers are literals
and strings may denote no text. What a tree is good for is decided by whoever reads it, and parts
that nobody reads need not be good for anything.

The reader is a machine over tokens with a stack of the lists and records that are open. It has no
bound on nesting; the limit is part of reading values out of the tree, where it is counted down.
-/

set_option autoImplicit false

namespace GuardedUi.Json

/-- A name or string of the text; `none` if it denotes no text. -/
abbrev Content := Option String

/-- A JSON text by its grammar. -/
inductive Tree where
  | null
  | bool (value : Bool)
  | number (literal : Literal)
  | text (content : Content)
  | list (items : List Tree)
  | record (fields : List (Content × Tree))
  deriving Repr, Inhabited

namespace Tree

/-- A list or record whose end has not been reached; items and fields are kept last one first. -/
inductive Frame where
  | list (rev : List Tree)
  /-- A record that waits for the value of `name`. -/
  | record (rev : List (Content × Tree)) (name : Content)

/-- What the machine waits for. -/
inductive Phase where
  /-- A value, or the end of a list that has no items yet. -/
  | value (mayClose : Bool)
  /-- A name of a record with the given fields, or the end of the record if it has none. -/
  | name (rev : List (Content × Tree)) (mayClose : Bool)
  /-- The colon after a name. -/
  | colon (rev : List (Content × Tree)) (name : Content)
  /-- What follows a complete value. -/
  | after (value : Tree)

def ofWord? (word : List Char) : Option Tree :=
  if word = ['n', 'u', 'l', 'l'] then some .null
  else if word = ['t', 'r', 'u', 'e'] then some (.bool true)
  else if word = ['f', 'a', 'l', 's', 'e'] then some (.bool false)
  else (Literal.ofChars? word).map .number

/-- One token: the stack and the phase after it. -/
def step : List Frame → Phase → Token → Option (List Frame × Phase)
  | stack, .value _, .text content => some (stack, .after (.text content))
  | stack, .value _, .word chars => (ofWord? chars).map fun value => (stack, .after value)
  | stack, .value _, .openList => some (.list [] :: stack, .value true)
  | stack, .value _, .openRecord => some (stack, .name [] true)
  | .list [] :: stack, .value true, .closeList => some (stack, .after (.list []))
  | stack, .name rev _, .text content => some (stack, .colon rev content)
  | stack, .name _ true, .closeRecord => some (stack, .after (.record []))
  | stack, .colon rev name, .colon => some (.record rev name :: stack, .value false)
  | .list rev :: stack, .after value, .comma => some (.list (value :: rev) :: stack, .value false)
  | .list rev :: stack, .after value, .closeList =>
    some (stack, .after (.list (value :: rev).reverse))
  | .record rev name :: stack, .after value, .comma =>
    some (stack, .name ((name, value) :: rev) false)
  | .record rev name :: stack, .after value, .closeRecord =>
    some (stack, .after (.record ((name, value) :: rev).reverse))
  | _, _, _ => none

/-- The value that the tokens complete, from a stack and a phase on. -/
def run : List Frame → Phase → List Token → Option Tree
  | [], .after value, [] => some value
  | _, _, [] => none
  | stack, phase, token :: rest =>
    match step stack phase token with
    | none => none
    | some (stack, phase) => run stack phase rest

/-- The tree of a list of tokens that make up one value. -/
def ofTokens? (tokens : List Token) : Option Tree :=
  run [] (.value false) tokens

/-- The tree of a text; `none` if the text is not JSON. -/
def parse? (text : List Char) : Option Tree :=
  (Token.scan text).bind ofTokens?

/-! ## Fields -/

/-- Whether every field has a name that denotes a text. -/
def namesSound (fields : List (Content × Tree)) : Bool :=
  fields.all fun field => field.1.isSome

/-- The field of the given name, which must not be there twice: `none` if it is, and `some none`
if there is no such field. -/
def field? (fields : List (Content × Tree)) (name : String) : Option (Option Tree) :=
  match fields.filter fun field => field.1 == some name with
  | [] => some none
  | [field] => some (some field.2)
  | _ => none

/-- The fields that a structure with the given field names has in a tree, in the order of the
names. A structure is a record, in which other names are ignored, or a list of its fields in that
order, from which fields may be missing at the end. -/
def fields? (names : List String) : Tree → Option (List (Option Tree))
  | .record fields => if namesSound fields then names.mapM (field? fields) else none
  | .list items =>
    if items.length ≤ names.length then
      some (items.map some ++ List.replicate (names.length - items.length) none)
    else none
  | _ => none

/-- A field that may be missing or `null`. -/
def optional {α : Type} (read : Tree → Option α) : Option Tree → Option (Option α)
  | none => some none
  | some .null => some none
  | some tree => (read tree).map some

/-- A field that may be missing, and then has a standard value. -/
def orElse {α : Type} (standard : α) (read : Tree → Option α) : Option Tree → Option α
  | none => some standard
  | some tree => read tree

def string? : Tree → Option String
  | .text content => content
  | _ => none

def bool? : Tree → Option Bool
  | .bool value => some value
  | _ => none

/-- An integer from `0` to `bound`, written as one. -/
def nat? (bound : Nat) : Tree → Option Nat
  | .number literal =>
    match literal.number? with
    | some (.int i) => if 0 ≤ i ∧ i ≤ bound then some i.toNat else none
    | _ => none
  | _ => none

/-- How deep the lists and records of a document may be nested. -/
def nestingLimit : Nat :=
  127

end Tree

end GuardedUi.Json
