import GuardedUi.Json.Value

/-!
# `Template/Basic` — texts with places to be filled in

A template is literal text with tags between double or triple braces. A tag names a field of the
data that the template is rendered with, or calls a helper with arguments. The output is C code, so
values go in as they are, and two braces or three make no difference. A tag for a field that the
data does not have is an error, not an empty text; an argument that is missing is merely empty.
-/

set_option autoImplicit false

namespace GuardedUi

/-- The steps from the data to a field inside it: names in records, positions in lists. No steps
lead to the data itself. -/
abbrev FieldPath := List String

/-- What is given to a helper. -/
inductive Argument where
  | field (path : FieldPath)
  | quoted (content : String)
  /-- A number, or one of the words of JSON; no text in any case. -/
  | constant
  deriving DecidableEq, Repr

/-- A part of a template. -/
inductive Part where
  | text (content : String)
  | field (path : FieldPath)
  | call (helper : String) (arguments : List Argument)
  deriving DecidableEq, Repr

abbrev Template := List Part

/-- Why a template cannot be used. -/
inductive TemplateError where
  | malformed
  | notFound (name : String)
  | missingField (path : FieldPath)
  /-- A step into a list is not the number of an item. -/
  | badPosition (step : String)
  | unknownHelper (name : String)
  /-- A helper lacks an argument that it needs. -/
  | missingArgument (helper : String)
  deriving DecidableEq, Repr

def TemplateError.message : TemplateError → String
  | .malformed => "Invalid template"
  | .notFound name => "Template not found: " ++ name
  | .missingField path => "Template error: no field " ++ ".".intercalate path
  | .badPosition step => "Template error: no position " ++ step
  | .unknownHelper name => "Template error: no helper " ++ name
  | .missingArgument helper => "Template error: no argument for " ++ helper

namespace Template

/-! ## Helpers

The one helper that templates are written for turns a file name into a guard symbol. The names of
some others are taken, so a field of such a name cannot be shown: the ones that leave a trace
elsewhere and the ones that open a block write nothing here, and the ones that compute something
are not offered. -/

def guardHelper : String :=
  "include_guard"

def silentHelpers : List String :=
  ["log", "raw"]

/-- The helpers that choose what to write of the block that follows them, and so write nothing
where there is none; they need an argument. -/
def blockHelpers : List String :=
  ["if", "unless", "each"]

/-- The names of helpers that are not offered. -/
def reservedHelpers : List String :=
  ["with", "lookup", "eq", "ne", "gt", "gte", "lt", "lte", "and", "or", "not", "len"]

/-- Whether a name is the name of a helper, so that a tag of this name alone calls it. -/
def isHelper (name : String) : Bool :=
  name == guardHelper || silentHelpers.contains name || blockHelpers.contains name ||
    reservedHelpers.contains name

end Template

end GuardedUi
