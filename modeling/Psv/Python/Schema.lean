import Psv.Python.Json

/-!
# JSON schemas

The keywords of a schema language over documents, with their meaning: a keyword
about one type says nothing about documents of other types, and a schema of
several keywords asks for all of them.  References are resolved by writing the
schema they point to.
-/

namespace Python

namespace Json

/-- The types a schema can ask for. -/
inductive Kind where
  | null
  | boolean
  | integer
  | string
  deriving DecidableEq

def hasKind : Json → Kind → Bool
  | .null, .null => true
  | .bool _, .boolean => true
  | .int _, .integer => true
  | .str _, .string => true
  | _, _ => false

/-- Equality with a constant that is no object. -/
def equals : Json → Json → Bool
  | .null, .null => true
  | .bool left, .bool right => left == right
  | .int left, .int right => left == right
  | .str left, .str right => left == right
  | _, _ => false

end Json

/-- A schema.  `closed` is an object that has all required members and none but the listed ones. -/
inductive Schema where
  | kinds (names : List Json.Kind)
  | enum (values : List Json)
  | minLength (bound : ℕ)
  | pattern (fits : Str → Bool)
  | minimum (bound : ℤ)
  | maximum (bound : ℤ)
  | closed (required : List String) (properties : List (String × Schema))
  | all (schemas : List Schema)
  | any (schemas : List Schema)

namespace Schema

mutual

/-- The document conforms to the schema. -/
def accepts : Schema → Json → Bool
  | .kinds names, document => names.any document.hasKind
  | .enum values, document => values.any document.equals
  | .minLength bound, .str text => decide (bound ≤ text.length)
  | .pattern fits, .str text => fits text
  | .minimum bound, .int n => decide (bound ≤ n)
  | .maximum bound, .int n => decide (n ≤ bound)
  | .closed required properties, .object members =>
      (required.all fun name => (members.lookup name).isSome) &&
        (members.all fun member => (properties.map Prod.fst).contains member.1) &&
        acceptsMembers properties members
  | .closed _ _, _ => false
  | .all schemas, document => acceptsAll schemas document
  | .any schemas, document => acceptsAny schemas document
  | _, _ => true

def acceptsAll : List Schema → Json → Bool
  | [], _ => true
  | schema :: schemas, document => accepts schema document && acceptsAll schemas document

def acceptsAny : List Schema → Json → Bool
  | [], _ => false
  | schema :: schemas, document => accepts schema document || acceptsAny schemas document

/-- Every listed member that is there conforms to its schema. -/
def acceptsMembers : List (String × Schema) → List (String × Json) → Bool
  | [], _ => true
  | (name, schema) :: properties, members =>
      (match members.lookup name with
        | some document => accepts schema document
        | none => true) && acceptsMembers properties members

end

/-- A type and further keywords. -/
def typed (kind : Json.Kind) (keywords : List Schema) : Schema := .all (.kinds [kind] :: keywords)

end Schema

end Python
