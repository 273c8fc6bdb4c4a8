/-!
# Items and their attributes

The declaration of a type, as far as the derivation of a record type looks at it. An attribute is
given by its path and the options in its parentheses, up to the first thing there that cannot be
read as one (`Meta.broken`).
-/

namespace ScriptHost

/-- The value that an attribute option is set to. -/
inductive Literal where
  /-- A text. -/
  | text (s : String)
  /-- Something that is no text. -/
  | other
  /-- Nothing: the options end. -/
  | missing
  deriving DecidableEq, Repr

/-- An attribute or an option inside one. -/
inductive Meta where
  /-- A path alone. -/
  | bare (path : String)
  /-- A path that is set to a literal. -/
  | assign (path : String) (value : Literal)
  /-- A path with options in parentheses. -/
  | call (path : String) (options : List Meta)
  /-- A path with options in parentheses that are followed by something else, and what is said
  about that: it is no option, or no comma stands before it. -/
  | broken (path : String) (options : List Meta) (error : String)
  deriving Repr

/-- The path of an attribute. -/
def Meta.path : Meta → String
  | bare path => path
  | assign path _ => path
  | call path _ => path
  | broken path _ _ => path

/-- The forms of type declarations. -/
inductive ItemKind where
  /-- A struct with named fields. -/
  | struct
  /-- A struct with numbered fields. -/
  | tuple
  /-- A struct without fields. -/
  | unit
  | enum
  | union
  deriving DecidableEq, Repr

/-- A field of a declaration. -/
structure ItemField where
  /-- The identifier. -/
  ident : String
  /-- The type as it is written. -/
  type : String
  /-- The attributes. -/
  attributes : List Meta

/-- A type declaration. -/
structure Item where
  /-- The form. -/
  kind : ItemKind
  /-- The identifier. -/
  ident : String
  /-- The generic parameters as they are written. -/
  generics : List String
  /-- The attributes. -/
  attributes : List Meta
  /-- The fields. -/
  fields : List ItemField

end ScriptHost
