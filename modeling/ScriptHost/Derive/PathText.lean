import ScriptHost.Text.Blank
import ScriptHost.Text.Identifier

/-!
# Paths as text

A reader of the paths of modules: segments between double colons, perhaps with a double colon in
front. A segment is an identifier, raw or not, or one of the words for places relative to
here; it can carry arguments in angle brackets. Blanks between the parts mean nothing.

What a path is in general is more than this reader knows: an argument is a path or a literal here
and no other type, and there are no comments. Nothing that is derived depends on it, since the
reader of paths is a parameter of the derivation (`ScriptHost.PathReader`).
-/

namespace ScriptHost.PathText

/-- Why a text is no path. -/
inductive PathError where
  /-- An identifier is missing at the end. -/
  | endOfText
  /-- Something else stands where an identifier must. -/
  | notIdentifier
  /-- A reserved word stands where an identifier must. -/
  | reserved (word : String)
  /-- A path is followed by something else. -/
  | trailing
  /-- The text is no sequence of tokens. -/
  | unreadable
  deriving DecidableEq, Repr

/-- The text of a failure. -/
def PathError.message : PathError → String
  | endOfText => "unexpected end of input, expected identifier"
  | notIdentifier => "expected identifier"
  | reserved word => "expected identifier, found keyword `" ++ word ++ "`"
  | trailing => "unexpected token"
  | unreadable => "cannot parse string into token stream"

/-- The parts of a text. -/
inductive Token where
  /-- An identifier or reserved word. -/
  | word (s : String)
  /-- A double colon. -/
  | colons
  /-- Another mark. -/
  | mark (c : Char)
  /-- A number, text, character or lifetime. -/
  | literal (s : String)
  deriving DecidableEq, Repr

/-- The characters of a token. -/
def Token.text : Token → String
  | word s => s
  | colons => "::"
  | mark c => c.toString
  | literal s => s

/-- The marks that can stand alone. -/
def isMark (c : Char) : Bool :=
  c ∈ ['~', '!', '@', '#', '$', '%', '^', '&', '*', '-', '=', '+', '|', ';', ':', ',', '<', '.',
    '>', '/', '?', '(', ')', '[', ']', '\x7b', '\x7d']

/-- The characters up to a closing mark, which is included; a backslash hides what follows
it. -/
def quotedRest (closing : Char) : List Char → Option (List Char × List Char)
  | [] => none
  | '\\' :: c :: cs => (quotedRest closing cs).map fun (a, b) => ('\\' :: c :: a, b)
  | c :: cs =>
    if c = closing then some ([c], cs) else (quotedRest closing cs).map fun (a, b) => (c :: a, b)

/-- The words that cannot be raw identifiers. -/
def neverRaw : List String := ["_", "super", "self", "Self", "crate"]

/-- The first token of a text that starts with no blank, and the text behind it. -/
def nextToken? : List Char → Option (Token × List Char)
  | [] => none
  | ':' :: ':' :: cs => some (.colons, cs)
  | 'r' :: '#' :: c :: cs =>
    if Text.isIdentifierStart c then
      let (name, rest) := (c :: cs).span Text.isIdentifierPart
      if String.ofList name ∈ neverRaw then none
      else some (.word (String.ofList ('r' :: '#' :: name)), rest)
    else some (.word "r", '#' :: c :: cs)
  | '"' :: cs => (quotedRest '"' cs).map fun (a, b) => (.literal (String.ofList ('"' :: a)), b)
  | '\'' :: c :: cs =>
    let (name, rest) := (c :: cs).span Text.isIdentifierPart
    if Text.isIdentifierStart c && rest.head? != some '\'' then
      some (.literal (String.ofList ('\'' :: name)), rest)
    else
      (quotedRest '\'' (c :: cs)).map fun (a, b) => (.literal (String.ofList ('\'' :: a)), b)
  | c :: cs =>
    if Text.isIdentifierStart c then
      let (name, rest) := (c :: cs).span Text.isIdentifierPart
      some (.word (String.ofList name), rest)
    else if c.isDigit then
      let (digits, rest) := (c :: cs).span Text.isIdentifierPart
      some (.literal (String.ofList digits), rest)
    else if isMark c then some (.mark c, cs)
    else none

/-- The tokens of a text; each round takes at least one character. -/
def tokensWithin : Nat → List Char → Option (List Token)
  | 0, _ => some []
  | rounds + 1, cs =>
    match Text.trimStart cs with
    | [] => some []
    | cs => do
      let (t, rest) ← nextToken? cs
      let ts ← tokensWithin rounds rest
      pure (t :: ts)

/-- The mark that closes what another opens. -/
def closingOf? : Char → Option Char
  | '(' => some ')'
  | '[' => some ']'
  | '\x7b' => some '\x7d'
  | _ => none

/-- Whether brackets are closed in the order in which they are opened; the first argument
lists the closing marks that are awaited. -/
def balanced : List Char → List Token → Bool
  | awaited, [] => awaited.isEmpty
  | awaited, .mark c :: ts =>
    match closingOf? c with
    | some closing => balanced (closing :: awaited) ts
    | none =>
      if c = ')' ∨ c = ']' ∨ c = '\x7d' then
        match awaited with
        | [] => false
        | a :: awaited => a = c && balanced awaited ts
      else balanced awaited ts
  | awaited, _ :: ts => balanced awaited ts

/-- The tokens of a text with balanced brackets. -/
def tokens (text : String) : Except PathError (List Token) :=
  let cs := text.toList
  match tokensWithin cs.length cs with
  | some ts => if balanced [] ts then .ok ts else .error .unreadable
  | none => .error .unreadable

/-- The words that are segments without further ado. -/
def placeWords : List String := ["super", "self", "crate", "try"]

/-- The words that are no identifiers. -/
def reservedWords : List String :=
  ["_", "abstract", "as", "async", "await", "become", "box", "break", "const", "continue", "crate",
    "do", "dyn", "else", "enum", "extern", "false", "final", "fn", "for", "if", "impl", "in", "let",
    "loop", "macro", "match", "mod", "move", "mut", "override", "priv", "pub", "ref", "return",
    "self", "static", "struct", "super", "trait", "true", "try", "type", "typeof", "unsafe",
    "unsized", "use", "virtual", "where", "while", "yield"]

/-- The tokens behind an identifier. -/
def skipName : List Token → Except PathError (List Token)
  | [] => .error .endOfText
  | .word w :: ts => if w ∈ reservedWords then .error (.reserved w) else .ok ts
  | _ :: _ => .error .notIdentifier

mutual

/-- The tokens behind a path that may start with a double colon. -/
def skipPath : Nat → List Token → Except PathError (List Token)
  | 0, _ => .error .endOfText
  | rounds + 1, .colons :: ts => skipSegments rounds ts
  | rounds + 1, ts => skipSegments rounds ts

/-- The tokens behind one segment and the segments that follow it. -/
def skipSegments : Nat → List Token → Except PathError (List Token)
  | 0, _ => .error .endOfText
  | rounds + 1, ts => do
    let ts ← skipSegment rounds ts
    match ts with
    | .colons :: .mark '(' :: _ => pure ts
    | .colons :: ts => skipSegments rounds ts
    | ts => pure ts

/-- The tokens behind one segment. -/
def skipSegment : Nat → List Token → Except PathError (List Token)
  | 0, _ => .error .endOfText
  | rounds + 1, ts =>
    match ts with
    | .word w :: rest => if w ∈ placeWords then .ok rest else do
      let rest ← if w = "Self" then pure rest else skipName ts
      match rest with
      | .mark '<' :: .mark '=' :: _ => pure rest
      | .mark '<' :: args => skipArguments rounds args
      | .colons :: .mark '<' :: args => skipArguments rounds args
      | _ => pure rest
    | ts => skipName ts

/-- The tokens behind the arguments of a segment and their closing bracket. -/
def skipArguments : Nat → List Token → Except PathError (List Token)
  | 0, _ => .error .endOfText
  | rounds + 1, ts =>
    match ts with
    | .mark '>' :: ts => .ok ts
    | ts => do
      let rest ← match ts with
        | .literal _ :: rest => pure rest
        | ts => skipPath rounds ts
      match rest with
      | .mark ',' :: rest => skipArguments rounds rest
      | .mark '>' :: rest => pure rest
      | [] => .error .endOfText
      | _ => .error .notIdentifier

end

/-- The text of a path without blanks. -/
def normalize (text : String) : Except PathError String := do
  let ts ← tokens text
  let rest ← skipPath (4 * ts.length + 4) ts
  if rest.isEmpty then pure (String.join (ts.map Token.text)) else .error .trailing

/-- The path that a text is, or what is said about a text that is none. -/
def read (text : String) : Except String String := (normalize text).mapError PathError.message

end ScriptHost.PathText
