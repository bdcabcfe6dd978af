import ScopedVars.Dict
import ScopedVars.Toml.Table

/-! # TOML documents

A document is a list of lines: assignments, headers, comments and blanks. Reading it gives the
statements with their places, and the table that they build.
-/

namespace ScopedVars.Toml

variable {α β : Type}

theorem Read.filler_lt {text : List Char} (first : Read α (skipFiller false text))
    (second : Read β (skipFiller false first.rest)) : second.rest.length < text.length := by
  have := first.shorter
  have := second.shorter
  have := length_skipFiller_le false text
  have := length_skipFiller_le false first.rest
  omega

theorem Read.spaces_lt {text : List Char} (first : Read α (skipSpaces text))
    (second : Read β (skipSpaces first.rest)) : second.rest.length < text.length := by
  have := first.shorter
  have := second.shorter
  have := length_skipSpaces_le text
  have := length_skipSpaces_le first.rest
  omega

/-- The rest of an array after its opening bracket or a comma. -/
def items (item : Reader α) (text : List Char) : Except Refusal (Read (List α) text) :=
  match symbol? [']'] (skipFiller false text) with
  | some close => .ok (close.map fun _ => []).afterFiller
  | none => do
    let first ← item (skipFiller false text)
    match symbol? [','] (skipFiller false first.rest) with
    | some comma => do
      let tail ← items item comma.rest
      return (first.andThen (comma.andThen tail fun _ values => values).afterFiller
        fun value values => value :: values).afterFiller
    | none =>
      match symbol? [']'] (skipFiller false first.rest) with
      | some close => return (first.andThen close.afterFiller fun value _ => [value]).afterFiller
      | none => refuse (.expected "a comma or a closing bracket") (skipFiller false first.rest)
termination_by text.length
decreasing_by exact first.filler_lt comma

def pair (value : Reader α) : Reader (KeyPath × α) := fun text => do
  let path ← keyPath text
  match symbol? ['='] (skipSpaces path.rest) with
  | some equals => do
    let read ← value (skipSpaces equals.rest)
    return path.andThen (equals.andThen read.afterSpaces fun _ value => value).afterSpaces Prod.mk
  | none => refuse (.expected "an equals sign") (skipSpaces path.rest)

def pairs (value : Reader α) (text : List Char) :
    Except Refusal (Read (List (KeyPath × α)) text) := do
  let first ← pair value (skipSpaces text)
  match symbol? [','] (skipSpaces first.rest) with
  | some comma => do
    let tail ← pairs value comma.rest
    return (first.andThen (comma.andThen tail fun _ values => values).afterSpaces
      fun value values => value :: values).afterSpaces
  | none =>
    match symbol? ['}'] (skipSpaces first.rest) with
    | some close => return (first.andThen close.afterSpaces fun value _ => [value]).afterSpaces
    | none => refuse (.expected "a comma or a closing brace") (skipSpaces first.rest)
termination_by text.length
decreasing_by exact first.spaces_lt comma

def braces (value : Reader Value) : Reader Value := fun text =>
  match symbol? ['}'] (skipSpaces text) with
  | some close => .ok (close.map fun _ => .table .inline []).afterSpaces
  | none => do
    let read ← pairs value text
    match Table.ofPairs read.value with
    | .ok (origin, entries) => return read.map fun _ => .table origin entries
    | .error reason => refuse reason text

/-- A value with at most `depth` arrays and tables inside one another. -/
def value (depth : Nat) : Reader Value
  | [] => refuse (.expected "a value") []
  | c :: rest =>
    if c == '"' || c == '\'' then do return (← quoted (c :: rest)).map .string
    else if c == '[' then
      match depth with
      | 0 => refuse .nesting (c :: rest)
      | depth + 1 => do return ((← items (value depth) rest).map .array).behind
    else if c == '{' then
      match depth with
      | 0 => refuse .nesting (c :: rest)
      | depth + 1 => do return (← braces (value depth) rest).behind
    else do return (← scalar (c :: rest)).map .scalar

inductive Statement where
  | assign (path : KeyPath) (value : Value)
  | table (path : KeyPath)
  | element (path : KeyPath)

namespace Statement

def path : Statement → KeyPath
  | assign path _ => path
  | table path => path
  | element path => path

end Statement

/-- A key with brackets at its end. -/
def header (close : List Char) : Reader KeyPath := fun text => do
  let path ← keyPath (skipSpaces text)
  match symbol? close (skipSpaces path.rest) with
  | some close => return (path.andThen close.afterSpaces fun path _ => path).afterSpaces
  | none => refuse (.expected "closing brackets") (skipSpaces path.rest)

def statement : Reader Statement
  | '[' :: '[' :: rest => do return ((← header [']', ']'] rest).map .element).behind.behind
  | '[' :: rest => do return ((← header [']'] rest).map .table).behind
  | text => do return (← pair (value nestingLimit) text).map fun (path, value) => .assign path value

/-- What is left of a line behind its statement; nothing if the text ends there. -/
def lineRest (text : List Char) : Except Refusal (Option (Read Unit text)) :=
  match lineEnd? (skipComment (skipSpaces text)) with
  | some read => .ok (some read.afterComment.afterSpaces)
  | none =>
    match skipComment (skipSpaces text) with
    | [] => .ok none
    | c :: rest => refuse (.expected "a line end") (c :: rest)

/-- The statement at the front of a text, if the line has one. -/
def statement? (text : List Char) : Except Refusal (Option (Read Statement text)) :=
  match text with
  | [] => .ok none
  | c :: rest =>
    if c == '#' || c == '\n' || atReturn c rest then .ok none
    else do return some (← statement (c :: rest))

theorem Read.line_lt {text : List Char} (line : Read α (skipSpaces text)) :
    line.rest.length < text.length :=
  Nat.lt_of_lt_of_le line.shorter (length_skipSpaces_le text)

theorem Read.statement_line_lt {text : List Char} (statement : Read α (skipSpaces text))
    (line : Read β statement.rest) : line.rest.length < text.length :=
  Nat.lt_trans line.shorter statement.line_lt

/-- The statements of a text, each with the text from it on. -/
def statements (text : List Char) : Except Refusal (List (Statement × List Char)) := do
  match ← statement? (skipSpaces text) with
  | none =>
    match ← lineRest (skipSpaces text) with
    | none => return []
    | some line => statements line.rest
  | some statement =>
    match ← lineRest statement.rest with
    | none => return [(statement.value, skipSpaces text)]
    | some line => return (statement.value, skipSpaces text) :: (← statements line.rest)
termination_by text.length
decreasing_by
  · exact line.line_lt
  · exact statement.statement_line_lt line

/-- The table under construction: the outermost table and the path of the last header. -/
structure Draft where
  header : List String := []
  root : Table := (.header, [])

namespace Draft

def step (draft : Draft) : Statement → Except Reason Draft
  | .assign path value => do
    return { draft with root := ← draft.root.alter .parent (Table.assign path value) draft.header }
  | .table path => do
    return ⟨path.parents ++ [path.name], ← Table.declare path draft.root⟩
  | .element path => do
    return ⟨path.parents ++ [path.name], ← Table.extend path draft.root⟩

/-- The outermost entries that statements build, from a draft on. -/
def build : Draft → List (Statement × List Char) → Except Refusal Entries
  | draft, [] => .ok draft.root.2
  | draft, (statement, place) :: rest =>
    match draft.step statement with
    | .ok draft => build draft rest
    | .error reason => refuse reason place

end Draft

structure Document where
  statements : List (Statement × List Char)
  entries : Entries

/-- Reads a document; a byte order mark at its front is skipped. -/
def Document.read (text : List Char) : Except Refusal Document := do
  let body := match text with
    | '\uFEFF' :: rest => rest
    | _ => text
  let statements ← Toml.statements body
  return ⟨statements, ← Draft.build {} statements⟩

/-- The place of the first statement about an outermost key. -/
def Document.place (document : Document) (key : String) : List Char :=
  match document.statements.find? fun entry => entry.1.path.first = key with
  | some (_, place) => place
  | none => []

def Entries.strings : Entries → Except String (List (String × String))
  | [] => .ok []
  | (key, .string text) :: rest => do return (key, text) :: (← strings rest)
  | (key, _) :: _ => .error key

/-- The string of a key, if the key is there; the key itself if its value is no string. -/
def Entries.string? (entries : Entries) (key : String) : Except String (Option String) :=
  match entries.lookup key with
  | none => .ok none
  | some (.string text) => .ok (some text)
  | some _ => .error key

/-- Reads a document and takes something from its entries; the report tells what went wrong. -/
def readWith {α : Type} (take : Entries → Except String α) (text : String) : Except String α :=
  match Document.read text.toList with
  | .error refusal => .error (refusal.report text.toList)
  | .ok document =>
    match take document.entries with
    | .ok result => .ok result
    | .error key =>
      .error (Refusal.report ⟨.notString key, document.place key⟩ text.toList)

def decode (text : String) : Except String (Dict String) :=
  (readWith Entries.strings text).map Dict.ofList

end ScopedVars.Toml
