import SqliteMc.Lib.Search
import SqliteMc.Lib.SqlLiteral
import SqliteMc.Model.Pragma
import SqliteMc.Model.Tokenize

/-!
# The redacted logger

With a logger the platform's driver is wrapped in SQLDelight's `LogSqliteDriver`, which logs
each statement; `toRedactedLoggerOrNull` stands between it and the user's logger.

`KeyPragma` are the statements that SQLite reads as setting the key: keywords and names in
any letter case, white space wherever tokens may have it, a schema in front of the name, an
equals sign or parentheses. The argument is what is left open.
-/

namespace SqliteMc

-- ---------------------------------------------------------------------------
-- What is logged
-- ---------------------------------------------------------------------------

/-- How a statement is submitted to the driver. -/
inductive Submission where
  | execute
  | executeQuery
  deriving DecidableEq

/-- What `LogSqliteDriver` logs of a statement. -/
def LogSqliteDriver.log : Submission → Text → Text
  | .execute, sql => Text.lit "EXECUTE\n " ++ sql
  | .executeQuery, sql => Text.lit "QUERY\n " ++ sql

namespace FactoryConfig

/-- `cleansed`. -/
def cleansed (redactLogs : Bool) (log : Text) : Text :=
  -- `rekey =` or `key =`, anywhere in the log
  if redactLogs && log.startsWithIgnoreCase (Text.lit "EXECUTE\n PRAGMA") &&
      (log.containsIgnoreCase (MCPragma.reKey.name ++ Text.lit " =") ||
        log.containsIgnoreCase (MCPragma.key.name ++ Text.lit " =")) then
    log.replaceAfter 0x3D ++ Text.lit " [REDACTED];"
  else log

/-- The text that the user's logger is called with. -/
def logged (redactLogs : Bool) (dbName log : Text) : Text :=
  dbName ++ Text.lit ": " ++ cleansed redactLogs log

end FactoryConfig

-- ---------------------------------------------------------------------------
-- What sets a key
-- ---------------------------------------------------------------------------

namespace Sqlite3

/-- No token, or one of white space: a vertical tab does not start one. -/
def IsSpaces (t : Text) : Prop := (∀ c ∈ t, isSpace c = true) ∧ t.head? ≠ some 0x0B

theorem isSpaces_nil : IsSpaces [] := ⟨fun _ hc => absurd hc List.not_mem_nil, by decide⟩

theorem isSpaces_singleton {c : Char16} (h : isSpace c = true) (hc : c ≠ 0x0B) : IsSpaces [c] := by
  refine ⟨fun d hd => ?_, fun h => hc (Option.some_inj.mp h)⟩
  rwa [List.mem_singleton.mp hd]

/-- An identifier without quotes. -/
structure IsId (t : Text) : Prop where
  ne_nil : t ≠ []
  chars : ∀ c ∈ t, isIdChar c = true
  head : ∀ c ∈ t.head?, Text.isAsciiDigit c = false ∧ c ≠ 0x24

/-- A schema, the white space behind it, the dot and the white space behind that. -/
structure SchemaPrefix where
  schema : Text
  space : Text
  space' : Text
  isId : IsId schema
  isSpaces : IsSpaces space
  isSpaces' : IsSpaces space'

def SchemaPrefix.text (s : SchemaPrefix) : Text := s.schema ++ s.space ++ 0x2E :: s.space'

/-- Between the name and the argument: an equals sign, or a parenthesis that is closed
behind the argument and white space. -/
inductive PragmaForm where
  | equals
  | parenthesised (space : Text) (isSpaces : IsSpaces space)

def PragmaForm.opening : PragmaForm → Char16
  | equals => 0x3D
  | parenthesised _ _ => 0x28

def PragmaForm.closing : PragmaForm → Text
  | equals => []
  | parenthesised space _ => space ++ [0x29]

/-- A statement that sets the key, but for its argument. -/
structure KeyPragma where
  lead : Text
  keyword : Text
  gap : Text
  schema : Option SchemaPrefix
  name : Text
  before : Text
  form : PragmaForm
  after : Text
  tail : Text
  lead_isSpaces : IsSpaces lead
  keyword_eq : keyword.lowerAscii = Text.lit "pragma"
  gap_isSpaces : IsSpaces gap
  gap_ne_nil : gap ≠ []
  name_eq : name.lowerAscii = Text.lit "key" ∨ name.lowerAscii = Text.lit "rekey"
  before_isSpaces : IsSpaces before
  after_isSpaces : IsSpaces after
  /-- White space up to the end of the statement; more may follow that. -/
  tail_ends : ∃ space rest, tail = space ++ rest ∧ IsSpaces space ∧ (rest = [] ∨ rest.head? = some 0x3B)

namespace KeyPragma

/-- What is written in front of the equals sign or the parenthesis. -/
def head (p : KeyPragma) : Text :=
  p.lead ++ p.keyword ++ p.gap ++ ((p.schema.map SchemaPrefix.text).getD []) ++ p.name ++ p.before

/-- The statement with an argument. -/
def text (p : KeyPragma) (argument : Text) : Text :=
  p.head ++ p.form.opening :: p.after ++ argument ++ p.form.closing ++ p.tail

end KeyPragma

end Sqlite3

end SqliteMc
