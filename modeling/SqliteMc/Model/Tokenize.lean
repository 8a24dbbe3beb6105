import SqliteMc.Lib.SqlLiteral
import Mathlib.Logic.Relation

/-!
# How SQLite reads a `PRAGMA` statement

The tokens of an SQL text, and the statements `PRAGMA nm dbnm`, with a value behind an equals sign or
in parentheses. White space and comments may stand between any two tokens, and names and values may
be quoted, so that one pragma has many spellings.

* `getToken` — `sqlite3GetToken`.
* `pragma?` — the rules of the grammar for a pragma.
* `Session.Reads` — a text may hold several statements, of which each is read when the ones in front of
  it were executed.

A text is read up to its first NUL. A code unit from `0x80` on stands for the bytes it is encoded as,
which are all of one class but for the byte order mark.
-/

namespace SqliteMc

namespace Sqlite3

-- ---------------------------------------------------------------------------
-- Characters
-- ---------------------------------------------------------------------------

/-- The classes of the first character of a token. -/
inductive CharClass where
  | x
  | kywd0
  | kywd
  | digit
  | dollar
  | varAlpha
  | varNum
  | space
  | quote
  | quote2
  | pipe
  | minus
  | lt
  | gt
  | eq
  | bang
  | slash
  | lp
  | rp
  | semi
  | plus
  | star
  | percent
  | comma
  | and
  | tilda
  | dot
  | id
  | illegal
  | nul
  | bom
  deriving DecidableEq

/-- The ASCII part of the table `aiClass`. -/
def asciiClasses : List CharClass :=
  [.nul, .illegal, .illegal, .illegal, .illegal, .illegal, .illegal, .illegal, .illegal, .space,
    .space, .illegal, .space, .space, .illegal, .illegal,
    .illegal, .illegal, .illegal, .illegal, .illegal, .illegal, .illegal, .illegal, .illegal,
    .illegal, .illegal, .illegal, .illegal, .illegal, .illegal, .illegal,
    .space, .bang, .quote, .varAlpha, .dollar, .percent, .and, .quote, .lp, .rp, .star, .plus,
    .comma, .minus, .dot, .slash,
    .digit, .digit, .digit, .digit, .digit, .digit, .digit, .digit, .digit, .digit, .varAlpha,
    .semi, .lt, .eq, .gt, .varNum,
    .varAlpha, .kywd0, .kywd0, .kywd0, .kywd0, .kywd0, .kywd0, .kywd0, .kywd0, .kywd0, .kywd0,
    .kywd0, .kywd0, .kywd0, .kywd0, .kywd0,
    .kywd0, .kywd0, .kywd0, .kywd0, .kywd0, .kywd0, .kywd0, .kywd0, .x, .kywd, .kywd, .quote2,
    .illegal, .illegal, .illegal, .kywd,
    .quote, .kywd0, .kywd0, .kywd0, .kywd0, .kywd0, .kywd0, .kywd0, .kywd0, .kywd0, .kywd0, .kywd0,
    .kywd0, .kywd0, .kywd0, .kywd0,
    .kywd0, .kywd0, .kywd0, .kywd0, .kywd0, .kywd0, .kywd0, .kywd0, .x, .kywd, .kywd, .illegal,
    .pipe, .illegal, .tilda, .illegal]

/-- `aiClass`. Of the characters whose encoding starts with `0xEF` only the byte order mark is not
handled as an identifier. -/
def aiClass (c : Char16) : CharClass :=
  if c = 0xFEFF then .bom else asciiClasses.getD c.toNat .id

/-- `sqlite3Isspace`. -/
def isSpace (c : Char16) : Bool := (9 ≤ c.toNat && c.toNat ≤ 13) || c == 0x20

/-- The characters of identifiers. -/
def isIdChar (c : Char16) : Bool :=
  Text.isAsciiDigit c || (0x41 ≤ c.toNat && c.toNat ≤ 0x5A) || (0x61 ≤ c.toNat && c.toNat ≤ 0x7A) ||
    c == 0x5F || c == 0x24 || 0x80 ≤ c.toNat

/-- `sqlite3Isxdigit`. -/
def isHexDigit (c : Char16) : Bool :=
  Text.isAsciiDigit c || (0x41 ≤ c.toNat && c.toNat ≤ 0x46) || (0x61 ≤ c.toNat && c.toNat ≤ 0x66)

-- ---------------------------------------------------------------------------
-- Tokens
-- ---------------------------------------------------------------------------

/-- The types of tokens, as far as the rules of a pragma tell them apart: `other` are the operators and
the keywords that no such rule has, `id` are also the keywords that fall back to it. -/
inductive TokenType where
  | semi
  | explain
  | query
  | plan
  | pragma
  | id
  | indexed
  | joinKw
  | string
  | on
  | delete
  | default
  | integer
  | float
  | plus
  | minus
  | eq
  | lp
  | rp
  | dot
  | other
  | space
  | comment
  | illegal
  deriving DecidableEq, Repr

/-- The keywords that are no identifiers wherever they stand. -/
def otherKeywords : List Text :=
  [Text.lit "transaction", Text.lit "commit", Text.lit "to", Text.lit "table", Text.lit "create",
    Text.lit "not", Text.lit "exists", Text.lit "as", Text.lit "or", Text.lit "and", Text.lit "is",
    Text.lit "between", Text.lit "in", Text.lit "isnull", Text.lit "notnull", Text.lit "escape",
    Text.lit "collate", Text.lit "constraint", Text.lit "null", Text.lit "primary", Text.lit "unique",
    Text.lit "check", Text.lit "references", Text.lit "autoincrement", Text.lit "insert",
    Text.lit "update", Text.lit "set", Text.lit "deferrable", Text.lit "foreign", Text.lit "drop",
    Text.lit "union", Text.lit "all", Text.lit "except", Text.lit "intersect", Text.lit "select",
    Text.lit "values", Text.lit "distinct", Text.lit "from", Text.lit "join", Text.lit "using",
    Text.lit "order", Text.lit "group", Text.lit "having", Text.lit "limit", Text.lit "where",
    Text.lit "returning", Text.lit "into", Text.lit "nothing", Text.lit "case", Text.lit "when",
    Text.lit "then", Text.lit "else", Text.lit "index", Text.lit "alter", Text.lit "add"]

/-- The keywords that a rule of a pragma, or of what may stand in front of it, has. -/
def pragmaKeywords : List (Text × TokenType) :=
  [(Text.lit "explain", .explain), (Text.lit "query", .query), (Text.lit "plan", .plan),
    (Text.lit "pragma", .pragma), (Text.lit "indexed", .indexed), (Text.lit "on", .on),
    (Text.lit "delete", .delete), (Text.lit "default", .default), (Text.lit "cross", .joinKw),
    (Text.lit "full", .joinKw), (Text.lit "inner", .joinKw), (Text.lit "left", .joinKw),
    (Text.lit "natural", .joinKw), (Text.lit "outer", .joinKw), (Text.lit "right", .joinKw)]

/-- `keywordCode`, in any letter case. -/
def keywordCode (word : Text) : TokenType :=
  match pragmaKeywords.lookup word.lowerAscii with
  | some type => type
  | none => if word.lowerAscii ∈ otherKeywords then .other else .id

/-- The length of a comment behind its opening, with the `*/` that ends it. -/
def commentLength : Text → Nat
  | [] => 0
  | c :: rest => if c = 0x2A ∧ rest.head? = some 0x2F then 2 else commentLength rest + 1

/-- Digits and digit separators. -/
def isDigitOrSeparator (digit : Char16 → Bool) (c : Char16) : Bool := digit c || c == 0x5F

/-- The exponent of a number, as far as its first digit. -/
def startsExponent : Text → Bool
  | e :: c :: rest =>
    (e == 0x65 || e == 0x45) && (Text.isAsciiDigit c ||
      ((c == 0x2B || c == 0x2D) && rest.head?.any Text.isAsciiDigit))
  | _ => false

/-- The type of a number and what follows it, before that is looked at. -/
def number (z : Text) : TokenType × Text :=
  let run := z.dropWhile (isDigitOrSeparator Text.isAsciiDigit)
  let fraction :=
    if run.head? = some 0x2E then run.tail.dropWhile (isDigitOrSeparator Text.isAsciiDigit) else run
  let rest :=
    if startsExponent fraction then
      (fraction.drop 2).dropWhile (isDigitOrSeparator Text.isAsciiDigit)
    else fraction
  -- with a separator it is a `QNUMBER`, of which no rule of a pragma knows
  (if (z.take (z.length - rest.length)).contains 0x5F then .other
    else if rest.length = run.length then .integer else .float, rest)

/-- A number in base 16 behind its prefix. -/
def hexNumber (z : Text) : TokenType × Text :=
  let rest := z.dropWhile (isDigitOrSeparator isHexDigit)
  (if (z.take (z.length - rest.length)).contains 0x5F then .other else .integer, rest)

/-- The type of a number in either base, and what follows it. -/
def numeral (z : Text) : TokenType × Text :=
  match z with
  | 0x30 :: x :: h :: digits =>
    if (x = 0x78 ∨ x = 0x58) ∧ isHexDigit h then hexNumber (h :: digits) else number z
  | _ => number z

/-- A number that runs into an identifier is illegal. -/
def numberToken (z : Text) : TokenType × Nat :=
  let (type, rest) := numeral z
  (if rest.head?.any isIdChar then .illegal else type, z.length - (rest.dropWhile isIdChar).length)

/-- A variable behind its first character, `n` characters of its name having been read. -/
def variableToken (n : Nat) : Text → TokenType × Nat
  | [] => (if n = 0 then .illegal else .other, 0)
  | c :: rest =>
    if isIdChar c then
      let r := variableToken (n + 1) rest
      (r.1, r.2 + 1)
    else if c = 0x28 ∧ 0 < n then
      -- an array index, which must not have white space in it
      let index := rest.takeWhile fun d => !isSpace d && d != 0x29
      if (rest.drop index.length).head? = some 0x29 then (.other, index.length + 2)
      else (.illegal, index.length + 1)
    else
      match rest with
      | d :: rest' =>
        if c = 0x3A ∧ d = 0x3A then
          let r := variableToken n rest'
          (r.1, r.2 + 2)
        else (if n = 0 then .illegal else .other, 0)
      | [] => (if n = 0 then .illegal else .other, 0)

/-- A text in quotes. -/
def quotedToken (q : Char16) (rest : Text) : TokenType × Nat :=
  match SqlLiteral.readQuoted q rest with
  | some (_, rest') => (if q = SqlLiteral.quote then .string else .id, rest.length - rest'.length + 1)
  | none => (.illegal, rest.length + 1)

/-- A `BLOB` literal behind `x'`, or what looks like one. -/
def blobToken (z : Text) : TokenType × Nat :=
  let digits := z.takeWhile isHexDigit
  if (z.drop digits.length).head? = some SqlLiteral.quote ∧ digits.length % 2 = 0 then
    (.other, digits.length + 3)
  else
    let body := z.takeWhile (· != SqlLiteral.quote)
    (.illegal, if body.length < z.length then body.length + 3 else body.length + 2)

/-- An identifier or a keyword. -/
def wordToken (z : Text) : TokenType × Nat :=
  (keywordCode (z.takeWhile isIdChar), (z.takeWhile isIdChar).length)

/-- `sqlite3GetToken`: the type and the length of the token that a text begins with. -/
def getToken (c : Char16) (rest : Text) : TokenType × Nat :=
  match aiClass c with
  | .space => (.space, (rest.takeWhile isSpace).length + 1)
  | .minus =>
    match rest with
    | 0x2D :: rest' => (.comment, (rest'.takeWhile (· != 0x0A)).length + 2)
    | 0x3E :: rest' => (.other, if rest'.head? = some 0x3E then 3 else 2)
    | _ => (.minus, 1)
  | .lp => (.lp, 1)
  | .rp => (.rp, 1)
  | .semi => (.semi, 1)
  | .plus => (.plus, 1)
  | .star => (.other, 1)
  | .slash =>
    match rest with
    | 0x2A :: d :: rest' => (.comment, commentLength (d :: rest') + 2)
    | _ => (.other, 1)
  | .percent => (.other, 1)
  | .eq => (.eq, if rest.head? = some 0x3D then 2 else 1)
  | .lt => (.other, if rest.head?.any fun d => d == 0x3D || d == 0x3E || d == 0x3C then 2 else 1)
  | .gt => (.other, if rest.head?.any fun d => d == 0x3D || d == 0x3E then 2 else 1)
  | .bang => if rest.head? = some 0x3D then (.other, 2) else (.illegal, 1)
  | .pipe => (.other, if rest.head? = some 0x7C then 2 else 1)
  | .comma => (.other, 1)
  | .and => (.other, 1)
  | .tilda => (.other, 1)
  | .quote => quotedToken c rest
  | .dot => if rest.head?.any Text.isAsciiDigit then numberToken (c :: rest) else (.dot, 1)
  | .digit => numberToken (c :: rest)
  | .quote2 =>
    let body := rest.takeWhile (· != 0x5D)
    if body.length < rest.length then (.id, body.length + 2) else (.illegal, body.length + 1)
  | .varNum => (.other, (rest.takeWhile Text.isAsciiDigit).length + 1)
  | .dollar | .varAlpha =>
    let r := variableToken 0 rest
    (r.1, r.2 + 1)
  | .x => if rest.head? = some SqlLiteral.quote then blobToken rest.tail else wordToken (c :: rest)
  | .kywd0 | .kywd | .id => wordToken (c :: rest)
  | .bom => (.space, 1)
  | .illegal | .nul => (.illegal, 1)

structure Token where
  type : TokenType
  text : Text
  deriving DecidableEq, Repr

/-- The tokens of a text of which the first `skip` characters have been read. -/
def tokensFrom : Nat → Text → List Token
  | _, [] => []
  | skip + 1, _ :: rest => tokensFrom skip rest
  | 0, c :: rest =>
    let (type, length) := getToken c rest
    ⟨type, (c :: rest).take length⟩ :: tokensFrom (length - 1) rest

/-- `sqlite3RunParser` passes over white space and comments. -/
def significant (ts : List Token) : List Token :=
  ts.filter fun t => !(t.type == .space || t.type == .comment)

theorem significant_cons {t : Token} (h : (t.type == .space || t.type == .comment) = false)
    (ts : List Token) : significant (t :: ts) = t :: significant ts := by
  rw [significant, List.filter_cons_of_pos (by rw [h]; rfl), significant]

/-- What the parser is given of a text, up to the end of it. -/
def tokens (zSql : Text) : List Token := significant (tokensFrom 0 zSql.cString)

-- ---------------------------------------------------------------------------
-- The rules of a pragma
-- ---------------------------------------------------------------------------

/-- `sqlite3Dequote` of a token. -/
def dequote : Text → Text
  | [] => []
  | c :: rest =>
    if c = 0x27 ∨ c = 0x22 ∨ c = 0x60 then ((SqlLiteral.readQuoted c rest).map Prod.fst).getD []
    else if c = 0x5B then rest.takeWhile (· != 0x5D)
    else c :: rest

/-- `sqlite3NameFromToken`. -/
def Token.name (t : Token) : Text := dequote t.text

/-- `nm ::= ID|INDEXED|JOIN_KW` and `nm ::= STRING`; four keywords of other rules fall back to `ID`. -/
def TokenType.isNm : TokenType → Bool
  | .id | .indexed | .joinKw | .string | .explain | .query | .plan | .pragma => true
  | _ => false

def TokenType.isNumber : TokenType → Bool
  | .integer | .float => true
  | _ => false

/-- The other alternatives of `nmnum`. -/
def TokenType.isValueKeyword : TokenType → Bool
  | .on | .delete | .default => true
  | _ => false

def nm? : List Token → Option (Text × List Token)
  | [] => none
  | t :: ts => if t.type.isNm then some (t.name, ts) else none

/-- `nmnum` or `minus_num`. -/
def value? : List Token → Option (Text × List Token)
  | [] => none
  | t :: ts =>
    if t.type = .plus ∨ t.type = .minus then
      match ts with
      | [] => none
      | n :: ts =>
        if n.type.isNumber then some (if t.type = .minus then 0x2D :: n.text else n.text, ts) else none
    else if t.type.isNumber || t.type.isNm || t.type.isValueKeyword then some (t.name, ts)
    else none

/-- The next token gets to the parser, which then reduces the rule behind which it stands. That it must
be the end of the statement is found out after that. -/
def reduces : List Token → Bool
  | [] => true
  | t :: _ => t.type != .illegal

/-- `zLeft` and `zRight` of `sqlite3Pragma`, and the schema in front of the name. -/
structure Pragma where
  schema : Option Text
  name : Text
  value : Option Text
  deriving DecidableEq, Repr

/-- What follows the name of a pragma. -/
def pragmaValue? (schema : Option Text) (name : Text) (ts : List Token) : Option Pragma :=
  match ts with
  | [] => some ⟨schema, name, none⟩
  | t :: ts =>
    if t.type = .eq then
      (value? ts).bind fun (value, ts) => if reduces ts then some ⟨schema, name, some value⟩ else none
    else if t.type = .lp then
      (value? ts).bind fun (value, ts) =>
        match ts with
        | [] => none
        | t :: ts => if t.type = .rp ∧ reduces ts then some ⟨schema, name, some value⟩ else none
    else if t.type = .illegal then none
    else some ⟨schema, name, none⟩

/-- `explain ::= EXPLAIN` and `explain ::= EXPLAIN QUERY PLAN`, behind empty statements. -/
def dropExplain (ts : List Token) : List Token :=
  match ts.dropWhile fun t => t.type == .semi with
  | [] => []
  | e :: ts =>
    if e.type = .explain then
      match ts with
      | q :: p :: ts' => if q.type = .query ∧ p.type = .plan then ts' else ts
      | _ => ts
    else e :: ts

/-- The pragma that the tokens begin with, with which `sqlite3Pragma` is called while they are
parsed. -/
def pragma? (ts : List Token) : Option Pragma :=
  match dropExplain ts with
  | [] => none
  | t :: ts =>
    if t.type = .pragma then
      (nm? ts).bind fun (x, ts) =>
        match ts with
        | [] => some ⟨none, x, none⟩
        | d :: ts' =>
          if d.type = .dot then (nm? ts').bind fun (y, ts) => pragmaValue? (some x) y ts
          else pragmaValue? none x ts
    else none

example : pragma? (tokens (Text.lit "PRAGMA main . /**/[KEY] = 'it''s' -- x")) =
    some ⟨some (Text.lit "main"), Text.lit "KEY", some (Text.lit "it's")⟩ := by decide

-- ---------------------------------------------------------------------------
-- Texts of several statements
-- ---------------------------------------------------------------------------

/-- What decides how a connection goes on in a text: the databases that are attached, and what is left
of the text behind its first statement, if that was executed without an error. -/
structure Session where
  attached : List Text
  proceed : List Token → Option (List Token)

/-- `sqlite3FindDbName`. -/
def Session.findDbName (s : Session) (name : Text) : Bool :=
  (Text.lit "main" :: Text.lit "temp" :: s.attached).any fun db => db.lowerAscii == name.lowerAscii

/-- The connection comes to the pragma in the text, and knows its schema. -/
def Session.Reads (s : Session) (zSql : Text) (p : Pragma) : Prop :=
  ∃ ts, Relation.ReflTransGen (fun ts ts' => s.proceed ts = some ts') (tokens zSql) ts ∧
    pragma? ts = some p ∧ ∀ schema ∈ p.schema, s.findDbName schema = true

end Sqlite3

end SqliteMc
