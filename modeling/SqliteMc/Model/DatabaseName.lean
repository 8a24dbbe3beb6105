import SqliteMc.Lib.Encoding
import SqliteMc.Lib.FilePath
import SqliteMc.Model.Builder

/-!
# From a database's name to what is opened

`FactoryConfig.Builder` checks the name, `create` makes a JDBC URL of it, and
`JDBCMC4Connection.of` cuts the file name back out of the URL. For a database on the file
system the name is resolved against the `DatabasesDir`; a named ephemeral one is opened by a
URI, which SQLite takes apart with `sqlite3ParseUri`.

The URI parser follows the C code on code units instead of bytes: all characters it knows
are ASCII, and it copies the others.
-/

namespace SqliteMc

namespace FactoryConfig

/-- The checks of `FactoryConfig.Builder`. -/
def checkDbName (dbName : Text) : Except Throwable Unit := do
  require (¬ dbName.isBlank) "Invalid dbName. Cannot be blank."
  require (dbName.lines.length = 1) "Invalid dbName. Cannot be multiple lines."
  require (0x2F ∉ dbName ∧ 0x5C ∉ dbName)
    "Invalid dbName. Cannot contain file system separator characters / or \\"
  require (0x3F ∉ dbName) "Invalid dbName. Cannot contain question marks '?'"

end FactoryConfig

-- ---------------------------------------------------------------------------
-- Files
-- ---------------------------------------------------------------------------

/-- `File(path).absolutePath` of an absolute path, which is what a `DatabasesDir` keeps. -/
def DatabasesDir.path (path : Text) : Text := FilePath.normalize path

/-- `DatabasesDir.resolve(dbName)`, when the directory exists or can be made. -/
def DatabasesDir.resolve (path dbName : Text) : Text :=
  FilePath.resolve (FilePath.normalize (DatabasesDir.path path)) dbName

namespace JDBCMC

/-- `JDBC.PREFIX`. -/
def PREFIX : Text := Text.lit "jdbc:sqlite:"

/-- `JDBC.isValidURL`. -/
def isValidURL (url : Text) : Bool := PREFIX.isPrefixOf url.lowerAscii

/-- The URL of a database on the file system. -/
def fileUrl (directory dbName : Text) : Text := PREFIX ++ DatabasesDir.resolve directory dbName

/-- The URI of a named ephemeral database. -/
def namedUri (dbName : Text) : Text :=
  Text.lit "file:" ++ dbName ++ Text.lit "?mode=memory&cache=shared"

end JDBCMC

/-- The file name that `JDBCMC4Connection.of` opens for a URL. -/
def JDBCMC4Connection.fileName (url : Text) : Option Text :=
  if !JDBCMC.isValidURL url then none else some (url.trim.drop JDBCMC.PREFIX.length)

-- ---------------------------------------------------------------------------
-- URIs
-- ---------------------------------------------------------------------------

namespace Sqlite3

/-- `eState`: the parser is in the file's name, or in the name or the value of a parameter. -/
inductive UriState where
  | path
  | name
  | value
  deriving DecidableEq

/-- What the parser is skipping: nothing, the rest of a text with a `%00` in it, or a
parameter without a name. -/
inductive Skip where
  | nothing
  | text
  | parameter
  deriving DecidableEq

/-- The character ends what is being read in the state. -/
def UriState.endedBy (c : Char16) : UriState → Bool
  | path => c == 0x3F
  | name => c == 0x3D || c == 0x26
  | value => c == 0x26

/-- The octet that is written as `%HH` with the digits `h` and `l`. -/
def escaped? (h l : Char16) : Option Nat :=
  match Base16.value h, Base16.value l with
  | some x, some y => some (16 * x + y)
  | _, _ => none

/-- What the parser's loop writes to `zFile`: the path and the names and values of the
parameters, each ended by a NUL. `last` is what was written last, a NUL at first. -/
def copyUri (s : UriState) (last : Char16) : Skip → Text → Text
  | _, [] => if s = .name then [0] else []
  | skip, c :: rest =>
    if c = 0 ∨ c = 0x23 then
      -- the end of the string, or the fragment behind `#`
      if s = .name then [0] else []
    -- to the next ampersand
    else if skip = .parameter then copyUri s last (if c = 0x26 then .nothing else .parameter) rest
    -- to the end of the name or the value
    else if skip = .text ∧ ¬ s.endedBy c then copyUri s last .text rest
    else if c = 0x25 then
      match rest with
      | h :: l :: rest' =>
        -- two hexadecimal digits are one octet; a NUL is not copied
        match escaped? h l with
        | some 0 => copyUri s last .text rest'
        | some octet => BitVec.ofNat 16 octet :: copyUri s (BitVec.ofNat 16 octet) .nothing rest'
        | none => c :: copyUri s c .nothing (h :: l :: rest')
      | rest => c :: copyUri s c .nothing rest
    else if s = .name ∧ s.endedBy c then
      -- a parameter without a name, one without a value, or its value
      if last = 0 then copyUri s last (if c = 0x26 then .nothing else .parameter) rest
      else if c = 0x26 then 0 :: 0 :: copyUri .name 0 .nothing rest
      else 0 :: copyUri .value 0 .nothing rest
    else if s.endedBy c then 0 :: copyUri .name 0 .nothing rest
    else c :: copyUri s c .nothing rest

/-- The parameters behind the path, up to one without a name. -/
def uriParameters : List Text → List (Text × Text)
  | [] => []
  | [name] => if name = [] then [] else [(name, [])]
  | name :: value :: rest => if name = [] then [] else (name, value) :: uriParameters rest

structure Uri where
  path : Text
  parameters : List (Text × Text)
  deriving DecidableEq

/-- `zFile` taken apart at its NULs. -/
def readUri (zFile : Text) : Uri :=
  match zFile.splitOn 0 with
  | [] => ⟨[], []⟩
  | path :: parameters => ⟨path, uriParameters parameters⟩

/-- `sqlite3ParseUri` of a database name: the path and the parameters, or the authority that
is refused. A name that does not start with `file:` is a path. -/
def parseUri (zUri : Text) : Except Text Uri :=
  let uri := zUri.cString
  if !(Text.lit "file:").isPrefixOf uri then .ok ⟨uri, []⟩
  else if (Text.lit "//").isPrefixOf (uri.drop 5) then
    -- the authority is dropped
    let authority : Text := (uri.drop 7).takeWhile (· != 0x2F)
    if authority = [] ∨ authority = Text.lit "localhost" then
      .ok (readUri (copyUri .path 0 .nothing (uri.drop (7 + authority.length))))
    else .error authority
  else .ok (readUri (copyUri .path 0 .nothing (uri.drop 5)))

end Sqlite3

end SqliteMc
