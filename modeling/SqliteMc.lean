import SqliteMc.Lib.LinkedMap
import SqliteMc.Model.CipherConfig
import SqliteMc.Model.CipherInvariant
import SqliteMc.Model.EncryptionConfig
import SqliteMc.Results.Selection
import SqliteMc.Lib.Encoding
import SqliteMc.Lib.SqlLiteral
import SqliteMc.Model.Key
import SqliteMc.Model.Pragma
import SqliteMc.Model.ApplyPragmas
import SqliteMc.Model.Engine
import SqliteMc.Results.Tables
import SqliteMc.Results.Faithful
import SqliteMc.Results.Migration
import SqliteMc.Model.Transport
import SqliteMc.Results.Transport
import SqliteMc.Lib.Transition
import SqliteMc.Model.Properties
import SqliteMc.Results.Properties
import SqliteMc.Lib.Script
import SqliteMc.Model.Connection
import SqliteMc.Results.Connection
import SqliteMc.Lib.Attempts
import SqliteMc.Model.Factory
import SqliteMc.Results.Factory
import SqliteMc.Model.Platform
import SqliteMc.Results.Rekey
import SqliteMc.Results.Key
import SqliteMc.Results.Credentials
import SqliteMc.Model.PragmaConfig
import SqliteMc.Results.Flags
import SqliteMc.Results.UserPragmas
import SqliteMc.Lib.FilePath
import SqliteMc.Model.DatabaseName
import SqliteMc.Results.DatabaseName
import SqliteMc.Lib.HashCode
import SqliteMc.Model.HashCode
import SqliteMc.Results.HashCode
import SqliteMc.Lib.Search
import SqliteMc.Model.Logger
import SqliteMc.Results.Redaction
import SqliteMc.Results.Statements
import SqliteMc.Model.SharedConfig
import SqliteMc.Results.Builders
import SqliteMc.Lib.Buffer
import SqliteMc.Lib.Cbc
import SqliteMc.Model.RijndaelTables
import SqliteMc.Model.Rijndael
import SqliteMc.Model.RijndaelInverse
import SqliteMc.Model.ChaCha20
import SqliteMc.Model.Poly1305
import SqliteMc.Model.Ascon
import SqliteMc.Model.CodecAlgos
import SqliteMc.Model.PageCipher
import SqliteMc.Model.PageRoundTrip
import SqliteMc.Lib.FileImage
import SqliteMc.Lib.LittleEndian
import SqliteMc.Model.Codec
import SqliteMc.Model.CodecInvariant
import SqliteMc.Model.PageHeader
import SqliteMc.Model.Storage
import SqliteMc.Model.Log
import SqliteMc.Model.Journal
import SqliteMc.Model.Wal
import SqliteMc.Results.Codec
import SqliteMc.Results.Journal
import SqliteMc.Results.Pages
import SqliteMc.Results.Poly1305
import SqliteMc.Results.Primitives
import SqliteMc.Results.Storage
import SqliteMc.Results.Wal
