import BoundSql.Json.Printer
import BoundSql.Query.Basic
import BoundSql.Toml.Reader

/-! Configuration of one database; references to the environment are expanded before it is checked. -/

namespace BoundSql

structure Config where
  url : String
  maxSize : Nat
  dialect : String
  primaryKey : String
  fetchAs : String
  deriving DecidableEq

abbrev Environment := String → Option String

namespace Error

def invalidToml : Error := .config "invalid TOML"

def unterminatedReference (key : String) : Error :=
  .config ("unterminated env var reference: $" ++ Text.braced key)

def emptyReference : Error := .config "invalid env var reference: ${}"

def missingVariable (key : String) : Error :=
  .config ("missing env var for config expansion: " ++ key)

def emptyUrl : Error := .config "database.url must not be empty"

def noConnections : Error := .config "database.max_size must be > 0"

def emptyPrimaryKey : Error := .config "database.primary_key must not be empty"

def unknownStrategy (name : String) : Error := .config ("unknown fetch strategy: " ++ name)

def unreadableFile (path reason : String) : Error :=
  .config ("failed to read " ++ path ++ ": " ++ reason)

end Error

/-- Replace each reference to a variable by its value, which is not looked at again. Inside a reference
the characters of its key are given in reverse. -/
def expandReferences (env : Environment) : (key : Option (List Char)) → List Char →
    Except Error (List Char)
  | none, [] => .ok []
  | some key, [] => .error (.unterminatedReference (String.ofList key.reverse))
  | none, '$' :: '{' :: rest => expandReferences env (some []) rest
  | none, c :: rest => (expandReferences env none rest).map (c :: ·)
  | some key, '}' :: rest =>
    let key := String.ofList key.reverse
    if key.isEmpty then .error .emptyReference
    else
      match env key with
      | none => .error (.missingVariable key)
      | some value => (expandReferences env none rest).map (value.toList ++ ·)
  | some key, c :: rest => expandReferences env (some (c :: key)) rest

namespace Config

def defaultMaxSize : Nat := 16

def ofUrl (url : String) : Config := ⟨url, defaultMaxSize, "postgres", defaultPrimaryKey, "record"⟩

def dialectOf (c : Config) : Except Error Dialect := Dialect.ofName c.dialect

def fetchFor (c : Config) (α : Type) [RowType α] : Except Error (Fetch α) := Fetch.ofName c.fetchAs

def strategies : List String := ["record", "array", "identity", "object"]

def validate (c : Config) : Except Error Unit := do
  if Text.blank c.url then throw .emptyUrl
  if c.maxSize = 0 then throw .noConnections
  if Text.blank c.primaryKey then throw .emptyPrimaryKey
  let _ ← c.dialectOf
  let strategy := Text.keyword c.fetchAs
  if strategies.contains strategy then return () else throw (.unknownStrategy strategy)

def query (c : Config) (t : TableRef) : Except Error (Query Record) :=
  c.dialectOf.map fun d => (Query.withPrimaryKey t c.primaryKey).withDialect d

def toJson (c : Config) : Json :=
  .ofFields
    [("url", .text c.url), ("max_size", .integer c.maxSize), ("dialect", .text c.dialect),
      ("primary_key", .text c.primaryKey), ("fetch_as", .text c.fetchAs)]

def key (c : Config) : String := c.toJson.compact

def textOr (default : String) : Option Toml → Option String
  | none => some default
  | some (.string s) => some s
  | some _ => none

def sizeOr (default : Nat) : Option Toml → Option Nat
  | none => some default
  | some (.integer n) => if 0 ≤ n ∧ n < 2 ^ 64 then some n.toNat else none
  | some _ => none

def ofParts (url maxSize dialect primaryKey fetchAs : Option Toml) : Option Config := do
  let .string url ← url | none
  let defaults := ofUrl url
  return ⟨url, ← sizeOr defaults.maxSize maxSize, ← textOr defaults.dialect dialect,
    ← textOr defaults.primaryKey primaryKey, ← textOr defaults.fetchAs fetchAs⟩

def othersReadable (names : List String) (fields : List (String × Toml)) : Bool :=
  fields.all fun f => names.contains f.1 || f.2.readable

def fieldNames : List String := ["url", "max_size", "dialect", "primary_key", "fetch_as"]

/-- The configuration in a document, not yet checked. The fields may also be given as a list in their
order, of which nothing after the last field is looked at. -/
def ofDocument : Toml → Option Config
  | .table _ sections =>
    if othersReadable ["database"] sections then
      match Toml.lookup "database" sections with
      | some (.table _ fields) =>
        let get (name : String) := Toml.lookup name fields
        if othersReadable fieldNames fields then
          ofParts (get "url") (get "max_size") (get "dialect") (get "primary_key") (get "fetch_as")
        else none
      | some (.array _ items) => ofParts items[0]? items[1]? items[2]? items[3]? items[4]?
      | _ => none
    else none
  | _ => none

def ofToml (env : Environment) (document : String) : Except Error Config := do
  let some c := (Toml.ofText? document).bind ofDocument | throw .invalidToml
  let url ← expandReferences env none c.url.toList
  let c := { c with url := String.ofList url }
  c.validate
  return c

def load (env : Environment) (path : String) (contents : Except String String) :
    Except Error Config :=
  match contents with
  | .ok document => ofToml env document
  | .error reason => .error (.unreadableFile path reason)

end Config

end BoundSql
