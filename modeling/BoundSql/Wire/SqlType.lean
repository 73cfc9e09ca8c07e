/-! The server's types, by their internal names. -/

namespace BoundSql.Wire

inductive SqlType where
  | bool
  | int2
  | int4
  | int8
  | oid
  | float4
  | float8
  | numeric
  | text
  | varchar
  | bpchar
  | name
  | unknown
  | timestamp
  | timestamptz
  | date
  | uuid
  | json
  | jsonb
  | array (item : SqlType)
  | other (typeName : String)
  deriving DecidableEq

namespace SqlType

def named : List (String × SqlType) :=
  [("bool", bool), ("int2", int2), ("int4", int4), ("int8", int8), ("oid", oid),
    ("float4", float4), ("float8", float8), ("numeric", numeric), ("text", text),
    ("varchar", varchar), ("bpchar", bpchar), ("name", name), ("unknown", unknown),
    ("timestamp", timestamp), ("timestamptz", timestamptz), ("date", date), ("uuid", uuid),
    ("json", json), ("jsonb", jsonb)]

def typeName : SqlType → String
  | array item => "_" ++ item.typeName
  | other n => n
  | t => ((named.find? (·.2 == t)).map (·.1)).getD ""

def ofScalarName (n : String) : SqlType := ((named.find? (·.1 == n)).map (·.2)).getD (other n)

def ofName (n : String) : SqlType :=
  match n.toList with
  | '_' :: item => array (ofScalarName (String.ofList item))
  | _ => ofScalarName n

end SqlType

end BoundSql.Wire
