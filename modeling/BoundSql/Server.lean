import BoundSql.Connection
import BoundSql.Placeholder
import BoundSql.Wire.Decode

/-! A client of a database server, which keeps what it was sent and is silent once closed. -/

namespace BoundSql

open Wire

inductive ServerFailure where
  | prepare
  | bind
  | execute
  | command
  | close
  | closeAfterRows
  deriving DecidableEq

structure Reply where
  paramTypes : List SqlType
  columns : List (String × SqlType)
  rows : List (List (Option Bytes))
  tag : String
  failure : Option ServerFailure

structure Sent where
  prepared : Option String
  bound : Option (List (Option Bytes))
  command : Option String

def Sent.nothing : Sent := ⟨none, none, none⟩

structure Server where
  reply : Reply
  closed : Bool
  sent : Sent

namespace Error

def closedConnection : Error := .connection "connection closed"

/-- A statement text is sent up to a zero character, and so may not contain one. -/
def unsendable : Error := .query "error encoding message to server"

def unreadable : Error := .query "error parsing response from server"

def rejected : Error := .query "db error"

def parameterCount (expected given : Nat) : Error :=
  .query ("expected " ++ toString expected ++ " parameters but got " ++ toString given)

def unencodable (index : Nat) : Error := .query ("error serializing parameter " ++ toString index)

end Error

namespace Reply

/-- The last word of a tag as a number, 0 for any other word. -/
def tagCount (tag : String) : Nat :=
  let word := (tag.toList.reverse.takeWhile (· != ' ')).reverse
  let digits :=
    match word with
    | '+' :: digits => digits
    | digits => digits
  let n := Number.digitsValue digits
  if digits.isEmpty || !digits.all Char.isDigit || 2 ^ 64 ≤ n then 0 else n

def encodeAll (index : Nat) : List (Value × SqlType) → Except Error (List (Option Bytes))
  | [] => .ok []
  | (v, type) :: rest =>
    match v.encode type with
    | .error _ => .error (.unencodable index)
    | .ok bytes => (encodeAll (index + 1) rest).map (bytes :: ·)

def decodeCells (index : Nat) : List (String × SqlType) → List (Option Bytes) →
    Except Error (List (String × Value))
  | (name, type) :: columns, cell :: cells =>
    match decodeCell index type cell with
    | .error e => .error (e.toError name)
    | .ok v => (decodeCells (index + 1) columns cells).map ((name, v) :: ·)
  | _, _ => .ok []

/-- Read one row of cells. A row has a cell for every column and no others: one of another width is
refused before any cell is read. -/
def decodeRow (columns : List (String × SqlType)) (cells : List (Option Bytes)) : Except Error Record :=
  if cells.length = columns.length then (decodeCells 0 columns cells).map Record.mk
  else .error .unreadable

def stream (r : Reply) : RowStream :=
  let rows := r.rows.map (decodeRow r.columns)
  match r.failure with
  | some .execute => ⟨rows ++ [.error .rejected], none, none⟩
  | some .closeAfterRows => ⟨rows ++ [.error .closedConnection], none, none⟩
  | _ => ⟨rows, none, some (tagCount r.tag)⟩

def answer (r : Reply) : Except Error Output :=
  match r.failure with
  | some .bind => .error .rejected
  | some .execute => if r.columns.isEmpty then .error .rejected else .ok (.rows r.stream)
  | some .closeAfterRows =>
    if r.columns.isEmpty then .error .closedConnection else .ok (.rows r.stream)
  | _ => if r.columns.isEmpty then .ok (.affected (tagCount r.tag)) else .ok (.rows r.stream)

end Reply

namespace Server

def start : Server := ⟨⟨[], [], [], "", none⟩, false, .nothing⟩

def ready (s : Server) (r : Reply) : Server := { s with reply := r, sent := .nothing }

def bindAndRun (params : List Value) (s : Server) : Except Error Output × Server :=
  let types := s.reply.paramTypes
  if params.length ≠ types.length then (.error (.parameterCount types.length params.length), s)
  else
    match Reply.encodeAll 0 (params.zip types) with
    | .error e => (.error e, s)
    | .ok bound =>
      (s.reply.answer,
        { s with
          closed := s.reply.failure == some .closeAfterRows
          sent := { s.sent with bound := some bound } })

def prepareAndRun (numbered : Statement) (s : Server) : Except Error Output × Server :=
  let s := { s with sent := { s.sent with prepared := some numbered.sql } }
  match s.reply.failure with
  | some .close => (.error .closedConnection, { s with closed := true })
  | some .prepare => (.error .rejected, s)
  | _ => bindAndRun numbered.params s

def execute (statement : Statement) (s : Server) : Except Error Output × Server :=
  match statement.expand with
  | .error e => (.error e, s)
  | .ok numbered =>
    if numbered.sql.contains '\x00' then (.error .unsendable, s)
    else if s.closed then (.error .closedConnection, s)
    else prepareAndRun numbered s

def command (text : String) (s : Server) : Except Error Unit × Server :=
  if s.closed then (.error .closedConnection, s)
  else
    let s := { s with sent := { s.sent with command := some text } }
    match s.reply.failure with
    | some .close => (.error .closedConnection, { s with closed := true })
    | some .command => (.error .rejected, s)
    | _ => (.ok (), s)

def connection : Connection Server where
  dialect := .postgres
  execute := execute
  begin := command "BEGIN"
  commit := command "COMMIT"
  rollback := command "ROLLBACK"

end Server

end BoundSql
