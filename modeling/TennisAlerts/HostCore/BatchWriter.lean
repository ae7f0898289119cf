import TennisAlerts.HostCore.Digest
import TennisAlerts.Text.Statements

/-!
# The batching writer of the import

`_BatchWriter` in `migration.py` keeps inserts of one text back and sends them together.  The
`psycopg2` driver gets them as one text with semicolons in it, every other driver as one
statement with a list of parameters, which it executes once for each of them.

A connection stands for the driver and the server behind it: how the driver writes the values
of a statement into its text, how the server reads a text, and the rows it answers with, which
depend on all statements it has read.
-/

namespace TennisAlerts.HostCore

open TennisAlerts.Text

/-- The parameters of a statement, a dictionary. -/
abbrev Values (Value : Type) :=
  List (String × Value)

structure Connection (Value Rows : Type) where
  driver : String
  mogrify : String → Values Value → List Char
  scanner : Scanner
  answer : List (List Char) → Rows

/-- A call of `_BatchWriter.execute`. -/
structure WriterCall (Value : Type) where
  sql : String
  parameters : Option (Values Value)

/-- `_BatchWriter`, which has a statement whenever it has parameters. -/
structure BatchWriter (Value : Type) where
  statement : Option String
  parameters : List (Values Value)
  prepared : parameters ≠ [] → statement.isSome = true

namespace BatchWriter

variable {Value Rows : Type}

/-- `_BatchWriter.__init__`. -/
def new : BatchWriter Value where
  statement := none
  parameters := []
  prepared := by simp

end BatchWriter

namespace Connection

variable {Value Rows : Type} (connection : Connection Value Rows)

/-- The statements that the server reads for one execution. -/
def reads (sql : String) (values : Values Value) : List (List Char) :=
  connection.scanner.statements (connection.mogrify sql values)

/-- `connection.execute` of one statement: the statements the server has read by then, and the
rows. -/
def execute (log : List (List Char)) (sql : String) (parameters : Option (Values Value)) :
    List (List Char) × Rows :=
  let log := log ++ connection.reads sql (parameters.getD [])
  (log, connection.answer log)

/-- What `_BatchWriter.flush` sends for the parameters of one statement. -/
def send (sql : String) (parameters : List (Values Value)) : List (List Char) :=
  if connection.driver = "psycopg2" then
    connection.scanner.statements (Scanner.joined (parameters.map (connection.mogrify sql)))
  else parameters.flatMap (connection.reads sql)

end Connection

namespace WriterCall

variable {Value : Type}

/-- The test of `_BatchWriter.execute`. -/
def deferred (call : WriterCall Value) : Bool :=
  "INSERT INTO".toList.isPrefixOf (call.sql.toList.dropWhile pythonSpace) &&
    !decide ("RETURNING".toList <:+: call.sql.toList) && call.parameters.isSome

end WriterCall

/-- A writer with the statements that its server has read. -/
structure WriterSession (Value : Type) where
  writer : BatchWriter Value
  log : List (List Char)

namespace WriterSession

variable {Value Rows : Type}

/-- `_BatchWriter.flush`. -/
def flush (connection : Connection Value Rows) (session : WriterSession Value) :
    WriterSession Value :=
  if waiting : session.writer.parameters ≠ [] then
    let sql := session.writer.statement.get (session.writer.prepared waiting)
    { writer := BatchWriter.new
      log := session.log ++ connection.send sql session.writer.parameters }
  else session

/-- The insert joins the ones that wait. -/
def append (session : WriterSession Value) (sql : String) (values : Values Value) :
    WriterSession Value :=
  { session with
    writer :=
      { statement := some sql
        parameters := session.writer.parameters ++ [values]
        prepared := fun _ => rfl } }

/-- `_BatchWriter.execute`, with the rows of a statement that is not deferred. -/
def execute (connection : Connection Value Rows) (session : WriterSession Value)
    (call : WriterCall Value) : WriterSession Value × Option Rows :=
  match call.deferred, call.parameters with
  | true, some values =>
      let session :=
        if session.writer.statement.any (· ≠ call.sql) then session.flush connection else session
      let session := session.append call.sql values
      (if 1000 ≤ session.writer.parameters.length then session.flush connection else session, none)
  | _, parameters =>
      let session := session.flush connection
      let (log, rows) := connection.execute session.log call.sql parameters
      ({ session with log := log }, some rows)

/-- The calls one after the other, with what each returned. -/
def run (connection : Connection Value Rows) (session : WriterSession Value) :
    List (WriterCall Value) → WriterSession Value × List (Option Rows)
  | [] => (session, [])
  | call :: calls =>
      let (session, rows) := session.execute connection call
      let (session, results) := run connection session calls
      (session, rows :: results)

/-- A writer before its first call. -/
def begun (log : List (List Char)) : WriterSession Value :=
  { writer := BatchWriter.new, log := log }

end WriterSession

namespace Connection

variable {Value Rows : Type} (connection : Connection Value Rows)

/-- The calls on a fresh writer and `flush` after them. -/
def batched (calls : List (WriterCall Value)) : List (List Char) × List (Option Rows) :=
  let (session, results) := (WriterSession.begun []).run connection calls
  ((session.flush connection).log, results)

/-- The calls executed directly, from what the server has read. -/
def directFrom (log : List (List Char)) : List (WriterCall Value) → List (List Char) × List Rows
  | [] => (log, [])
  | call :: calls =>
      let (log, rows) := connection.execute log call.sql call.parameters
      let (log, results) := directFrom log calls
      (log, rows :: results)

def direct (calls : List (WriterCall Value)) : List (List Char) × List Rows :=
  connection.directFrom [] calls

end Connection

end TennisAlerts.HostCore
