import TennisAlerts.HostCore.BatchWriter

/-!
# Batched writes

The calls of a batching writer fall into batches: inserts of one text that follow each other,
at most a thousand of them, or a single other statement.  A server reads the batches in the
order of the calls.  With `psycopg2` it reads one text for each batch, so the writer is
transparent exactly when every text of a batch but the last ends where a semicolon counts.
-/

namespace TennisAlerts.HostCore

open TennisAlerts.Text

variable {Value Rows : Type}

namespace WriterCall

/-- The call joins the inserts that wait. -/
def joins (batch : List (WriterCall Value)) (call : WriterCall Value) : Bool :=
  call.deferred && decide (batch.length < 1000) &&
    batch.all fun earlier => earlier.deferred && earlier.sql == call.sql

/-- The batches of calls behind one that may still grow. -/
def batchesFrom (batch : List (WriterCall Value)) :
    List (WriterCall Value) → List (List (WriterCall Value))
  | [] => [batch]
  | call :: calls =>
      if joins batch call then batchesFrom (batch ++ [call]) calls
      else batch :: batchesFrom [call] calls

def batches : List (WriterCall Value) → List (List (WriterCall Value))
  | [] => []
  | call :: calls => batchesFrom [call] calls

theorem flatten_batchesFrom (batch calls : List (WriterCall Value)) :
    (batchesFrom batch calls).flatten = batch ++ calls := by
  induction calls generalizing batch with
  | nil => simp [batchesFrom]
  | cons call calls ih =>
      rw [batchesFrom]
      split
      · rw [ih, List.append_assoc, List.singleton_append]
      · rw [List.flatten_cons, ih, List.singleton_append]

/-- Every call is in one batch, and they keep their order. -/
theorem flatten_batches (calls : List (WriterCall Value)) : (batches calls).flatten = calls := by
  cases calls with
  | nil => rfl
  | cons call calls => exact flatten_batchesFrom [call] calls

theorem parameters_of_deferred {call : WriterCall Value} (deferred : call.deferred = true) :
    call.parameters = some (call.parameters.getD []) := by
  cases parameters : call.parameters with
  | none => simp [WriterCall.deferred, parameters] at deferred
  | some values => rfl

end WriterCall

namespace Connection

variable (connection : Connection Value Rows)

/-- The text of a call that is executed directly. -/
def text (call : WriterCall Value) : List Char :=
  connection.mogrify call.sql (call.parameters.getD [])

/-- The statements that the server reads for a batch. -/
def sent (batch : List (WriterCall Value)) : List (List Char) :=
  if connection.driver = "psycopg2" then
    connection.scanner.statements (Scanner.joined (batch.map connection.text))
  else batch.flatMap fun call => connection.scanner.statements (connection.text call)

/-- Behind every text of a batch but the last a semicolon ends a statement. -/
def Joinable (batch : List (WriterCall Value)) : Prop :=
  ∀ call ∈ batch.dropLast, connection.scanner.Closed (connection.text call)

/-- The writer is transparent: the server reads the same statements in the same order, and a
statement that is not deferred returns the rows it returns when all calls are direct. -/
structure Transparent (calls : List (WriterCall Value)) : Prop where
  statements : (connection.batched calls).1 = (connection.direct calls).1
  rows : (connection.batched calls).2 =
    List.zipWith (fun call rows => if call.deferred then none else some rows) calls
      (connection.direct calls).2

variable {connection}

theorem sent_single (call : WriterCall Value) :
    connection.sent [call] = connection.scanner.statements (connection.text call) := by
  simp [sent, Scanner.joined]

/-- The inserts of one text are sent as their batch. -/
theorem send_eq_sent {batch : List (WriterCall Value)} {sql : String}
    (uniform : ∀ call ∈ batch, call.sql = sql) :
    connection.send sql (batch.map fun call => call.parameters.getD []) =
      connection.sent batch := by
  have texts : (batch.map fun call => call.parameters.getD []).map (connection.mogrify sql) =
      batch.map connection.text := by
    rw [List.map_map]
    apply List.map_congr_left
    intro call member
    simp [text, uniform call member]
  rw [send, sent, texts]
  congr 1
  rw [List.flatMap_map]
  apply List.flatMap_congr
  intro call member
  simp [reads, text, uniform call member]

/-- A batch that can be joined is read as its calls are. -/
theorem sent_of_joinable {batch : List (WriterCall Value)} (nonempty : batch ≠ [])
    (joinable : connection.driver = "psycopg2" → connection.Joinable batch) :
    connection.sent batch =
      batch.flatMap fun call => connection.scanner.statements (connection.text call) := by
  rw [sent]
  split
  · next driver =>
      have closed : ∀ text ∈ (batch.map connection.text).dropLast,
          connection.scanner.Closed text := by
        rw [← List.map_dropLast]
        intro text member
        obtain ⟨call, inFront, rfl⟩ := List.mem_map.mp member
        exact joinable driver call inFront
      rw [Scanner.statements_joined (by simpa using nonempty) closed, List.flatMap_map]
  · rfl

/-- A batch that cannot be joined is read differently. -/
theorem parted_sent {batch : List (WriterCall Value)} (driver : connection.driver = "psycopg2")
    (opened : ¬ connection.Joinable batch) :
    Parted (connection.sent batch)
      (batch.flatMap fun call => connection.scanner.statements (connection.text call)) := by
  have swallowed : ¬ ∀ text ∈ (batch.map connection.text).dropLast,
      connection.scanner.Closed text := by
    intro closed
    apply opened
    intro call member
    apply closed
    rw [← List.map_dropLast]
    exact List.mem_map_of_mem member
  have parted := Scanner.parted_joined swallowed
  rw [List.flatMap_map] at parted
  rw [sent, if_pos driver]
  exact parted

theorem directFrom_log (log : List (List Char)) (calls : List (WriterCall Value)) :
    (connection.directFrom log calls).1 =
      log ++ calls.flatMap fun call => connection.scanner.statements (connection.text call) := by
  induction calls generalizing log with
  | nil => simp [directFrom]
  | cons call calls ih =>
      rw [directFrom, List.flatMap_cons]
      dsimp only
      rw [ih, ← List.append_assoc]
      rfl

end Connection

/-! ## One call -/

namespace WriterSession

variable {connection : Connection Value Rows} {session : WriterSession Value}
  {before : List (List Char)} {batch : List (WriterCall Value)} {call : WriterCall Value}

/-- The server has read `before`, and the batch behind it is read or waits. -/
inductive Holds (connection : Connection Value Rows) (session : WriterSession Value)
    (before : List (List Char)) (batch : List (WriterCall Value)) : Prop
  | settled (empty : session.writer.parameters = [])
      (log : session.log = before ++ connection.sent batch)
      (full : ∀ call, WriterCall.joins batch call = false)
  | waiting (sql : String) (nonempty : batch ≠ [])
      (uniform : ∀ call ∈ batch, call.deferred = true ∧ call.sql = sql)
      (room : batch.length < 1000)
      (statement : session.writer.statement = some sql)
      (parameters : session.writer.parameters = batch.map fun call => call.parameters.getD [])
      (log : session.log = before)

theorem flush_of_empty (empty : session.writer.parameters = []) :
    session.flush connection = session := by
  simp [flush, empty]

theorem flush_of_waiting {sql : String} (waiting : session.writer.parameters ≠ [])
    (statement : session.writer.statement = some sql) :
    session.flush connection =
      { writer := BatchWriter.new
        log := session.log ++ connection.send sql session.writer.parameters } := by
  simp [flush, waiting, statement]

/-- A flush sends the batch that waits. -/
theorem Holds.flush (holds : Holds connection session before batch) :
    (session.flush connection).log = before ++ connection.sent batch ∧
      (session.flush connection).writer.parameters = [] := by
  cases holds with
  | settled empty log full =>
      rw [flush_of_empty empty]
      exact ⟨log, empty⟩
  | waiting sql nonempty uniform room statement parameters log =>
      have some_waits : session.writer.parameters ≠ [] := by
        rw [parameters]
        simpa using nonempty
      have sent := connection.send_eq_sent fun call member => (uniform call member).2
      rw [flush_of_waiting some_waits statement, parameters, sent, log]
      exact ⟨rfl, rfl⟩

theorem execute_of_deferred (deferred : call.deferred = true) :
    session.execute connection call =
      (let session :=
        if session.writer.statement.any (· ≠ call.sql) then session.flush connection else session
      let session := session.append call.sql (call.parameters.getD [])
      (if 1000 ≤ session.writer.parameters.length then session.flush connection else session,
        none)) := by
  rw [execute, deferred, WriterCall.parameters_of_deferred deferred]
  rfl

theorem execute_of_not_deferred (direct : call.deferred = false) :
    session.execute connection call =
      ({ session.flush connection with
          log := (session.flush connection).log ++
            connection.scanner.statements (connection.text call) },
        some (connection.answer ((session.flush connection).log ++
          connection.scanner.statements (connection.text call)))) := by
  rw [execute, direct]
  rfl

/-- A call on a writer without parameters begins a batch. -/
theorem holds_first (empty : session.writer.parameters = []) :
    Holds connection (session.execute connection call).1 session.log [call] := by
  cases deferred : call.deferred with
  | true =>
      have same : session.flush connection = session := flush_of_empty empty
      rw [execute_of_deferred deferred, same, ite_self]
      simp only [append, empty, List.nil_append, List.length_singleton, Nat.reduceLeDiff, if_false]
      exact .waiting call.sql (by simp) (by simpa using deferred) (by simp) rfl (by simp) rfl
  | false =>
      rw [execute_of_not_deferred deferred, flush_of_empty empty]
      refine .settled empty ?_ ?_
      · rw [connection.sent_single]
      · simp [WriterCall.joins, deferred]

/-- An insert that does not join the batch, or another statement, is preceded by a flush. -/
theorem Holds.execute_flush (holds : Holds connection session before batch)
    (apart : WriterCall.joins batch call = false) :
    session.execute connection call = (session.flush connection).execute connection call := by
  have empty := holds.flush.2
  have again : (session.flush connection).flush connection = session.flush connection :=
    flush_of_empty empty
  cases deferred : call.deferred with
  | false => rw [execute_of_not_deferred deferred, execute_of_not_deferred deferred, again]
  | true =>
      rw [execute_of_deferred deferred, execute_of_deferred deferred, again, ite_self]
      cases holds with
      | settled empty log full => rw [flush_of_empty empty, ite_self]
      | waiting sql nonempty uniform room statement parameters log =>
          have different : sql ≠ call.sql := by
            rintro rfl
            have joined : WriterCall.joins batch call = true := by
              simpa [WriterCall.joins, deferred, room] using uniform
            rw [joined] at apart
            contradiction
          simp [statement, different]

/-- An insert that joins the batch waits with it, or fills it up. -/
theorem Holds.join (holds : Holds connection session before batch)
    (joined : WriterCall.joins batch call = true) :
    Holds connection (session.execute connection call).1 before (batch ++ [call]) := by
  cases holds with
  | settled empty log full =>
      rw [full call] at joined
      contradiction
  | waiting sql nonempty uniform room statement parameters log =>
      have fits : call.deferred = true ∧ ∀ earlier ∈ batch,
          earlier.deferred = true ∧ earlier.sql = call.sql := by
        simpa [WriterCall.joins, room] using joined
      obtain ⟨deferred, same⟩ := fits
      have sql_eq : sql = call.sql := by
        obtain ⟨earlier, member⟩ := List.exists_mem_of_ne_nil batch nonempty
        rw [← (uniform earlier member).2, (same earlier member).2]
      subst sql_eq
      have grown : ∀ other ∈ batch ++ [call], other.deferred = true ∧ other.sql = call.sql := by
        intro other member
        rw [List.mem_append, List.mem_singleton] at member
        cases member with
        | inl member => exact same other member
        | inr here =>
            subst here
            exact ⟨deferred, rfl⟩
      have appended : (session.append call.sql (call.parameters.getD [])).writer.parameters =
          (batch ++ [call]).map fun call => call.parameters.getD [] := by
        simp [append, parameters]
      rw [execute_of_deferred deferred]
      simp only [statement, Option.any_some, ne_eq, not_true_eq_false, decide_false,
        Bool.false_eq_true, if_false]
      split
      · next filled =>
          have length : 1000 ≤ (batch ++ [call]).length := by
            rw [appended, List.length_map] at filled
            exact filled
          have some_waits :
              (session.append call.sql (call.parameters.getD [])).writer.parameters ≠ [] := by
            simp [append]
          have sent := connection.send_eq_sent fun other member => (grown other member).2
          rw [flush_of_waiting some_waits rfl, appended, sent]
          refine .settled rfl ?_ ?_
          · simp [append, log]
          · intro other
            have full : decide ((batch ++ [call]).length < 1000) = false :=
              decide_eq_false (by omega)
            rw [WriterCall.joins, full, Bool.and_false, Bool.false_and]
      · next unfilled =>
          have length : (batch ++ [call]).length < 1000 := by
            rw [appended, List.length_map] at unfilled
            omega
          exact .waiting call.sql (by simp) grown length rfl appended log

/-! ## All calls -/

/-- The server reads the batches in their order. -/
theorem Holds.run (holds : Holds connection session before batch)
    (calls : List (WriterCall Value)) :
    (((session.run connection calls).1).flush connection).log =
      before ++ (WriterCall.batchesFrom batch calls).flatMap connection.sent := by
  induction calls generalizing session before batch with
  | nil => simp [WriterSession.run, WriterCall.batchesFrom, holds.flush.1]
  | cons call calls ih =>
      rw [WriterSession.run, WriterCall.batchesFrom]
      dsimp only
      cases joined : WriterCall.joins batch call with
      | true => exact ih (holds.join joined)
      | false =>
          have next : Holds connection (session.execute connection call).1
              (before ++ connection.sent batch) [call] := by
            rw [holds.execute_flush joined, ← holds.flush.1]
            exact holds_first holds.flush.2
          simpa using ih next

/-- What a call returns, from all that the server has read when it is made. -/
theorem execute_rows (connection : Connection Value Rows) (session : WriterSession Value)
    (call : WriterCall Value) :
    (session.execute connection call).2 =
      if call.deferred then none
      else some (connection.answer ((session.flush connection).log ++
        connection.scanner.statements (connection.text call))) := by
  cases deferred : call.deferred with
  | true => rw [execute_of_deferred deferred]; rfl
  | false => rw [execute_of_not_deferred deferred]; rfl

/-- Statements that are not deferred return the rows of a direct execution. -/
theorem Holds.rows {calls : List (WriterCall Value)} (nonempty : batch ≠ [])
    (holds : Holds connection session before batch)
    (joinable : connection.driver = "psycopg2" →
      ∀ other ∈ WriterCall.batchesFrom batch calls, connection.Joinable other) :
    (session.run connection calls).2 =
      List.zipWith (fun call rows => if call.deferred then none else some rows) calls
        (connection.directFrom (before ++ batch.flatMap fun call =>
          connection.scanner.statements (connection.text call)) calls).2 := by
  induction calls generalizing session before batch with
  | nil => rfl
  | cons call calls ih =>
      rw [WriterCall.batchesFrom] at joinable
      rw [WriterSession.run, Connection.directFrom, List.zipWith_cons_cons]
      cases joined : WriterCall.joins batch call with
      | true =>
          rw [if_pos joined] at joinable
          have rest := ih (by simp) (holds.join joined) joinable
          have deferred : call.deferred = true := by
            simp only [WriterCall.joins, Bool.and_eq_true] at joined
            exact joined.1.1
          have returned : (session.execute connection call).2 = none := by
            rw [execute_rows, if_pos deferred]
          dsimp only
          rw [rest, returned, if_pos deferred, List.flatMap_append, ← List.append_assoc,
            List.flatMap_singleton]
          rfl
      | false =>
          rw [if_neg (by simp [joined])] at joinable
          have next : Holds connection (session.execute connection call).1
              (before ++ connection.sent batch) [call] := by
            rw [holds.execute_flush joined, ← holds.flush.1]
            exact holds_first holds.flush.2
          have whole := connection.sent_of_joinable nonempty fun driver =>
            joinable driver batch List.mem_cons_self
          have rest := ih (by simp) next fun driver other member =>
            joinable driver other (List.mem_cons_of_mem batch member)
          dsimp only
          rw [rest, execute_rows, holds.flush.1, whole, List.flatMap_singleton]
          rfl

end WriterSession

namespace Connection

variable {connection : Connection Value Rows} {calls : List (WriterCall Value)}

theorem batchesFrom_ne_nil {batch : List (WriterCall Value)} (nonempty : batch ≠ []) :
    ∀ other ∈ WriterCall.batchesFrom batch calls, other ≠ [] := by
  induction calls generalizing batch with
  | nil => simpa [WriterCall.batchesFrom] using nonempty
  | cons call calls ih =>
      rw [WriterCall.batchesFrom]
      split
      · exact ih (by simp)
      · have others := @ih [call] (by simp)
        simpa [nonempty] using others

theorem batched_log (connection : Connection Value Rows) (calls : List (WriterCall Value)) :
    (connection.batched calls).1 = (WriterCall.batches calls).flatMap connection.sent := by
  cases calls with
  | nil => rfl
  | cons call calls =>
      have first : WriterSession.Holds connection
          ((WriterSession.begun []).execute connection call).1 [] [call] :=
        WriterSession.holds_first rfl
      exact first.run calls

theorem direct_log (connection : Connection Value Rows) (calls : List (WriterCall Value)) :
    (connection.direct calls).1 = (WriterCall.batches calls).flatMap fun batch =>
      batch.flatMap fun call => connection.scanner.statements (connection.text call) := by
  rw [direct, directFrom_log, List.nil_append]
  conv_lhs => rw [← WriterCall.flatten_batches calls]
  rw [← List.flatMap_id, List.flatMap_assoc]
  rfl

/-- A batch that cannot be joined parts everything the server reads. -/
theorem parted_batches (driver : connection.driver = "psycopg2")
    {batches : List (List (WriterCall Value))} (nonempty : ∀ batch ∈ batches, batch ≠ [])
    (opened : ¬ ∀ batch ∈ batches, connection.Joinable batch) :
    Parted (batches.flatMap connection.sent) (batches.flatMap fun batch =>
      batch.flatMap fun call => connection.scanner.statements (connection.text call)) := by
  induction batches with
  | nil => simp at opened
  | cons batch batches ih =>
      rw [List.flatMap_cons, List.flatMap_cons]
      by_cases first : connection.Joinable batch
      · have others : ¬ ∀ batch ∈ batches, connection.Joinable batch := by
          simpa [first] using opened
        rw [connection.sent_of_joinable (nonempty batch List.mem_cons_self) fun _ => first]
        exact (ih (fun other member => nonempty other (List.mem_cons_of_mem batch member))
          others).prepend _
      · exact (connection.parted_sent driver first).append _ _

/-- The batching writer is transparent exactly where no text that is joined with `psycopg2`
swallows the semicolon behind it. -/
theorem transparent_iff (connection : Connection Value Rows) (calls : List (WriterCall Value)) :
    connection.Transparent calls ↔
      (connection.driver = "psycopg2" →
        ∀ batch ∈ WriterCall.batches calls, connection.Joinable batch) := by
  cases calls with
  | nil => exact ⟨fun _ _ => by simp [WriterCall.batches], fun _ => ⟨rfl, rfl⟩⟩
  | cons call calls =>
      have nonempty : ∀ batch ∈ WriterCall.batches (call :: calls), batch ≠ [] :=
        batchesFrom_ne_nil (by simp)
      constructor
      · intro transparent driver
        by_contra opened
        have same := transparent.statements
        rw [batched_log, direct_log] at same
        exact (parted_batches driver nonempty opened).ne same
      · intro joinable
        constructor
        · rw [batched_log, direct_log]
          apply List.flatMap_congr
          intro batch member
          exact sent_of_joinable (nonempty batch member) fun driver => joinable driver batch member
        · have first : WriterSession.Holds connection
              ((WriterSession.begun []).execute connection call).1 [] [call] :=
            WriterSession.holds_first rfl
          have rest := first.rows (by simp) joinable
          have returned := WriterSession.execute_rows connection (WriterSession.begun []) call
          rw [batched, direct, directFrom, WriterSession.run, List.zipWith_cons_cons]
          dsimp only
          rw [rest, returned, List.flatMap_singleton]
          rfl

end Connection

/-! ## A comment behind the values -/

/-- The modes of a server that knows string constants and line comments. -/
inductive SqlMode
  | code
  | dash
  | comment
  | quotation
  deriving DecidableEq

/-- String constants end at the next quote, comments at the end of the line. -/
def sqlScanner : Scanner where
  Mode := SqlMode
  start := .code
  step
    | .comment, '\n' => .code
    | .comment, _ => .comment
    | .quotation, '\'' => .code
    | .quotation, _ => .quotation
    | .dash, '-' => .comment
    | _, '-' => .dash
    | _, '\'' => .quotation
    | _, _ => .code
  ends mode := mode = .code || mode = .dash

/-- A connection that binds numbers to the one parameter of an insert. -/
def venueConnection : Connection Nat (List (List Char)) where
  driver := "psycopg2"
  mogrify _ values :=
    "INSERT INTO venues (id) VALUES (".toList ++
      (values.flatMap fun value => Nat.toDigits 10 value.2) ++ ") -- venue".toList
  scanner := sqlScanner
  answer log := log

/-- An insert with a comment at the end of its text. -/
def venueInsert (id : Nat) : WriterCall Nat where
  sql := "INSERT INTO venues (id) VALUES (:id) -- venue"
  parameters := some [("id", id)]

/-- The second insert becomes a part of the comment behind the first. -/
theorem venueInserts_swallowed :
    ¬ venueConnection.Transparent [venueInsert 1, venueInsert 2] := by
  intro transparent
  have same := congrArg List.length transparent.statements
  revert same
  decide +kernel

end TennisAlerts.HostCore
