import BoundSql.Driver

/-!
# Scripted databases

A scripted database answers statements from a list of responses, whatever the
statements say.  It is used to try out what a session does with an answer.  When
the list is empty, a write affects no rows and a query returns none.
-/

namespace BoundSql

/-- An answer to a statement of either kind. -/
structure Response where
  /-- The key that the connection reports as the most recent one from now on. -/
  recentId : Option Int64 := none
  /-- The statement is rejected. -/
  failure : Option DriverFailure := none
  /-- What a write has done. -/
  outcome : Outcome := {}
  /-- What a query returns. -/
  rows : List Row := []
deriving Repr, Inhabited

/-- The state of a scripted database. -/
structure Script where
  /-- The responses still to be given. -/
  queue : List Response := []
  /-- The most recent key of the connection. -/
  lastInsertId : Option Int64 := none
deriving Repr, Inhabited

namespace Script

/-- Takes the next response. -/
def next (s : Script) : Response × Script :=
  let response := s.queue.head?.getD {}
  (response,
    { queue := s.queue.tail
      lastInsertId := response.recentId.orElse fun _ => s.lastInsertId })

/-- Answers from the next response. -/
def answer {α : Type} (part : Response → α) (s : Script) : Except DriverFailure α × Script :=
  let (response, rest) := s.next
  match response.failure with
  | some failure => (.error failure, rest)
  | none => (.ok (part response), rest)

/-- The driver of a scripted database. -/
def driver (name : String) : Driver Script where
  name := name
  execute _ := answer (·.outcome)
  fetchAll _ := answer (·.rows)
  lastInsertId := (·.lastInsertId)

end Script

end BoundSql
