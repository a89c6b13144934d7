import Holdem.Session.Calls

/-!
# Polling

The table is polled at a fixed interval, independently of the player's actions. A poll that comes
back after the session has turned to another table is dropped.

Times are milliseconds. A poll that takes longer than the interval is followed by the next one at
once, and the interval counts from there; being late by a few milliseconds does not shift the beat.
-/

namespace Holdem

inductive PollOutcome where
  | merged (report : MergeReport)
  | unparsed
  | fetchFailed (reason : String)
  | stale

/-- Fetches the table's state and merges it. -/
def Settings.poll (settings : Settings) : Procedure Session PollOutcome :=
  .update id fun session =>
    let tableId := session.table.tableId
    .ask (.coordinator none (.state tableId)) fun
      | .error fault => .finish (.fetchFailed fault.message)
      | .ok reply =>
        match Poll.ofText? reply.state with
        | none => .finish .unparsed
        | some poll =>
          .update
            (fun session =>
              if session.table.tableId = tableId then (session.merge settings.mode poll).1
              else session)
            fun session =>
              if session.table.tableId = tableId then
                .finish (.merged (session.merge settings.mode poll).2)
              else .finish .stale

namespace Beat

/-- How late a poll may start without shifting the beat. -/
def tolerance : Nat := 5

def standardInterval : Nat := 4000

/-- When the poll after the one due at `due` is due, given that it started at `now`. -/
def next (interval due now : Nat) : Nat :=
  if due + tolerance < now then now + interval else due + interval

/-- Polls from `due` on until a poll would start at `stop` or later, and gives the starts. A poll
takes its start and gives its end. Each poll moves the next due time on, so `stop` bounds their
number. -/
def run {m : Type → Type} [Monad m] (interval stop : Nat) (poll : Nat → m Nat) :
    Nat → (due now : Nat) → m (List Nat)
  | 0, _, _ => pure []
  | fuel + 1, due, now =>
    let start := max due now
    if stop ≤ start then pure []
    else do
      let finish ← poll start
      let later ← run interval stop poll fuel (next interval due start) finish
      return start :: later

end Beat

end Holdem
