import Holdem.Configuration
import Holdem.Session.Basic
import Holdem.Terminal.Options

/-!
# Reports of a failed start

A client that cannot start says what it was doing and why that failed. A single cause is indented;
several causes are numbered, from the nearest to the most distant. Every line of a cause that has
several lines is indented alike.
-/

namespace Holdem.Terminal

/-- A failure with the causes behind it, the nearest first. -/
structure Report where
  headline : String
  causes : List String := []
  deriving DecidableEq

namespace Report

def linesOf (text : String) : List String :=
  (text.toList.splitOn '\n').map String.ofList

/-- A text with `first` in front of its first line and `other` in front of the others. -/
def indented (first other text : String) : String :=
  match linesOf text with
  | [] => first
  | line :: rest => first ++ line ++ String.join (rest.map fun line => "\n" ++ other ++ line)

def causesText : List String → String
  | [] => ""
  | [cause] => "\n\nCaused by:\n" ++ indented "    " "    " cause
  | causes =>
    "\n\nCaused by:" ++ String.join (causes.zipIdx.map fun (cause, index) =>
      "\n" ++ indented (Text.padLeft 5 (toString index) ++ ": ") "       " cause)

def text (report : Report) : String :=
  "Error: " ++ report.headline ++ causesText report.causes ++ "\n"

def ofOptions (fault : OptionFault) : Report where
  headline := fault.message

def ofLoading (fault : ConfigurationFault) : Report where
  headline := "Failed to load configuration"
  causes := [fault.message]

/-- The report of a configuration that cannot be played with. -/
def ofValidation (fault : ConfigurationFault) : Report where
  headline := "Invalid configuration"
  causes := [fault.message]

def ofSecret (fault : WalletFault) : Report where
  headline := "PLAYER_SECRET is not a usable Stellar secret seed"
  causes := [fault.message]

/-- The report of a table that could not be opened. -/
def ofCreation (fault : ActionFault) : Report where
  headline := "Failed to create table"
  causes := fault.message :: fault.causes

end Report

end Holdem.Terminal
