import ReviewPanel.Llm.Message
import ReviewPanel.Numeric.Duration

/-!
# Clients

A client of a language model answers queries. Its answer may depend on how
many queries it has been sent before, and it takes time.
-/

namespace ReviewPanel.Llm

open Numeric

/-- A reply and how long it takes. -/
structure TimedReply where
  reply : Reply
  delay : Duration
  deriving Repr, DecidableEq

/-- What a client answers to a query, given the number of queries before it. -/
structure Client where
  answer : (asked : Nat) → Query → TimedReply

namespace Client

/-- The reply of a client that has run out of prepared replies. -/
def exhausted : Reply := .failed "no more replies"

/-- A client that hands out prepared replies in order, at once. -/
def ofReplies (replies : List Reply) : Client :=
  ⟨fun asked _ => ⟨(replies[asked]?).getD exhausted, .zero⟩⟩

end Client

end ReviewPanel.Llm
