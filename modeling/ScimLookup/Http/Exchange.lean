import ScimLookup.Http.Header
import ScimLookup.Http.Status
import ScimLookup.Url.Basic

/-!
# Exchanges

An exchange is what a client does until it has a result: it sends a request and goes on with what
comes back, looks at the clock, recalls or replaces the access token that it remembers, or is done.
It is a tree with a branch for each thing that may come back, so that one description serves every
way of running it. An exchange breaks off where it asks for a moment beyond the range of the clock.

A world runs an exchange: it says which addresses are reached, holds the replies that the server has
ready, and keeps the requests that were received.
-/

set_option autoImplicit false

namespace ScimLookup

/-! ## Requests and replies -/

/-- The method of a request. -/
inductive Method where
  | get
  | post
deriving DecidableEq, Repr

/-- The name of a method. -/
def Method.text : Method → String
  | .get => "GET"
  | .post => "POST"

/-- A request. -/
structure Request where
  method : Method
  url : Url
  headers : Headers
  body : String
deriving DecidableEq, Repr

/-- An answer: its status, and its body unless the connection ended inside it. -/
structure Answer where
  status : Status
  body : Option Bytes
deriving DecidableEq, Repr

/-- What comes back for a request: an answer, the end of the connection, or nothing in time. Time is
told by whoever set the connection up, so nothing comes late over one that waits without end. -/
inductive Reply where
  | answer (a : Answer)
  | lost
  | late
deriving DecidableEq, Repr

/-! ## Tokens -/

/-- An access token and the moment from which it is no longer used. -/
structure Token where
  text : String
  expiry : Option Nat
deriving DecidableEq, Repr

/-- A second in the units of the clock. -/
def second : Nat := 1000000000

/-- The first moment beyond the range of the clock. -/
def endOfTime : Nat := 0x8000000000000000 * second

namespace Token

/-- The token is no longer used. -/
def isExpired (t : Token) (now : Nat) : Bool :=
  match t.expiry with
  | some e => decide (e ≤ now)
  | none => false

end Token

/-! ## Exchanges -/

/-- What a client does until it has a result. -/
inductive Exchange (α : Type) where
  | done (a : α)
  | brokenOff
  | send (r : Request) (next : Reply → Exchange α)
  | now (next : Nat → Exchange α)
  | memory (next : Option Token → Exchange α)
  | remember (t : Option Token) (next : Exchange α)

namespace Exchange

/-- Go on with the result of an exchange. -/
protected def bind {α β : Type} : Exchange α → (α → Exchange β) → Exchange β
  | .done a, f => f a
  | .brokenOff, _ => .brokenOff
  | .send r next, f => .send r fun reply => (next reply).bind f
  | .now next, f => .now fun t => (next t).bind f
  | .memory next, f => .memory fun t => (next t).bind f
  | .remember t next, f => .remember t (next.bind f)

instance : Monad Exchange where
  pure := .done
  bind := Exchange.bind

/-- Send a request. -/
def request (r : Request) : Exchange Reply :=
  .send r .done

/-- Look at the clock. -/
def clock : Exchange Nat :=
  .now .done

/-- Recall the token. -/
def token : Exchange (Option Token) :=
  .memory .done

/-- Replace the token. -/
def setToken (t : Option Token) : Exchange Unit :=
  .remember t (.done ())

end Exchange

/-! ## Worlds -/

/-- What an exchange runs in. -/
structure World where
  /-- The addresses that are reached. -/
  reaches : Url → Bool
  /-- What the server has ready for the next requests that it receives. -/
  replies : List Reply
  /-- What the clock shows each time it is looked at. -/
  clock : Nat → Nat
  /-- How often the clock was looked at. -/
  looks : Nat
  /-- The token that is remembered. -/
  cache : Option Token
  /-- The requests received so far. -/
  received : List Request

namespace World

/-- A world in which nothing has happened. -/
def fresh (reaches : Url → Bool) (clock : Nat → Nat) : World :=
  ⟨reaches, [], clock, 0, none, []⟩

/-- The next reply, and the world after it. A server with none ready ends the connection. -/
def deliver (w : World) (r : Request) : Reply × World :=
  if w.reaches r.url then
    match w.replies with
    | [] => (.lost, { w with received := w.received ++ [r] })
    | reply :: rest => (reply, { w with replies := rest, received := w.received ++ [r] })
  else (.lost, w)

end World

/-- The end of a run: a result, or none where the exchange breaks off. -/
abbrev Outcome (α : Type) := Option α

/-- Run an exchange in a world. -/
def Exchange.run {α : Type} : Exchange α → World → Outcome α × World
  | .done a, w => (some a, w)
  | .brokenOff, w => (none, w)
  | .send r next, w => (next (w.deliver r).1).run (w.deliver r).2
  | .now next, w => (next (w.clock w.looks)).run { w with looks := w.looks + 1 }
  | .memory next, w => (next w.cache).run w
  | .remember t next, w => next.run { w with cache := t }

end ScimLookup
