import LedgerNet.Transport.Call
import LedgerNet.Wire.Consensus

/-!
Services that follow a script: each call takes the next reply that was written down for it, each stream the
next plan.
-/
namespace LedgerNet.Rehearsal

open Text

inductive ReplyBody where
  | silence
  | fail (status : Status)
  | echo
  | text (s : String)

structure Reply where
  body : ReplyBody
  after : Span := 0

def Reply.ofStatus (s : LedgerStatus) : Reply := { body := .text (Wire.NodeAnswer.encode ⟨s⟩) }

/-- A service that answers single calls. When the replies are spent, the last resort answers. -/
structure Answering where
  replies : List Reply
  lastResort : Reply
  certificate : Option Bytes

namespace Answering

def answer (s : Answering) (payload : String) (now : Instant) : Ticket × Answering :=
  let (reply, s) : Reply × Answering := match s.replies with
    | reply :: rest => (reply, { s with replies := rest })
    | [] => (s.lastResort, s)
  let arrives := Instant.wake (now + reply.after)
  let ticket : Ticket := match reply.body with
    | .silence => ⟨none, .error (.unavailable "")⟩
    | .fail status => ⟨some arrives, .error status⟩
    | .echo => ⟨some arrives, .ok payload⟩
    | .text text => ⟨some arrives, .ok text⟩
  (ticket, s)

end Answering

/-- An item in a scripted mirror's log. Raw texts have no time and fit every query. -/
inductive LogItem where
  | item (item : Wire.MirrorItem)
  | raw (text : String)

namespace LogItem

def text : LogItem → String
  | .item i => i.toJson.compact
  | .raw text => text

def fits (query : Wire.MirrorQuery) : LogItem → Bool
  | .raw _ => true
  | .item i => query.start.all (·.atMost i.timestamp) && query.stop.all fun stop => !stop.atMost i.timestamp

end LogItem

/-- How one stream goes: it may never open, be refused, or be cut after some items, and then fail, end or stay
open. -/
structure StreamPlan where
  neverOpens : Bool := false
  refuse : Option Status := none
  cutAfter : Option Nat := none
  error : Option Status := none
  staysOpen : Bool := false
  interval : Span := 0

structure Streaming where
  log : List LogItem
  plans : List StreamPlan
  ignoresLimit : Bool
  certificate : Option Bytes

namespace Streaming

def elements (s : Streaming) (query : Wire.MirrorQuery) (plan : StreamPlan) : List (Except Status String) :=
  let fitting := s.log.filter (LogItem.fits query)
  let limited := if query.limit = 0 ∨ s.ignoresLimit then fitting else fitting.take query.limit.toNat
  match plan.cutAfter with
  | none => limited.map fun i => .ok i.text
  | some n => ((limited.take n).map fun i => .ok i.text) ++ (plan.error.map Except.error).toList

def openStream (s : Streaming) (query : Wire.MirrorQuery) : StreamTicket × Streaming :=
  let (plan, s) : StreamPlan × Streaming := match s.plans with
    | plan :: rest => (plan, { s with plans := rest })
    | [] => ({}, s)
  let ticket : StreamTicket :=
    if plan.neverOpens then none
    else match plan.refuse with
      | some status => some (.error status)
      | none => some (.ok ⟨s.elements query plan, plan.interval, plan.staysOpen, false⟩)
  (ticket, s)

end Streaming

end LedgerNet.Rehearsal
