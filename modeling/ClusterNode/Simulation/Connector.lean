import ClusterNode.Peer
import ClusterNode.Time

/-!
# A scripted connector

A connector whose answers follow a script, by host: it takes its time, may hang until it is
released, and then refuses or succeeds. Delays are fixed when a call begins; whether it hangs is
decided after the delay, and whether it is refused at the moment it answers. A script is written in
milliseconds.
-/

namespace ClusterNode
namespace Simulation

structure ConnectScript where
  refuse : List String
  hang : List String
  delays : List (String × Nat)

inductive CallStage
  | delayed (wake : Time)
  | hanging
  | released
  deriving DecidableEq

/-- A call under way, for a caller that is known by `tag`. -/
structure Call (τ : Type) where
  tag : τ
  address : Address
  channel : Channel
  stage : CallStage

structure ScriptedConnector (τ : Type) where
  script : ConnectScript
  calls : List (Call τ)
  count : Nat

namespace ConnectScript

def empty : ConnectScript := { refuse := [], hang := [], delays := [] }

def delay (s : ConnectScript) (host : String) : Time :=
  match s.delays.find? fun (h, _) => h == host with
  | some (_, ms) => Time.millis ms
  | none => 0

def answer (s : ConnectScript) (address : Address) (channel : Channel) :
    Except ClusterError Channel :=
  if s.refuse.contains address.host then .error (.connect address.toText "connection refused")
  else .ok channel

end ConnectScript

namespace ScriptedConnector

variable {τ : Type}

def create : ScriptedConnector τ := { script := .empty, calls := [], count := 0 }

def ask (c : ScriptedConnector τ) (now : Time) (tag : τ) (address : Address) :
    ScriptedConnector τ :=
  let call : Call τ :=
    { tag, address, channel := c.count, stage := .delayed (now + c.script.delay address.host) }
  { c with calls := c.calls ++ [call], count := c.count + 1 }

/-- Where a call stands now: it goes on waiting, or it is answered. -/
def look (script : ConnectScript) (now : Time) (call : Call τ) :
    Call τ ⊕ (τ × Except ClusterError Channel) :=
  match call.stage with
  | .hanging => .inl call
  | .released => .inr (call.tag, script.answer call.address call.channel)
  | .delayed wake =>
      if now < wake then .inl call
      else if script.hang.contains call.address.host then .inl { call with stage := .hanging }
      else .inr (call.tag, script.answer call.address call.channel)

def waiting? (x : Call τ ⊕ (τ × Except ClusterError Channel)) : Option (Call τ) :=
  match x with
  | .inl call => some call
  | .inr _ => none

def answered? (x : Call τ ⊕ (τ × Except ClusterError Channel)) :
    Option (τ × Except ClusterError Channel) :=
  match x with
  | .inl _ => none
  | .inr answer => some answer

def poll (c : ScriptedConnector τ) (now : Time) :
    ScriptedConnector τ × List (τ × Except ClusterError Channel) :=
  let looks := c.calls.map (look c.script now)
  ({ c with calls := looks.filterMap waiting? }, looks.filterMap answered?)

def release (c : ScriptedConnector τ) : ScriptedConnector τ :=
  { c with calls := c.calls.map fun call =>
      if call.stage = .hanging then { call with stage := .released } else call }

def forget (c : ScriptedConnector τ) (gone : τ -> Bool) : ScriptedConnector τ :=
  { c with calls := c.calls.filter fun call => !gone call.tag }

def wakes (c : ScriptedConnector τ) : List Time :=
  c.calls.filterMap fun call =>
    match call.stage with
    | .delayed wake => some wake
    | _ => none

end ScriptedConnector
end Simulation
end ClusterNode
