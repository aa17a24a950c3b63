import Chatflow.Agent
import Chatflow.Argument
import Chatflow.Flow.Loading
import Chatflow.Value.Reader

/-! The catalogue: the flows and agents that are on offer, in the order in which they were first added. A
catalogue can be filled from a seed, of which flows and agents that are not well-formed are left out. -/

namespace Chatflow

/-- Puts an entry in place of the first one of the same id, or at the end. -/
def putById {α : Type} (id : α → String) (a : α) : List α → List α
  | [] => [a]
  | b :: rest => if id b = id a then a :: rest else b :: putById id a rest

structure Catalogue where
  flows : List Flow := []
  agents : List Agent := []
deriving Repr

namespace Catalogue

def addFlow (c : Catalogue) (f : Flow) : Catalogue := { c with flows := putById Flow.id f c.flows }

def addAgent (c : Catalogue) (a : Agent) : Catalogue := { c with agents := putById Agent.id a c.agents }

def dropFlow (c : Catalogue) (id : String) : Catalogue := { c with flows := c.flows.filter fun f => f.id != id }

/-- A catalogue of flows and agents; of several with one id the last counts. -/
def ofLists (flows : List Flow) (agents : List Agent) : Catalogue :=
  agents.foldl addAgent (flows.foldl addFlow {})

def active (c : Catalogue) : List Flow := c.flows.filter Flow.isActive

def flow? (c : Catalogue) (id : String) : Option Flow := c.flows.find? fun f => f.id == id

def agent? (c : Catalogue) (id : String) : Option Agent := c.agents.find? fun a => a.id == id

/-- Adds what could be read; what is not well-formed is left out. A document that cannot be looked into at
all ends the seeding. -/
def seedWith {α : Type} (read : Value → Except Fault α) (add : Catalogue → α → Catalogue) :
    Catalogue → List Value → Option Fault × Catalogue
  | c, [] => (none, c)
  | c, v :: rest =>
    match read v with
    | .ok a => seedWith read add (add c a) rest
    | .error (.invalidDocument _) | .error (.flowInvalid ..) => seedWith read add c rest
    | .error f => (some f, c)

/-- Adds the flows and agents of a seed document, as far as it can be read. -/
def seedValue (c : Catalogue) (v : Value) : Option Fault × Catalogue :=
  match Argument.fields v with
  | .error f => (some f, c)
  | .ok fields =>
    match Argument.membersOf fields "flows" with
    | .error f => (some f, c)
    | .ok flows =>
      match seedWith Flow.ofDocument addFlow c flows with
      | (some f, c) => (some f, c)
      | (none, c) =>
        match Argument.membersOf fields "agents" with
        | .error f => (some f, c)
        | .ok agents => seedWith (fun v => (Agent.ofValue v).toExcept) addAgent c agents

/-- The characters of a file with every line end written in the same way, whether it was a line feed, a
carriage return or one after the other. -/
def evenLines : List Char → List Char
  | '\r' :: '\n' :: rest | '\r' :: rest => '\n' :: evenLines rest
  | c :: rest => c :: evenLines rest
  | [] => []

def fileOf : Value → Except Fault String
  | .str file => if Text.holdsHalf file then .error (.halves file) else .ok file
  | _ => .error .wrongType

def seed (c : Catalogue) (file : String) : Option Fault × Catalogue :=
  let text := String.ofList (evenLines file.toList)
  match Value.ofJson text with
  | .error e => (some (.badJson text e), c)
  | .ok v => c.seedValue v

end Catalogue

end Chatflow
