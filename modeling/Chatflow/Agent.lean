import Chatflow.Schema.Field

/-! AI agents that can own a conversation. -/

namespace Chatflow

open Chatflow.Schema

structure Agent where
  id : String
  name : String
  systemPrompt : String := ""
  /-- Turns after which a closing reply is forced. -/
  maxTurns : Int := 20
  isActive : Bool := true
  language : String := "es"
  tone : String := "amigable"
  goal : String := ""
deriving Repr, DecidableEq

namespace Agent

def ofValue : Reader Agent :=
  record "AIAgent" fun fields =>
    Agent.mk <$> required fields ["id"] text
      <*> required fields ["name"] text
      <*> withDefault fields ["system_prompt", "systemPrompt"] "" text
      <*> withDefault fields ["max_turns", "maxTurns"] 20 (wholeWithin (some 1) (some 20))
      <*> withDefault fields ["is_active", "isActive"] true flag
      <*> withDefault fields ["language"] "es" text
      <*> withDefault fields ["tone"] "amigable" text
      <*> withDefault fields ["goal"] "" text

def toValue (a : Agent) : Value :=
  .obj [("id", .str a.id), ("name", .str a.name), ("system_prompt", .str a.systemPrompt),
    ("max_turns", .int a.maxTurns), ("is_active", .bool a.isActive), ("language", .str a.language),
    ("tone", .str a.tone), ("goal", .str a.goal)]

end Agent

end Chatflow
