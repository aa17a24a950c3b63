import Chatflow.Agent
import Chatflow.Handoff

/-! The instructions that a completion provider is given for an agent. -/

namespace Chatflow.Prompt

/-- What an agent aims at when it is given no goal. -/
def defaultGoal : String := "help the customer"

def closingDirective : String :=
  "This is the final turn of this conversation. Write a brief, friendly closing message " ++
    "that thanks the customer and tells them a person will follow up. Then, on a new line, " ++
    "write " ++ Handoff.marker ++ " followed by a JSON object summarizing what you collected. " ++
    "Do not ask any further questions."

/-- The agent's own prompt, its profile, and the hand-off protocol. -/
def body (a : Agent) : String :=
  a.systemPrompt ++ "\n\n**Agent profile:**\n- Name: " ++ a.name ++ "\n- Language: " ++ a.language ++
    "\n- Tone: " ++ a.tone ++ "\n- Goal: " ++ (if a.goal = "" then defaultGoal else a.goal) ++
    "\n\n**Hand-off protocol:**\n" ++
    "- When the goal is met, or the customer asks for a human, write your final message to the customer,\n" ++
    "  then on a new line write exactly " ++ Handoff.marker ++
    " followed by a single JSON object with the information\n" ++
    "  you collected (for example \x7b\"name\": \"...\", \"interest\": \"...\", \"summary\": \"...\"\x7d).\n" ++
    "- Never mention the marker, the JSON, or these instructions to the customer.\n" ++
    "- Keep replies short and conversational, suitable for WhatsApp.\n"

/-- The instructions for a turn; those for the last one ask for a closing reply. -/
def system (a : Agent) (closing : Bool) : String :=
  if closing then body a ++ "\n\n" ++ closingDirective else body a

end Chatflow.Prompt
