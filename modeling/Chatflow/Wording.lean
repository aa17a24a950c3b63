/-! The texts that contacts and operators get to read. -/

namespace Chatflow.Wording

/-- Sent when a reply fits no option. -/
def invalidOption : String := "Por favor, selecciona una opción válida."

/-- Closes a numbered list of options. -/
def choiceFooter : String := "Responde con el número de tu opción."

/-- Sent in place of a file that could not be sent. -/
def mediaFallback : String := "No pudimos enviar el archivo adjunto. Inténtalo más tarde."

/-- Sent in place of an AI agent's reply. -/
def aiFallbackReply : String := "Lo siento, no pude generar una respuesta."

/-- Messages that reset a conversation. -/
def resetPhrases : List String := ["reset chat", "reiniciar chat", "borrar chat"]

/-- Confirms a reset. -/
def resetConfirmation : String :=
  "Tu conversación fue reiniciada. Escribe un mensaje para comenzar de nuevo."

/-- Heads the notice of a hand-off with readable data. -/
def handoffTitle : String := "🤖 Nueva transferencia desde agente IA"

/-- Heads the notice of a hand-off whose data are plain text. -/
def rawHandoffTitle : String := "⚠️ Transferencia de agente IA (datos sin formato)"

def assignmentSubject : String := "Nueva conversación asignada"

/-- The body of the e-mail about an assignment. -/
def assignmentBody (address flowName : String) : String :=
  "Se te asignó la conversación con " ++ address ++ " desde el flujo \"" ++ flowName ++ "\"."

end Chatflow.Wording
