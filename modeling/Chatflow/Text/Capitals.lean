/-! Capital letters of ASCII. Besides the small letters of ASCII a few other characters are written with them
in capitals. -/

namespace Chatflow.Text

/-- The other characters that are written with letters of ASCII in capitals. -/
def wideCapitals : List (Char × List Char) :=
  [('ß', ['S', 'S']), ('ı', ['I']), ('ſ', ['S']), ('ﬀ', ['F', 'F']), ('ﬁ', ['F', 'I']), ('ﬂ', ['F', 'L']),
    ('ﬃ', ['F', 'F', 'I']), ('ﬄ', ['F', 'F', 'L']), ('ﬅ', ['S', 'T']), ('ﬆ', ['S', 'T'])]

/-- A character in capitals; one that has no capitals in ASCII stays as it is. -/
def capitalsOf (c : Char) : List Char :=
  match wideCapitals.find? fun entry => entry.1 == c with
  | some (_, capitals) => capitals
  | none => [c.toUpper]

def capitals (s : String) : String := String.ofList (s.toList.flatMap capitalsOf)

end Chatflow.Text
