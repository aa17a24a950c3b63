/-! Sets of characters as ascending runs of code points, and maps given run by run. The larger ones are
written as text: `41-5A` is a run, `AA` a single character, and `C0-D6=E0` maps a run so that its first
character goes to the code point on the right and the others count on from there. -/

namespace Chatflow.Text

/-- The value of a hexadecimal numeral in capitals. -/
def hexValue (digits : List Char) : Nat :=
  digits.foldl (fun acc c => acc * 16 + if c ≤ '9' then c.toNat - 48 else c.toNat - 55) 0

/-- The words of a written table, which may take several lines. -/
def tableWords (text : String) : List String :=
  ((text.splitOn "\n").flatMap fun line => line.splitOn " ").filter (· != "")

/-- The two ends of a written run. -/
def readRun (word : String) : Nat × Nat :=
  match word.splitOn "-" with
  | [first, last] => (hexValue first.toList, hexValue last.toList)
  | _ => (hexValue word.toList, hexValue word.toList)

/-- Runs of code points, both ends included. -/
abbrev CharSet := List (Nat × Nat)

namespace CharSet

def read (text : String) : CharSet := (tableWords text).map readRun

def contains (set : CharSet) (c : Char) : Bool :=
  set.any fun run => run.1 ≤ c.toNat && c.toNat ≤ run.2

end CharSet

/-- A run of characters together with what each of them becomes. -/
structure MapRun where
  first : Nat
  last : Nat
  /-- Only every `step`-th character of the run is mapped. -/
  step : Nat
  /-- A single code point is the image of the first character; any other list is the image of all. -/
  image : List Nat
deriving Repr, DecidableEq

namespace MapRun

def read (word : String) : MapRun :=
  let (run, image) := match word.splitOn "=" with
    | [run, image] => (run, image)
    | _ => (word, "")
  let (ends, step) := match run.splitOn "/" with
    | [ends, _] => (ends, 2)
    | _ => (run, 1)
  let (first, last) := readRun ends
  ⟨first, last, step, if image = "" then [] else (image.splitOn "+").map fun code => hexValue code.toList⟩

def readAll (text : String) : List MapRun := (tableWords text).map read

def imageOf? (run : MapRun) (code : Nat) : Option (List Char) :=
  if run.first ≤ code ∧ code ≤ run.last ∧ (code - run.first) % run.step = 0 then
    some <| match run.image with
      | [start] => [Char.ofNat (start + (code - run.first))]
      | image => image.map Char.ofNat
  else
    none

end MapRun

/-- What the first run that maps the character makes of it; a character no run maps stays. -/
def mapChar (runs : List MapRun) (c : Char) : List Char :=
  (runs.findSome? fun run => run.imageOf? c.toNat).getD [c]

end Chatflow.Text
