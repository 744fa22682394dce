import AgentLedger.Text.Blank
import AgentLedger.Text.Letter
import AgentLedger.Text.Split
import AgentLedger.Text.Utf8
/-!
# Environments

Variables by name, and files that define further ones. A line of such a file
is blank, a comment, or an assignment `KEY=VALUE`, with `export` in front if
one likes. Reading stops at the first line that is none of these; variables
that have a value keep it.
-/

namespace AgentLedger

abbrev Environment := List (String × String)

namespace Environment

def get? (env : Environment) (name : String) : Option String := env.lookup name

/-- The variables whose values are text; the others count as absent. -/
def ofBytes (vars : List (String × Text.Bytes)) : Environment :=
  vars.filterMap fun (name, bs) => (Text.decode bs).strict?.map fun cs => (name, String.ofList cs)

/-! ## Values -/

/-- What a character of a value is read as. -/
inductive Mode where
  | plain
  /-- Behind a backslash. -/
  | escape
  /-- Between single quotes. -/
  | literal
  /-- In a name behind a dollar sign. -/
  | name (sofar : List Char)
  /-- In a name between braces. -/
  | braced (sofar : List Char)
  /-- Behind the value. -/
  | ending

def substituted (env : Environment) (name : List Char) : List Char :=
  ((env.get? (String.ofList name)).getD "").toList

def unescaped? (c : Char) : Option Char :=
  if c = 'n' then some '\n'
  else if c = '\\' ∨ c = '\'' ∨ c = '"' ∨ c = '$' ∨ c = ' ' then some c
  else none

/-- The value that a text stands for; `quoted` says that double quotes are
open. The character that ends a name without braces stands for itself, be it a
quote or a blank. -/
def readValue (env : Environment) (quoted : Bool) : Mode → List Char → Option (List Char)
  | .literal, [] | .braced _, [] => none
  | .name sofar, [] => if quoted then none else some (substituted env sofar)
  | .plain, [] | .escape, [] | .ending, [] => if quoted then none else some []
  | .ending, c :: cs =>
    if c = ' ' ∨ c = '\t' then readValue env quoted .ending cs
    else if c = '#' then some []
    else none
  | .escape, c :: cs =>
    match unescaped? c with
    | some d => (readValue env quoted .plain cs).map (d :: ·)
    | none => none
  | .literal, c :: cs =>
    if c = '\'' then readValue env quoted .plain cs else (readValue env quoted .literal cs).map (c :: ·)
  | .name sofar, c :: cs =>
    if Text.isLetterOrDigit c then readValue env quoted (.name (sofar ++ [c])) cs
    else if c = '\x7b' ∧ sofar = [] then readValue env quoted (.braced []) cs
    else if c = '$' then (readValue env quoted (.name []) cs).map (substituted env sofar ++ ·)
    else (readValue env quoted .plain cs).map (substituted env sofar ++ c :: ·)
  | .braced sofar, c :: cs =>
    if c = '\x7d' then (readValue env quoted .plain cs).map (substituted env sofar ++ ·)
    else readValue env quoted (.braced (sofar ++ [c])) cs
  | .plain, c :: cs =>
    if c = '$' then readValue env quoted (.name []) cs
    else if c = '"' then readValue env (!quoted) .plain cs
    else if c = '\\' then readValue env quoted .escape cs
    else if quoted then (readValue env quoted .plain cs).map (c :: ·)
    else if c = '\'' then readValue env quoted .literal cs
    else if c = ' ' ∨ c = '\t' then readValue env quoted .ending cs
    else (readValue env quoted .plain cs).map (c :: ·)

/-! ## Lines -/

inductive Line where
  | blank
  | assignment (key value : String)

def skipBlanks (cs : List Char) : List Char := cs.dropWhile Text.isBlank

def isKeyChar (c : Char) : Bool := c.isAlphanum || c == '_' || c == '.'

/-- A key, and what follows it. Keys begin with a letter or an underscore. -/
def readKey : List Char → Option (String × List Char)
  | [] => none
  | c :: cs =>
    if c.isAlpha || c == '_' then
      some (String.ofList (c :: cs.takeWhile isKeyChar), skipBlanks (cs.dropWhile isKeyChar))
    else none

/-- A key and the text behind its equals sign. The word `export` may stand in front of the key. -/
def readAssigned (cs : List Char) : Option (String × List Char) :=
  match readKey cs with
  | some (key, '=' :: rest) => some (key, skipBlanks rest)
  | some ("export", cs) =>
    match readKey cs with
    | some (key, '=' :: rest) => some (key, skipBlanks rest)
    | _ => none
  | _ => none

def readLine (env : Environment) (line : List Char) : Option Line :=
  match Text.trimmed line with
  | [] | '#' :: _ => some .blank
  | cs =>
    match readAssigned cs with
    | none => none
    | some (key, []) | some (key, '#' :: _) => some (.assignment key "")
    | some (key, cs) => (readValue env false .plain cs).map fun v => .assignment key (String.ofList v)

/-- Gives a variable a value, unless it has one. -/
def define (env : Environment) (name value : String) : Environment :=
  if (env.get? name).isSome then env else env ++ [(name, value)]

def loadLines (env : Environment) : List (List Char) → Environment
  | [] => env
  | line :: lines =>
    match readLine env line with
    | none => env
    | some .blank => loadLines env lines
    | some (.assignment key value) => loadLines (env.define key value) lines

def load (text : String) (env : Environment) : Environment := loadLines env (Text.split '\n' text.toList)

end Environment

end AgentLedger
