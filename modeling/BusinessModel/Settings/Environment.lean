/-!
# Environments

An environment binds names to texts, in the order in which the names were first bound.

* `Environment.changeAll`, `Environment.restore` — changes of variables and what undoes them
* `Environment.expand` — a text with the variables that it mentions replaced
* `Environment.expandHome` — a path with the home directory for a tilde in front
-/

namespace BusinessModel

/-- The variables of a process. -/
abbrev Environment := List (String × String)

/-- A variable that is to be bound to a value, or to be unbound. -/
abbrev VariableChange := String × Option String

/-- Why a variable cannot be bound. -/
inductive VariableProblem where
  /-- A null character stands in its name or its value. -/
  | nullCharacter
  /-- An equals sign stands in its name. -/
  | equalsSign
  | noName
  deriving DecidableEq, Repr

def VariableProblem.message : VariableProblem → String
  | nullCharacter => "embedded null byte"
  | equalsSign => "illegal environment variable name"
  | noName => "[Errno 22] Invalid argument"

namespace Environment

/-- The value of a variable. -/
def get? (e : Environment) (name : String) : Option String := e.lookup name

/-- The environment with a variable bound; one that is bound already keeps its place. -/
def bind (e : Environment) (name value : String) : Environment :=
  match e with
  | [] => [(name, value)]
  | (n, v) :: rest => if n = name then (n, value) :: rest else (n, v) :: bind rest name value

/-- The environment without a variable. -/
def unbind (e : Environment) (name : String) : Environment :=
  e.filter fun binding => binding.1 != name

/-- The environment with a variable bound, if its name and value can be. -/
def bind? (e : Environment) (name value : String) : Except VariableProblem Environment :=
  if name.contains '\x00' || value.contains '\x00' then .error .nullCharacter
  else if name.contains '=' then .error .equalsSign
  else if name.isEmpty then .error .noName
  else .ok (e.bind name value)

/-- The environment with a variable bound, or unbound. -/
def change? (e : Environment) (change : VariableChange) : Except VariableProblem Environment :=
  match change.2 with
  | some value => e.bind? change.1 value
  | none => .ok (e.unbind change.1)

/-- The environment after some changes, as far as they can be made, and what keeps the rest from
being made. -/
def changeAll (e : Environment) :
    List VariableChange → Environment × Except VariableProblem Unit
  | [] => (e, .ok ())
  | change :: rest =>
    match e.change? change with
    | .ok next => changeAll next rest
    | .error problem => (e, .error problem)

/-- The environment with some variables as they are in another one. -/
def restore (e old : Environment) (names : List String) : Environment :=
  names.foldl
    (fun e name => match old.get? name with
      | some value => e.bind name value
      | none => e.unbind name) e

/-- The value of a name whose case does not matter; the last binding counts. -/
def getAnyCase? (e : Environment) (name : String) : Option String :=
  (e.reverse.find? fun binding => binding.1.toLower == name).map (·.2)

def isNameChar (c : Char) : Bool := c.isAlphanum || c == '_'

/-- The variable that is mentioned behind a dollar sign, in braces or not, and what follows the
mention. -/
def mention? (s : List Char) : Option (String × List Char) :=
  match s with
  | '\x7b' :: rest =>
    let name := rest.takeWhile (· != '\x7d')
    match rest.drop name.length with
    | _ :: after => some (String.ofList name, after)
    | [] => none
  | _ =>
    let name := s.takeWhile isNameChar
    if name.isEmpty then none else some (String.ofList name, s.drop name.length)

/-- Replace the variables that a text mentions by their values; unbound ones stay as they are. -/
def expandFrom (e : Environment) : Nat → List Char → List Char
  | 0, s => s
  | _, [] => []
  | fuel + 1, c :: rest =>
    if c = '$' then
      match mention? rest with
      | some (name, after) =>
        match e.get? name with
        | some value => value.toList ++ expandFrom e fuel after
        | none => '$' :: (rest.take (rest.length - after.length) ++ expandFrom e fuel after)
      | none => '$' :: expandFrom e fuel rest
    else c :: expandFrom e fuel rest

/-- A text with the variables that it mentions replaced. -/
def expand (e : Environment) (s : String) : String :=
  String.ofList (expandFrom e (s.length + 1) s.toList)

/-- A path with the home directory for a tilde that stands alone in front. -/
def expandHome (e : Environment) (path : String) : String :=
  match path.toList with
  | '~' :: rest =>
    if rest.isEmpty || rest.head? == some '/' then
      match e.get? "HOME" with
      | some home =>
        let trimmed := (home.toList.reverse.dropWhile (· == '/')).reverse
        let whole := trimmed ++ rest
        if whole.isEmpty then "/" else String.ofList whole
      | none => path
    else path
  | _ => path

end Environment

end BusinessModel
