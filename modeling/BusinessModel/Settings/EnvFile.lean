import BusinessModel.Settings.Environment
import BusinessModel.Text.Space

/-!
# Environment files

A file of bindings, one to a line: a name, perhaps behind the word `export`, and perhaps an equals
sign with a value.  A value is plain text up to a comment, or stands in single or double quotes with
escapes in it, and may mention variables in braces with a default.  A line that is none of this is
skipped.

* `EnvFile.bindings` — the names and values of a file
* `EnvFile.skippedLines` — the lines that were skipped
-/

namespace BusinessModel.EnvFile

/-- What a line says. -/
inductive Line where
  | nothing
  | binding (name : String) (value : Option (List Char))
  | skipped
  deriving DecidableEq, Repr

def isLineEnd (c : Char) : Bool := c == '\n' || c == '\r'

/-- White space inside a line. -/
def isGap (c : Char) : Bool := isSpace c && !isLineEnd c

def skipGap (s : List Char) : List Char := s.dropWhile isGap

/-- Behind the end of the line, if nothing but white space and a comment precedes it. -/
def finishLine? (s : List Char) : Option (List Char) :=
  let rest := skipGap s
  let rest := if rest.head? = some '#' then rest.dropWhile fun c => !isLineEnd c else rest
  match skipGap rest with
  | [] => some []
  | '\r' :: '\n' :: after => some after
  | c :: after => if isLineEnd c then some after else none

/-- Behind the end of the line, whatever precedes it. -/
def skipLine (s : List Char) : List Char :=
  match s.dropWhile fun c => !isLineEnd c with
  | [] => []
  | _ :: after => after

/-- Behind the word `export`, if white space follows it. -/
def skipExport (s : List Char) : List Char :=
  match s with
  | 'e' :: 'x' :: 'p' :: 'o' :: 'r' :: 't' :: c :: rest => if isGap c then skipGap rest else s
  | _ => s

/-- A name, in single quotes or up to an equals sign, a comment or white space. -/
def readName? (s : List Char) : Option (String × List Char) :=
  match s with
  | '\'' :: rest =>
    let name := rest.takeWhile (· != '\'')
    match rest.drop name.length with
    | _ :: after => if name.isEmpty then none else some (String.ofList name, after)
    | [] => none
  | _ =>
    let name := s.takeWhile fun c => !(c == '=' || c == '#' || isSpace c)
    if name.isEmpty then none else some (String.ofList name, s.drop name.length)

/-- The text up to the closing quote and what follows that.  A character behind a backslash does not
close it. -/
def readQuoted? (quote : Char) : List Char → Option (List Char × List Char)
  | [] => none
  | '\\' :: c :: rest => (readQuoted? quote rest).map fun found => ('\\' :: c :: found.1, found.2)
  | c :: rest =>
    if c = quote then some ([], rest)
    else (readQuoted? quote rest).map fun found => (c :: found.1, found.2)

/-- The character of an escape; single quotes know two of them. -/
def escaped? (double : Bool) (c : Char) : Option Char :=
  match c, double with
  | '\\', _ => some '\\'
  | '\'', _ => some '\''
  | '"', true => some '"'
  | 'a', true => some '\x07'
  | 'b', true => some '\x08'
  | 'f', true => some '\x0c'
  | 'n', true => some '\n'
  | 'r', true => some '\r'
  | 't', true => some '\t'
  | 'v', true => some '\x0b'
  | _, _ => none

/-- A quoted text with its escapes replaced. -/
def unescape (double : Bool) : List Char → List Char
  | '\\' :: c :: rest =>
    match escaped? double c with
    | some ch => ch :: unescape double rest
    | none => '\\' :: unescape double (c :: rest)
  | c :: rest => c :: unescape double rest
  | [] => []

/-- Plain text up to a comment behind white space. -/
def uncommented : List Char → List Char
  | [] => []
  | c :: rest =>
    if isSpace c && (rest.dropWhile isSpace).head? == some '#' then []
    else c :: uncommented rest

/-- A value and what follows it.  Behind white space it may be nothing but a comment. -/
def readValue? (afterGap : Bool) (s : List Char) : Option (List Char × List Char) :=
  match s with
  | '\'' :: rest => (readQuoted? '\'' rest).map fun found => (unescape false found.1, found.2)
  | '"' :: rest => (readQuoted? '"' rest).map fun found => (unescape true found.1, found.2)
  | [] => some ([], [])
  | c :: _ =>
    if isLineEnd c || afterGap && c == '#' then some ([], s)
    else
      let line := s.takeWhile fun c => !isLineEnd c
      some (trimRight (uncommented line), s.drop line.length)

/-- A line with what it says and what follows it.  A line that is skipped ends behind the place
where it stopped making sense. -/
def readLine (s : List Char) : Line × List Char :=
  let s := s.dropWhile isSpace
  if s.isEmpty then (.nothing, [])
  else
    let s := skipExport s
    if s.head? = some '#' then
      match finishLine? s with
      | some after => (.nothing, after)
      | none => (.skipped, skipLine s)
    else
      match readName? s with
      | none => (.skipped, skipLine s)
      | some (name, rest) =>
        match skipGap rest with
        | '=' :: behind =>
          let more := skipGap behind
          match readValue? (more.length < behind.length) more with
          | none => (.skipped, skipLine more)
          | some (value, after) =>
            match finishLine? after with
            | some next => (.binding name (some value), next)
            | none => (.skipped, skipLine (skipGap after))
        | rest =>
          match finishLine? rest with
          | some next => (.binding name none, next)
          | none => (.skipped, skipLine (skipGap rest))

/-- The lines of a text, each with its number. -/
def readLines : Nat → Nat → List Char → List (Nat × Line)
  | 0, _, _ => []
  | fuel + 1, number, s =>
    if s.isEmpty then []
    else
      let (line, rest) := readLine s
      let read := s.take (s.length - rest.length)
      (number, line) :: readLines fuel (number + read.count '\n') rest

/-! ### Mentions of variables -/

/-- The variable with its default that is mentioned in braces here, and what follows. -/
def mention? (s : List Char) : Option (String × String × List Char) :=
  match s with
  | '$' :: '\x7b' :: rest =>
    let name := rest.takeWhile fun c => c != '\x7d' && c != ':'
    match rest.drop name.length with
    | '\x7d' :: after => some (String.ofList name, "", after)
    | ':' :: '-' :: more =>
      let fallback := more.takeWhile (· != '\x7d')
      match more.drop fallback.length with
      | _ :: after => some (String.ofList name, String.ofList fallback, after)
      | [] => none
    | _ => none
  | _ => none

/-- A value with the variables that it mentions replaced. -/
def interpolate (lookup : String → Option String) : Nat → List Char → List Char
  | 0, s => s
  | _, [] => []
  | fuel + 1, c :: rest =>
    match mention? (c :: rest) with
    | some (name, fallback, after) =>
      ((lookup name).getD fallback).toList ++ interpolate lookup fuel after
    | none => c :: interpolate lookup fuel rest

/-- The bindings of a file, in order, names without a value among them.  A value may mention the
names bound before it in the file, and then the environment. -/
def resolve (environment : Environment) (lines : List Line) : List (String × Option String) :=
  lines.foldl
    (fun known line => match line with
      | .binding name none => known ++ [(name, none)]
      | .binding name (some value) =>
        let lookup (mentioned : String) : Option String :=
          match known.reverse.lookup mentioned with
          | some bound => some (bound.getD "")
          | none => environment.get? mentioned
        known ++ [(name, some (String.ofList (interpolate lookup (value.length + 1) value)))]
      | _ => known)
    []

/-- The bindings that a file leaves: of several for a name the last, at the place of the first. -/
def bindings (environment : Environment) (text : String) : List (String × Option String) :=
  let lines := readLines (text.length + 1) 1 text.toList
  (resolve environment (lines.map (·.2))).foldl
    (fun named binding =>
      if named.any (·.1 == binding.1) then
        named.map fun old => if old.1 = binding.1 then binding else old
      else named ++ [binding]) []

/-- The value of a name whose case does not matter; the last binding counts, even one without a
value. -/
def getAnyCase? (bindings : List (String × Option String)) (name : String) : Option String :=
  (bindings.reverse.find? fun binding => binding.1.toLower == name).bind (·.2)

/-- The numbers of the lines that were skipped. -/
def skippedLines (text : String) : List Nat :=
  (readLines (text.length + 1) 1 text.toList).filterMap fun line =>
    if line.2 = .skipped then some line.1 else none

end BusinessModel.EnvFile
