import BusinessModel.CommandLine.Arguments

/-!
# Help pages

A help page tells how something is called and what it does, and lists its options and commands in
two columns, the second one two blanks behind the longest entry of the first.
-/

namespace BusinessModel.CommandLine

/-- What is shown about a program or one of its commands. -/
structure HelpPage where
  /-- How it is called, without the name of the program. -/
  usage : String
  /-- Paragraphs of lines. -/
  about : List (List String)
  options : List OptionForm
  commands : List (String × String)
  deriving Repr

/-- The name that the program is called by. -/
def programName : String := "bmml"

/-- The line on how something is called. -/
def usageLine (usage : String) : String :=
  s!"Usage: {programName} {usage}"

/-- An option with the values that it may take. -/
def OptionForm.display (form : OptionForm) : String :=
  if form.takesValue then
    let choices := "|".intercalate form.values
    s!"{form.name} [{choices}]"
  else form.name

/-- A line that belongs to what stands above it. -/
def indented (line : String) : String := "  " ++ line

/-- Rows of two columns. -/
def columns (rows : List (String × String)) : List String :=
  let width := (rows.map (·.1.length)).foldl max 0 + 2
  rows.map fun row => indented (row.1.pushn ' ' (width - row.1.length) ++ row.2)

/-- Rows under a heading, set off by an empty line; nothing without rows. -/
def headed (heading : String) (rows : List (String × String)) : List String :=
  if rows.isEmpty then [] else "" :: s!"{heading}:" :: columns rows

namespace HelpPage

/-- The lines of a page. -/
def lines (p : HelpPage) : List String :=
  usageLine p.usage :: (p.about.flatMap fun paragraph => "" :: paragraph.map indented)
    ++ headed "Options" (p.options.map fun form => (form.display, form.about))
    ++ headed "Commands" p.commands

end HelpPage

end BusinessModel.CommandLine
