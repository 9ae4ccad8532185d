import DocLinks.Text.Raw

namespace DocLinks.CommandLine

/-- The argument after which no option is read. -/
def endOfOptions : RawText := .ofText "--".toList

/-- The two options with a short form of two letters, and their long forms. -/
def shorthands : List (Text × Text) :=
  [("-sr".toList, "--static-root".toList), ("-sp".toList, "--static-prefix".toList)]

/-- The long form of an argument that is the short form, alone or with a value after an equals sign. -/
def expandAs? (short long arg : Text) : Option Text :=
  match short.isPrefixOf? arg with
  | some [] => some long
  | some ('=' :: value) => some (long ++ '=' :: value)
  | _ => none

/-- Only arguments that are text can be short forms. -/
def expand (arg : RawText) : RawText :=
  match arg.text?.bind fun text => shorthands.findSome? fun (short, long) => expandAs? short long text with
  | some text => .ofText text
  | none => arg

/-- Writes the long forms for the two-letter short ones, up to the end of the options. -/
def normalize : List RawText → List RawText
  | [] => []
  | arg :: rest => if arg = endOfOptions then arg :: rest else expand arg :: normalize rest

end DocLinks.CommandLine
