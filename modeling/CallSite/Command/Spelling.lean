/-!
# Older spellings

Older build scripts write switches with a slash, in any case of letters, and the destination behind
a colon, perhaps in quotes. They mean the same as the switches of today.
-/

namespace CallSite.Command

/-- A text without the quotes at both of its ends. -/
def unquoted (cs : List Char) : List Char :=
  ((cs.dropWhile (· = '"')).reverse.dropWhile (· = '"')).reverse

/-- The destination that an argument names in the older way. -/
def outputOf? (argument : String) : Option String :=
  if "/out:".toList.isPrefixOf argument.toLower.toList then
    some (String.ofList (unquoted (argument.toList.drop 5)))
  else none

/-- An argument in the spelling of today. Arguments that are no switches stay as they are, and so do
paths that begin with a slash. -/
def modernized (argument : String) : List String :=
  match argument.toLower with
  | "/report" => ["--report"]
  | "/file" => ["--file"]
  | "/resource" => ["--resource"]
  | "/apiresource" => ["--api-resource"]
  | "/?" => ["--help"]
  | "/h" => ["--help"]
  | _ =>
      match outputOf? argument with
      | some path => ["--out", path]
      | none => [argument]

/-- Every argument in the spelling of today, whatever the one before it. -/
def modernize (arguments : List String) : List String :=
  arguments.flatMap modernized

end CallSite.Command
