import CallSite.Text.Split

/-!
# Source paths

Paths of source files as they are written in debug information, with either separator. A stored
path keeps the file name and at most two directories.
-/

namespace CallSite.SourcePath

def isSeparator (c : Char) : Bool :=
  c = '/' || c = '\\'

/-- The parts between separators. -/
def components (cs : List Char) : List (List Char) :=
  Text.split isSeparator cs

/-- The separator that a path uses: the backslash as soon as one occurs in it. -/
def separator (cs : List Char) : Char :=
  if cs.contains '\\' then '\\' else '/'

/-- Three dots, then every part with a separator before it. -/
def abbreviated (sep : Char) (parts : List (List Char)) : List Char :=
  ['.', '.', '.'] ++ parts.flatMap (sep :: ·)

/--
Keeps the last three components of a path, or the last two when there are three: what was dropped
is marked by three dots. A path of one or two components is reduced to the last.
-/
def shortenChars (cs : List Char) : List Char :=
  let parts := components cs
  if parts.length ≤ 2 then parts.getLastD []
  else
    let kept := if parts.length = 3 then 2 else 3
    abbreviated (separator cs) (parts.drop (parts.length - kept))

def shorten (path : String) : String :=
  String.ofList (shortenChars path.toList)

/-- Begins with a separator, or with one ASCII character and a colon. -/
def isAbsoluteChars : List Char → Bool
  | [] => false
  | c :: cs => isSeparator c || (decide (c.toNat < 128) && cs.head? == some ':')

/-- A directory without the separators at its end. -/
def trimEnd (dir : List Char) : List Char :=
  (dir.reverse.dropWhile isSeparator).reverse

/--
The path of a file named in a directory. An absolute name stands for itself, and so does a name in
an unnamed directory; otherwise one separator, the directory's own, stands between the two.
-/
def joinChars (dir name : List Char) : List Char :=
  if isAbsoluteChars name || dir.isEmpty then name
  else trimEnd dir ++ separator dir :: name

def isAbsolute (path : String) : Bool :=
  isAbsoluteChars path.toList

def join (dir name : String) : String :=
  String.ofList (joinChars dir.toList name.toList)

end CallSite.SourcePath
