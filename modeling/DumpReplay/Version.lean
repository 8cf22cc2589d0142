/-!
# Compiler versions

A version names a compiler build: the one in a checkout, its class files, a commit on the main
branch, or a release.

Main results:

- `display_parse` : a version read from a text is shown as that text.
-/

namespace DumpReplay

/-- A build of the compiler. -/
inductive Version where
  /-- The jar built in the checkout. -/
  | main
  /-- The class files of the checkout. -/
  | source
  /-- A commit on the main branch, by its full hash. -/
  | hash (digits : String)
  /-- A release. -/
  | release (name : String)
deriving DecidableEq, Repr, Inhabited

namespace Version

/-- Whether a character is a hexadecimal digit. -/
def isHexDigit (c : Char) : Bool :=
  c.isDigit || ('a' ≤ c && c ≤ 'f') || ('A' ≤ c && c ≤ 'F')

/-- Whether a text is a full commit hash: exactly 40 hexadecimal digits. -/
def isHash (token : String) : Bool :=
  token.toList.length == 40 && token.toList.all isHexDigit

/-- The version that a text names. -/
def parse (token : String) : Version :=
  if token = "main" then main
  else if token = "source" then source
  else if isHash token then hash token
  else release token

/-- The text of a version. -/
def display : Version → String
  | main => "main"
  | source => "source"
  | hash digits => digits
  | release name => name

/-- Whether the build has to be fetched from the artifact store. -/
def isRemote : Version → Bool
  | main | source => false
  | hash _ | release _ => true

/-- A version read from a text is shown as that text. -/
@[simp] theorem display_parse (token : String) : (parse token).display = token := by
  unfold parse
  split
  · simp_all [display]
  · split
    · simp_all [display]
    · split <;> rfl

end Version

end DumpReplay
