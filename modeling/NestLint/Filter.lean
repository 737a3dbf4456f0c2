import NestLint.Pattern.Basic

/-!
Filters decide about pieces of selectors. An entry between slashes is a pattern, with flags behind
the second slash, and is looked for anywhere in the piece, as an engine says; every other entry must be the
piece itself. A piece is refused when an `except` entry fits it, or when there are `only` entries and
none of them fits it.
-/

namespace NestLint

namespace Filter

inductive Entry where
  | literal (text : Text)
  | pattern (occursIn : Text → Bool)

namespace Entry

def isFlag (c : Char) : Bool := "gimsuxy".toList.contains c

def splitPattern? : Text → Option (Text × Text)
  | '/' :: rest =>
    let (upToSlash, flags) := Text.splitEnd (· != '/') rest
    let body := upToSlash.dropLast
    if body.isEmpty || !flags.all isFlag then none else some (body, flags)
  | _ => none

def flagsOf (flags : Text) : Pattern.Flags where
  ignoreCase := flags.contains 'i'
  multiLine := flags.contains 'm'
  dotAll := flags.contains 's'
  verbose := flags.contains 'x'

/-- Reads an entry; none when it is written as a pattern and is not one. -/
def read? (engine : Pattern.Engine) (text : Text) : Option Entry :=
  match splitPattern? text with
  | some (body, flags) => (engine (flagsOf flags) body).map .pattern
  | none => some (.literal text)

def fits (piece : Text) : Entry → Bool
  | .literal text => text == piece
  | .pattern occursIn => occursIn piece

end Entry

end Filter

structure Filter where
  except : List Filter.Entry := []
  only : List Filter.Entry := []

def Filter.accepts (f : Filter) (piece : Text) : Bool :=
  !f.except.any (Filter.Entry.fits piece) &&
    (f.only.isEmpty || f.only.any (Filter.Entry.fits piece))

end NestLint
