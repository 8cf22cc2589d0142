/-!
# Patterns of scripts

Patterns with stars, question marks and bracketed classes; quoted characters match only themselves.
-/

namespace DumpReplay.Script

/-- Whether a character is in a bracketed class, and the pattern behind the class. -/
def inClass (c : Char) : Nat → List (Char × Bool) → Option (Bool × List (Char × Bool))
  | 0, _ => none
  | _, [] => none
  | fuel + 1, (d, _) :: rest =>
    if d = ']' then some (false, rest)
    else
      match rest with
      | ('-', false) :: (e, _) :: rest' =>
        if e = ']' then (inClass c fuel rest).map fun (found, rest) => (found || c == d, rest)
        else
          (inClass c fuel rest').map fun (found, rest) => (found || (d ≤ c && c ≤ e), rest)
      | _ => (inClass c fuel rest).map fun (found, rest) => (found || c == d, rest)

/-- Whether a text matches a pattern; quoted characters match only themselves. -/
def matchesPattern : Nat → List (Char × Bool) → List Char → Bool
  | 0, _, _ => false
  | _, [], text => text.isEmpty
  | fuel + 1, (p, quoted) :: pattern, text =>
    if p = '*' && !quoted then
      matchesPattern fuel pattern text ||
        match text with
        | [] => false
        | _ :: rest => matchesPattern fuel ((p, quoted) :: pattern) rest
    else
      match text with
      | [] => false
      | c :: rest =>
        if p = '?' && !quoted then matchesPattern fuel pattern rest
        else if p = '[' && !quoted then
          let negated := pattern.head? == some ('!', false)
          match inClass c (pattern.length + 1) (if negated then pattern.drop 1 else pattern) with
          | some (found, pattern) => found != negated && matchesPattern fuel pattern rest
          | none => c == p && matchesPattern fuel pattern rest
        else c == p && matchesPattern fuel pattern rest

end DumpReplay.Script
