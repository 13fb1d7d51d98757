/-!
# Object paths

Which texts name an object on the bus: the root alone, or one or more elements of ASCII letters,
digits and underscores, each behind a slash.
-/

namespace Telephony.Wire

def isPathChar (c : Char) : Bool :=
  ('a' ≤ c && c ≤ 'z') || ('A' ≤ c && c ≤ 'Z') || ('0' ≤ c && c ≤ '9') || c == '_'

/-- Whether the characters continue a path: after a slash an element must follow. -/
def continuesPath (atSlash : Bool) : List Char → Bool
  | [] => !atSlash
  | c :: rest =>
    if c == '/' then !atSlash && continuesPath true rest
    else isPathChar c && continuesPath false rest

def isObjectPath (text : String) : Bool :=
  match text.toList with
  | ['/'] => true
  | '/' :: rest => continuesPath true rest
  | _ => false

end Telephony.Wire
